import ProcessControl.Json.Shape

namespace ProcessControl.Json

-- What follows a tag, and what both mean together.
inductive Details (α : Type)
  | number (limit : Nat) (expected : String) (make : Nat → α)
  | text (make : String → α)
  | nothing (title : String) (a : α)

-- How the alternatives of a choice are written: as a tag with its details, in an object or in an array of the two. In
-- an object the details may come first, and are then kept as a value until the tag tells what they mean.
structure Tagging (α : Type) where
  -- What the whole choice is called where something else stands.
  title : String
  tagName : String
  detailsName : String
  alternatives : List (String × Details α)

namespace Details

variable {α : Type}

-- The meaning without details: only an alternative that has none allows it.
def absent? : Details α → Option α
  | .nothing _ a => some a
  | _ => none

def read : Details α → Reader α
  | .number limit expected make => do return make (← Reader.natural limit expected)
  | .text make => do return make (← Reader.text)
  | .nothing title a => do
    match ← Reader.peek? with
    | some 'n' => Reader.advance; Reader.word "ull".toList; return a
    | _ => Reader.unexpected title

def ofValue : Details α → Value → Except Mismatch α
  | .number limit expected make, .num n => (n.below limit expected).map make
  | .number _ expected _, v => .error (.kind v.found expected)
  | .text make, .str s => .ok (make s)
  | .text _, v => .error (.kind v.found "a string")
  | .nothing _ a, .null => .ok a
  | .nothing title _, v => .error (.kind v.found title)

end Details

namespace Tagging

open Reader

variable {α : Type}

inductive Progress (α : Type)
  | fresh
  | tagged (details : Details α)
  | buffered (details : Value)
  | finished (a : α)

-- The nesting that details may have when they come before the tag.
def bufferLimit : Nat := nestingLimit - 1

def member (t : Tagging α) (most : Nat) (progress : Progress α) (name : String) : Reader (Progress α) := do
  if name == t.tagName then
    match progress with
    | .fresh => colon; return .tagged (← oneOf t.alternatives)
    | .buffered v =>
      colon
      let details ← oneOf t.alternatives
      return .finished (← accept (details.ofValue v))
    | _ => refuse (.duplicate t.tagName)
  else if name == t.detailsName then
    match progress with
    | .fresh => colon; return .buffered (← value most bufferLimit)
    | .tagged details => colon; return .finished (← details.read)
    | _ => refuse (.duplicate t.detailsName)
  else
    colon
    skip most
    return progress

def ofProgress (t : Tagging α) : Progress α → Except Mismatch α
  | .finished a => .ok a
  | .tagged details =>
    match details.absent? with
    | some a => .ok a
    | none => .error (.missing t.detailsName)
  | _ => .error (.missing t.tagName)

def read (t : Tagging α) : Reader α := do
  match ← peek? with
  | some '\x7b' =>
    advance
    accept (t.ofProgress (← members (← bound) (t.member (← bound)) .fresh))
  | some '[' =>
    advance
    if !(← nextItem true) then refuse (.length 0 t.title)
    let details ← oneWord t.alternatives
    if !(← nextItem false) then refuse (.length 1 t.title)
    let a ← details.read
    closeArray
    return a
  | _ => unexpected t.title

end Tagging

end ProcessControl.Json
