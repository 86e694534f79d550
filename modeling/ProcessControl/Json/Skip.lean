import ProcessControl.Json.Reader

namespace ProcessControl.Json.Reader

def skipStringBytes : List UInt8 → Except Fault (List UInt8)
  | [] => .error .truncated
  | 0x22 :: rest => .ok rest
  | 0x5C :: 0x75 :: a :: b :: c :: d :: rest =>
    if (hex4? a b c d).isSome then skipStringBytes rest else .error .malformed
  | [0x5C] => .error .truncated
  | 0x5C :: 0x75 :: _ => .error .truncated
  | 0x5C :: e :: rest => if (unescape? e).isSome then skipStringBytes rest else .error .malformed
  | b :: rest => if b < 0x20 then .error .malformed else skipStringBytes rest

def skipString : Reader Unit := do
  set (← (skipStringBytes (← get) : Except Fault _))

def skipExponent : Reader Unit := do
  advance
  match ← front? with
  | some '+' | some '-' => advance
  | _ => pure ()
  if (← digits).isEmpty then malformed

-- A number whose sign has been passed; one that breaks off is malformed.
def skipNumber : Reader Unit := do
  match ← digits with
  | [] => malformed
  | 0x30 :: _ :: _ => malformed
  | _ =>
    match ← front? with
    | some '.' =>
      advance
      if (← digits).isEmpty then malformed
      match ← front? with
      | some 'e' | some 'E' => skipExponent
      | _ => return
    | some 'e' | some 'E' => skipExponent
    | _ => return

inductive Frame
  | array
  | object
deriving DecidableEq

def Frame.close : Frame → Char
  | .array => ']'
  | .object => '\x7d'

def skipName : Reader Unit := do
  match ← peek? with
  | some '"' => advance; skipString; colon
  | some _ => malformed
  | none => truncated

-- Closes what ends here and finds the next item: the frames still open, or nothing when the value is
-- complete.
def skipClosings : List Frame → (afterItem : Bool) → Reader (List Frame)
  | [], _ => return []
  | frame :: outer, afterItem => do
    match ← peek? with
    | none => truncated
    | some c =>
      if c = frame.close then
        advance
        skipClosings outer true
      else
        if afterItem then
          if c = ',' then advance else malformed
        if frame = .object then skipName
        return frame :: outer

-- Passes over a scalar, or over the front of an array or object, which is then open.
def enter : Reader (Option Frame) := do
  match ← peek? with
  | none => truncated
  | some 'n' => advance; word "ull".toList; return none
  | some 't' => advance; word "rue".toList; return none
  | some 'f' => advance; word "alse".toList; return none
  | some '"' => advance; skipString; return none
  | some '-' => advance; skipNumber; return none
  | some '[' => advance; return some .array
  | some '\x7b' => advance; return some .object
  | some c => if c.isDigit then do skipNumber; return none else malformed

-- Passes over one value inside the open frames, and over all that follows until they are closed: fewer values than
-- so many.
def skipInside : Nat → List Frame → Reader Unit
  | 0, _ => malformed
  | most + 1, frames => do
    let entered ← enter
    match ← skipClosings (entered.toList ++ frames) entered.isNone with
    | [] => return
    | still => skipInside most still

-- Passes over one value with fewer parts than so many. It may be nested to any depth and hold lone surrogates: only the
-- grammar is checked.
def skip (most : Nat) : Reader Unit := skipInside most []

end ProcessControl.Json.Reader
