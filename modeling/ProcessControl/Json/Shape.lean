import ProcessControl.Json.Skip

namespace ProcessControl.Json

def Number.found : Number → Found
  | .natural n => .natural n
  | .negative n => .negative n
  | .floating x => .floating x

-- A natural number below the limit. Another integer is out of range, and a double is of another kind.
def Number.below (limit : Nat) (expected : String) : Number → Except Mismatch Nat
  | .natural n => if n < limit then .ok n else .error (.range (.natural n) expected)
  | .negative n => .error (.range (.negative n) expected)
  | .floating x => .error (.kind (.floating x) expected)

def Value.found : Value → Found
  | .null => .null
  | .bool b => .bool b
  | .num n => n.found
  | .str s => .text s
  | .arr _ => .sequence
  | .obj _ => .map

namespace Reader

variable {α σ : Type}

def accept : Except Mismatch α → Reader α
  | .ok a => return a
  | .error why => refuse why

-- Refuses the value that comes next. A scalar is read to its end first, an array or object is not.
def unexpected (expected : String) : Reader α := do
  match ← peek? with
  | none => truncated
  | some 'n' => advance; word "ull".toList; refuse (.kind .null expected)
  | some 't' => advance; word "rue".toList; refuse (.kind (.bool true) expected)
  | some 'f' => advance; word "alse".toList; refuse (.kind (.bool false) expected)
  | some '"' => advance; refuse (.kind (.text (← string)) expected)
  | some '-' => advance; refuse (.kind (← number true).found expected)
  | some '[' => refuse (.kind .sequence expected)
  | some '\x7b' => refuse (.kind .map expected)
  | some c => if c.isDigit then do refuse (.kind (← number false).found expected) else malformed

def natural (limit : Nat) (expected : String) : Reader Nat := do
  match ← peek? with
  | none => truncated
  | some '-' => advance; accept ((← number true).below limit expected)
  | some c =>
    if c.isDigit then do accept ((← number false).below limit expected)
    else unexpected expected

def boolean : Reader Bool := do
  match ← peek? with
  | some 't' => advance; word "rue".toList; return true
  | some 'f' => advance; word "alse".toList; return false
  | _ => unexpected "a boolean"

def text : Reader String := do
  match ← peek? with
  | some '"' => advance; string
  | _ => unexpected "a string"

def optional (item : Reader α) : Reader (Option α) := do
  match ← peek? with
  | some 'n' => advance; word "ull".toList; return none
  | _ => return some (← item)

def ofWord (words : List (String × α)) (w : String) : Reader α :=
  match words.lookup w with
  | some a => return a
  | none => refuse (.variant w (words.map (·.1)))

def oneWord (words : List (String × α)) : Reader α := do
  match ← peek? with
  | some '"' => advance; ofWord words (← string)
  | _ => unexpected "variant identifier"

-- One of the given words, alone or as the only name of an object whose member is `null`.
def oneOf (words : List (String × α)) : Reader α := do
  match ← peek? with
  | none => truncated
  | some '"' =>
    advance
    ofWord words (← string)
  | some '\x7b' =>
    advance
    match ← peek? with
    | none => truncated
    | some '"' => advance
    | some _ => malformed
    let a ← ofWord words (← string)
    colon
    match ← peek? with
    | some 'n' => advance; word "ull".toList
    | _ => unexpected "unit"
    match ← peek? with
    | none => truncated
    | some '\x7d' => advance; return a
    | some _ => malformed
  | some _ => malformed

-- A member of an object: how it is read into a draft, and whether the draft has it.
structure Member (σ : Type) where
  name : String
  given : σ → Bool
  read : σ → Reader σ

-- A member of an object, from the colon after its name on. A name that is not known is passed over with its value, and
-- no member is given twice.
def entry (known : List (Member σ)) (most : Nat) (draft : σ) (name : String) : Reader σ :=
  match known.find? (·.name == name) with
  | none => do colon; skip most; return draft
  | some m => if m.given draft then refuse (.duplicate name) else do colon; m.read draft

def fromMembers (known : List (Member σ)) (empty : σ) : Reader σ := do
  let most ← bound
  members most (entry known most) empty

def fromItems (expected : String) : List (Member σ) → Nat → σ → Reader σ
  | [], _, draft => return draft
  | m :: rest, i, draft => do
    if ← nextItem (i == 0) then fromItems expected rest (i + 1) (← m.read draft)
    else refuse (.length i expected)

-- An object with the given members, or an array of them in this order. A full draft is turned into the result;
-- what is missing in the draft of an object is refused there.
def aggregate (title : String) (known : List (Member σ)) (empty : σ) (finish : σ → Except Mismatch α) :
    Reader α := do
  match ← peek? with
  | some '[' =>
    advance
    let expected := title ++ " with " ++ Text.Decimal.text known.length ++ " elements"
    let a ← accept (finish (← fromItems expected known 0 empty))
    closeArray
    return a
  | some '\x7b' =>
    advance
    accept (finish (← fromMembers known empty))
  | _ => unexpected title

def required (name : String) : Option α → Except Mismatch α
  | some a => .ok a
  | none => .error (.missing name)

end Reader

end ProcessControl.Json
