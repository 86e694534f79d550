namespace ProcessControl.Sim.Shell

mutual

-- A piece of a word. What stands in quotes is neither split into fields nor taken for a pattern.
inductive Part
  | char (c : Char) (quoted : Bool)
  -- A pair of quotes, which makes a field even of an empty text.
  | quotes
  | parameter (name : String) (use : Use) (quoted : Bool)
  | command (text : List Char) (quoted : Bool)
  | arithmetic (expression : List Part) (quoted : Bool)

inductive Use
  | value
  | length
  -- Something else where there is no value: a word, a word that is assigned, or a failure.
  | otherwise (mark : Char) (orEmpty : Bool) (word : List Part)
  | instead (orEmpty : Bool) (word : List Part)
  -- The value without what the pattern matches at one end.
  | without (atStart longest : Bool) (pattern : List Part)

end

abbrev Word := List Part

-- The order of texts: the first characters that differ decide, and the start of a text comes before it.
def atMost : List Char → List Char → Bool
  | [], _ => true
  | _ :: _, [] => false
  | a :: as, b :: bs => if a = b then atMost as bs else a < b

namespace Word

def bare? (w : Word) : Option (List Char) :=
  w.mapM fun
    | .char c false => some c
    | _ => none

def ofText (cs : List Char) : Word := .quotes :: cs.map (.char · true)

def hasQuotes (w : Word) : Bool :=
  w.any fun
    | .char _ quoted => quoted
    | .quotes => true
    | _ => false

def plain (w : Word) : List Char :=
  w.filterMap fun
    | .char c _ => some c
    | _ => none

-- The texts of the commands in a word whose output it takes, in the order in which they run.
def commands (w : Word) : List (List Char) := go 64 w
where
  go : Nat → Word → List (List Char)
    | 0, _ => []
    | depth + 1, w => w.flatMap fun
      | .command text _ => [text]
      | .arithmetic e _ => go depth e
      | .parameter _ (.otherwise _ _ inner) _ => go depth inner
      | .parameter _ (.instead _ inner) _ => go depth inner
      | .parameter _ (.without _ _ inner) _ => go depth inner
      | _ => []

end Word

def isNameStart (c : Char) : Bool := c.isAlpha || c == '_'

def isNameChar (c : Char) : Bool := c.isAlphanum || c == '_'

def isName (cs : List Char) : Bool := cs.head?.any isNameStart && cs.all isNameChar

def isSpecial (c : Char) : Bool := "?$!#@*-0123456789".toList.contains c

def bytesOf (cs : List Char) : List UInt8 := cs.map fun c => c.toNat.toUInt8

def charsOf (bytes : List UInt8) : List Char := bytes.map fun b => Char.ofNat b.toNat

end ProcessControl.Sim.Shell
