import ProcessControl.Text.Blank

namespace ProcessControl.Text.Pattern

structure Flags where
  ignoreCase : Bool := false
  characters : Bool := true
  spaced : Bool := false
deriving DecidableEq, Repr

-- A text without the blanks and comments at its front, of which so many may be skipped.
def skipSpace : Nat → List Char → List Char
  | 0, cs => cs
  | fuel + 1, cs =>
    match cs.dropWhile isBlank with
    | '#' :: rest => skipSpace fuel ((rest.dropWhile (· != '\n')).drop 1)
    | rest => rest

def Flags.skip (fl : Flags) (cs : List Char) : List Char := if fl.spaced then skipSpace cs.length cs else cs

-- The sign after the one at the front. A comment is looked into instead of skipped.
def Flags.peek? (fl : Flags) (cs : List Char) : Option Char :=
  let rest := cs.tail
  if !fl.spaced then rest.head?
  else
    match rest.dropWhile isBlank with
    | '#' :: inner => (inner.dropWhile isBlank).head?.or rest.head?
    | c :: _ => some c
    | [] => rest.head?

inductive Sign
  | literal (c : Char) (byte : Bool)
  -- Digits, blanks or word characters, or all others.
  | kind (negated : Bool)
  | place (word : Bool)
deriving DecidableEq, Repr

def isEscapable (c : Char) : Bool := c.toNat < 0x80 && !c.isAlphanum && c != '<' && c != '>'

def controls : List (Char × Char) :=
  [('a', '\x07'), ('f', '\x0c'), ('t', '\t'), ('n', '\n'), ('r', '\r'), ('v', '\x0b')]

def hexValue? (c : Char) : Option Nat :=
  if c.isDigit then some (c.toNat - 48)
  else if 'a' ≤ c && c ≤ 'f' then some (c.toNat - 87)
  else if 'A' ≤ c && c ≤ 'F' then some (c.toNat - 55)
  else none

def hex? (fl : Flags) : Nat → Nat → List Char → Option (Nat × List Char)
  | 0, n, cs => some (n, cs)
  | count + 1, n, cs => do
    match fl.skip cs with
    | c :: rest => hex? fl count (16 * n + (← hexValue? c)) rest
    | [] => none

def numbered? (fl : Flags) (count : Nat) (byte : Bool) (cs : List Char) : Option (Sign × List Char) := do
  let (n, rest) ← hex? fl count 0 cs
  if n.isValidChar then return (.literal (Char.ofNat n) byte, fl.skip rest) else none

-- What an escape stands for whose backslash has been read. Properties of characters and references to groups are
-- not known.
def escape? (fl : Flags) : List Char → Option (Sign × List Char)
  | [] => none
  | c :: rest =>
    if isEscapable c then some (.literal c false, rest)
    else
      match c with
      | 'x' => numbered? fl 2 true rest
      | 'u' => numbered? fl 4 false rest
      | 'U' => numbered? fl 8 false rest
      | 'd' | 's' | 'w' => some (.kind false, rest)
      | 'D' | 'S' | 'W' => some (.kind true, rest)
      | 'A' | 'z' => some (.place false, rest)
      | 'b' | 'B' | '<' | '>' => some (.place true, rest)
      | _ => (controls.lookup c).map fun d => (.literal d false, rest)

-- Whether a sign that stands outside of a class can be told without tables of all characters.
def Flags.admits (fl : Flags) : Sign → Bool
  | .literal c byte => if fl.characters then !fl.ignoreCase else !(byte && 0x7F < c.toNat)
  | .kind negated => !fl.characters && !negated
  | .place word => !(word && fl.characters)

end ProcessControl.Text.Pattern
