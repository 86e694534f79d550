import ProcessControl.Text.Pattern.CharClass

namespace ProcessControl.Sim.Shell

inductive Atom
  | anything
  | anyChar
  | literal (c : Char)
  | oneOf (negated : Bool) (ranges : List (Char × Char))

def Atom.accepts (a : Atom) (c : Char) : Bool :=
  match a with
  | .anything | .anyChar => true
  | .literal d => c == d
  | .oneOf negated ranges => (ranges.any fun (low, high) => low ≤ c && c ≤ high) != negated

abbrev Pattern := List Atom

namespace Pattern

-- A character of a pattern; a quoted one stands for itself.
abbrev Source := List (Char × Bool)

def isSpecial (s : Source) : Bool :=
  s.any fun (c, quoted) => !quoted && (c == '*' || c == '?' || c == '[')

def classRanges (name : String) : List (Char × Char) := (Text.Pattern.asciiClasses.lookup name).getD []

-- The ranges of a set in brackets and what follows it; a closing bracket that comes first stands for itself.
def ranges? : Nat → Bool → List (Char × Char) → Source → Option (List (Char × Char) × Source)
  | 0, _, _, _ => none
  | fuel + 1, first, done, s =>
    match s with
    | [] => none
    | (']', false) :: rest =>
      if first then ranges? fuel false ((']', ']') :: done) rest else some (done, rest)
    | ('[', false) :: (':', false) :: rest =>
      let name := (rest.takeWhile (·.1 != ':')).map (·.1)
      match rest.drop name.length with
      | (':', _) :: (']', _) :: rest => ranges? fuel false (classRanges (String.ofList name) ++ done) rest
      | _ => ranges? fuel false (('[', '[') :: done) ((':', false) :: rest)
    | (low, _) :: ('-', false) :: (high, quoted) :: rest =>
      if high = ']' && !quoted then ranges? fuel false ((low, low) :: ('-', '-') :: done) ((high, quoted) :: rest)
      else ranges? fuel false ((low, high) :: done) rest
    | (c, _) :: rest => ranges? fuel false ((c, c) :: done) rest

def ofSource (s : Source) : Pattern := go (s.length + 1) s
where
  go : Nat → Source → Pattern
    | 0, _ => []
    | _, [] => []
    | fuel + 1, ('*', false) :: rest => .anything :: go fuel rest
    | fuel + 1, ('?', false) :: rest => .anyChar :: go fuel rest
    | fuel + 1, ('[', false) :: rest =>
      let negated := rest.head?.any fun (c, quoted) => !quoted && c == '!'
      match ranges? (rest.length + 1) true [] (if negated then rest.tail else rest) with
      | some (ranges, rest) => .oneOf negated ranges :: go fuel rest
      | none => .literal '[' :: go fuel rest
    | fuel + 1, (c, _) :: rest => .literal c :: go fuel rest

def suffixes : List Char → List (List Char)
  | [] => [[]]
  | c :: cs => (c :: cs) :: suffixes cs

def accepts : Pattern → List Char → Bool
  | [], cs => cs.isEmpty
  | .anything :: rest, cs => (suffixes cs).any (accepts rest)
  | _ :: _, [] => false
  | a :: rest, c :: cs => a.accepts c && accepts rest cs

-- The text without what the pattern matches at one end.
def strip (p : Pattern) (atStart longest : Bool) (cs : List Char) : List Char :=
  let sizes := List.range (cs.length + 1)
  let sizes := if longest then sizes.reverse else sizes
  let piece (n : Nat) := if atStart then cs.take n else cs.drop (cs.length - n)
  match sizes.find? fun n => p.accepts (piece n) with
  | some n => if atStart then cs.drop n else cs.take (cs.length - n)
  | none => cs

end Pattern

end ProcessControl.Sim.Shell
