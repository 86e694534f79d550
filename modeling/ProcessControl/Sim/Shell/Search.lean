import ProcessControl.Sim.Shell.Pattern

namespace ProcessControl.Sim.Shell

inductive Search
  | empty
  | atom (a : Atom)
  | start
  | stop
  | sequence (a b : Search)
  | either (a b : Search)
  | repeated (least : Nat) (most? : Option Nat) (a : Search)
  | group (index : Nat) (a : Search)

namespace Search

-- A matched piece: what is left of the text after it, and the groups in it.
structure Match where
  rest : List Char
  groups : List (Nat × List Char) := []

def matches_ : Nat → Search → Bool → Match → List Match
  | 0, _, _, _ => []
  | fuel + 1, r, atStart, m =>
    match r with
    | .empty => [m]
    | .atom a =>
      match m.rest with
      | c :: rest => if a.accepts c then [{ m with rest }] else []
      | [] => []
    | .start => if atStart then [m] else []
    | .stop => if m.rest.isEmpty then [m] else []
    | .sequence a b =>
      (matches_ fuel a atStart m).flatMap fun n =>
        matches_ fuel b (atStart && n.rest.length == m.rest.length) n
    | .either a b => matches_ fuel a atStart m ++ matches_ fuel b atStart m
    | .repeated least most? a =>
      let more := if most? = some 0 then [] else
        ((matches_ fuel a atStart m).filter (·.rest.length < m.rest.length)).flatMap fun n =>
          matches_ fuel (.repeated (least - 1) (most?.map (· - 1)) a) false n
      if least = 0 then more ++ [m]
      else if (matches_ fuel a atStart m).any (·.rest.length == m.rest.length) then m :: more
      else more
    | .group i a =>
      (matches_ fuel a atStart m).map fun n =>
        { n with groups := (i, m.rest.take (m.rest.length - n.rest.length)) :: n.groups }

def longest? (r : Search) (atStart : Bool) (cs : List Char) : Option Match :=
  (matches_ (40 * (cs.length + 10)) r atStart ⟨cs, []⟩).foldl (fun best m =>
    if best.all fun b => m.rest.length < b.rest.length then some m else best) none

def find? (r : Search) (atStart : Bool) (skipped : List Char) : List Char → Option (List Char × Match)
  | [] => (longest? r atStart []).map (skipped.reverse, ·)
  | c :: cs =>
    match longest? r atStart (c :: cs) with
    | some m => some (skipped.reverse, m)
    | none => find? r false (c :: skipped) cs

-- How expressions are written: with or without backslashes before brackets, bars and the like.
structure Reader where
  extended : Bool
  ignoreCase : Bool

def Reader.literal (rd : Reader) (c : Char) : Search :=
  if rd.ignoreCase && c.isAlpha then .atom (.oneOf false [(c.toLower, c.toLower), (c.toUpper, c.toUpper)])
  else .atom (.literal c)

def Reader.operator? (rd : Reader) (ops : List Char) (cs : List Char) : Option (Char × List Char) :=
  match rd.extended, cs with
  | true, c :: rest => if ops.contains c then some (c, rest) else none
  | false, '\\' :: c :: rest => if ops.contains c then some (c, rest) else none
  | _, _ => none

def bounds? (rd : Reader) (cs : List Char) : Option (Nat × Option Nat × List Char) := do
  let low := cs.takeWhile Char.isDigit
  let number (ds : List Char) := (String.ofList ds).toNat?
  let least := (number low).getD 0
  let (most?, rest) := match cs.drop low.length with
    | ',' :: rest =>
      let high := rest.takeWhile Char.isDigit
      (number high, rest.drop high.length)
    | rest => (some least, rest)
  let (_, rest) ← rd.operator? ['\x7d'] rest
  return (least, most?, rest)

mutual

-- Alternatives; also gives the number of the next group.
def alternatives? : Nat → Reader → Nat → List Char → Option (Search × Nat × List Char)
  | 0, _, _, _ => none
  | fuel + 1, rd, next, cs => do
    let (a, next, rest) ← pieces? fuel rd next .empty true cs
    match rd.operator? ['|'] rest with
    | some (_, rest) =>
      let (b, next, rest) ← alternatives? fuel rd next rest
      return (.either a b, next, rest)
    | none => return (a, next, rest)

def pieces? : Nat → Reader → Nat → Search → Bool → List Char → Option (Search × Nat × List Char)
  | 0, _, _, _, _, _ => none
  | fuel + 1, rd, next, done, first, cs => do
    if cs.isEmpty || (rd.operator? ['|', ')'] cs).isSome then return (done, next, cs)
    let (a, next, rest) ← piece? fuel rd next first cs
    let (a, rest) ← suffixes? fuel rd a rest
    pieces? fuel rd next (.sequence done a) false rest

def suffixes? : Nat → Reader → Search → List Char → Option (Search × List Char)
  | 0, _, _, _ => none
  | fuel + 1, rd, a, cs => do
    match cs with
    | '*' :: rest => suffixes? fuel rd (.repeated 0 none a) rest
    | cs =>
      match rd.operator? ['+', '?', '\x7b'] cs with
      | some ('+', rest) => suffixes? fuel rd (.repeated 1 none a) rest
      | some ('?', rest) => suffixes? fuel rd (.repeated 0 (some 1) a) rest
      | some (_, rest) =>
        let (least, most?, rest) ← bounds? rd rest
        suffixes? fuel rd (.repeated least most? a) rest
      | none => return (a, cs)

def piece? : Nat → Reader → Nat → Bool → List Char → Option (Search × Nat × List Char)
  | 0, _, _, _, _ => none
  | fuel + 1, rd, next, first, cs => do
    match rd.operator? ['('] cs with
    | some (_, rest) =>
      let (a, after, rest) ← alternatives? fuel rd (next + 1) rest
      let (_, rest) ← rd.operator? [')'] rest
      return (.group next a, after, rest)
    | none =>
      match cs with
      | '.' :: rest => return (.atom .anyChar, next, rest)
      | '^' :: rest => return (if rd.extended || first then .start else rd.literal '^', next, rest)
      | '$' :: rest =>
        let ends := rd.extended || rest.isEmpty || (rd.operator? ['|', ')'] rest).isSome
        return (if ends then .stop else rd.literal '$', next, rest)
      | '[' :: rest =>
        let negated := rest.head? = some '^'
        let body := (if negated then rest.tail else rest).map (·, false)
        let (ranges, rest) ← Pattern.ranges? (body.length + 1) true [] body
        let ranges := if rd.ignoreCase then
            ranges ++ ranges.map (fun (a, b) => (a.toLower, b.toLower)) ++
              ranges.map fun (a, b) => (a.toUpper, b.toUpper)
          else ranges
        return (.atom (.oneOf negated ranges), next, rest.map (·.1))
      | '\\' :: c :: rest => return (rd.literal c, next, rest)
      | c :: rest => return (rd.literal c, next, rest)
      | [] => none

end

def read? (rd : Reader) (cs : List Char) : Option Search := do
  match ← alternatives? (8 * cs.length + 8) rd 1 cs with
  | (r, _, []) => return r
  | _ => none

def literal (ignoreCase : Bool) (cs : List Char) : Search :=
  cs.foldr (fun c r => .sequence ((⟨false, ignoreCase⟩ : Reader).literal c) r) .empty

end Search

end ProcessControl.Sim.Shell
