import ProcessControl.Text.Pattern.Escape
import ProcessControl.Text.RangeSet

namespace ProcessControl.Text.Pattern

structure Members where
  set : RangeSet
  -- Whether it is known to have each letter in both cases.
  folded : Bool
deriving DecidableEq, Repr

namespace Members

def empty : Members := ⟨.empty, true⟩

def index (c : Char) : Nat := if c.toNat < 0xD800 then c.toNat else c.toNat - 0x800

def size (fl : Flags) : Nat := if fl.characters then 0x10F800 else 0x100

def insert (m : Members) (low high : Char) : Members :=
  ⟨m.set.union (.range (index low) (index high + 1)), false⟩

def union (m n : Members) : Members :=
  if n.set.isEmpty || m.set = n.set then m else ⟨m.set.union n.set, m.folded && n.folded⟩

def inter (m n : Members) : Members :=
  if m.set.isEmpty then m
  else if n.set.isEmpty then empty
  else ⟨m.set.inter n.set, m.folded && n.folded⟩

def diff (m n : Members) : Members :=
  if m.set.isEmpty || n.set.isEmpty then m else ⟨m.set.diff n.set, m.folded && n.folded⟩

def compl (fl : Flags) (m : Members) : Members :=
  let all := RangeSet.range 0 (size fl)
  if m.set.isEmpty then ⟨all, true⟩ else ⟨all.diff m.set, m.folded⟩

-- Adds the letters of the other case if case is ignored. Letters are ASCII where bytes are matched, and are not
-- added here, as only members beyond ASCII are of interest then.
def fold? (fl : Flags) (m : Members) : Option Members :=
  if !(fl.ignoreCase && fl.characters) then some m
  else if m.folded || m.set.isEmpty then some { m with folded := true }
  else none

def close? (fl : Flags) (negated : Bool) (m : Members) : Option Members := do
  let m ← fold? fl m
  let m := if negated then compl fl m else m
  if fl.characters || (m.set.diff (.range 0 0x80)).isEmpty then return m else none

end Members

inductive ClassOp
  | inter
  | diff
  | symmDiff
deriving DecidableEq, Repr

def ClassOp.apply : ClassOp → Members → Members → Members
  | .inter, m, n => m.inter n
  | .diff, m, n => m.diff n
  | .symmDiff, m, n => (m.union n).diff (m.inter n)

-- A part of a class: its members, how many items it has, and how deep they are nested.
structure ClassPart where
  members : Members := .empty
  items : Nat := 0
  height : Nat := 0

namespace ClassPart

def add (p : ClassPart) (members : Members) (height : Nat) : ClassPart :=
  ⟨members, p.items + 1, max p.height height⟩

-- The part as one item; several items are one level deeper.
def single (p : ClassPart) : ClassPart := if 1 < p.items then { p with height := p.height + 1 } else p

end ClassPart

inductive ClassFrame
  | opened (outer : ClassPart) (negated : Bool)
  -- An operation that waits for its second operand.
  | op (op : ClassOp) (left : ClassPart)

def asciiClasses : List (String × List (Char × Char)) := [
  ("alnum", [('0', '9'), ('A', 'Z'), ('a', 'z')]), ("alpha", [('A', 'Z'), ('a', 'z')]), ("ascii", [('\x00', '\x7f')]),
  ("blank", [('\t', '\t'), (' ', ' ')]), ("cntrl", [('\x00', '\x1f'), ('\x7f', '\x7f')]), ("digit", [('0', '9')]),
  ("graph", [('!', '~')]), ("lower", [('a', 'z')]), ("print", [(' ', '~')]),
  ("punct", [('!', '/'), (':', '@'), ('[', '\x60'), ('\x7b', '~')]), ("space", [('\t', '\r'), (' ', ' ')]),
  ("upper", [('A', 'Z')]), ("word", [('0', '9'), ('A', 'Z'), ('_', '_'), ('a', 'z')]),
  ("xdigit", [('0', '9'), ('A', 'F'), ('a', 'f')])]

def named? (fl : Flags) (cs : List Char) : Option (Members × List Char) := do
  let (negated, cs) := match cs with
    | '^' :: rest => (true, rest)
    | cs => (false, cs)
  let name := cs.takeWhile (· != ':')
  let ranges ← asciiClasses.lookup (String.ofList name)
  match cs.drop name.length with
  | ':' :: ']' :: rest =>
    let m := ranges.foldl (fun m (low, high) => m.insert low high) Members.empty
    return (if negated then m.compl fl else m, rest)
  | _ => none

-- The start of a class whose opening bracket has been read: its negation, dashes, and a closing bracket that stands
-- for itself.
def opening (fl : Flags) (cs : List Char) : Bool × ClassPart × List Char :=
  let (negated, cs) := match fl.skip cs with
    | '^' :: rest => (true, fl.skip rest)
    | cs => (false, cs)
  let (part, cs) := dashes cs.length {} cs
  match cs with
  | ']' :: rest =>
    if part.items = 0 then (negated, part.add (part.members.insert ']' ']') 0, rest) else (negated, part, cs)
  | cs => (negated, part, cs)
where
  dashes : Nat → ClassPart → List Char → ClassPart × List Char
    | fuel + 1, part, '-' :: rest => dashes fuel (part.add (part.members.insert '-' '-') 0) (fl.skip rest)
    | _, part, cs => (part, cs)

-- Joins an operand with the operations that wait for it; those before it come first.
def operate? (fl : Flags) : List ClassFrame → ClassPart → Option (List ClassFrame × ClassPart)
  | .op op left :: frames, right => do
    let n ← right.members.fold? fl
    let m ← left.members.fold? fl
    return (frames, ⟨Members.empty.union (op.apply m n), 1, max left.height right.height + 1⟩)
  | frames, part => some (frames, part)

def classOp? : Char → Option ClassOp
  | '&' => some .inter
  | '-' => some .diff
  | '~' => some .symmDiff
  | _ => none

def classSign? (fl : Flags) : List Char → Option (Sign × List Char)
  | '\\' :: rest => escape? fl rest
  | c :: rest => some (.literal c false, rest)
  | [] => none

-- A single character or a range added to a class, and what follows. Digits, blanks and word characters are ASCII
-- where they are known.
def classItem? (fl : Flags) (part : ClassPart) (cs : List Char) : Option (ClassPart × List Char) := do
  let (sign, rest) ← classSign? fl cs
  let rest := fl.skip rest
  let isKnown (c : Char) : Bool := fl.characters || c.toNat < 0x80
  let alone : Option (ClassPart × List Char) :=
    match sign with
    | .literal c _ => if isKnown c then some (part.add (part.members.insert c c) 0, rest) else none
    | .kind negated => if fl.admits (.kind negated) then some (part.add (part.members.insert '0' '9') 0, rest) else none
    | .place _ => none
  match rest with
  | '-' :: more =>
    let next := fl.peek? rest
    if next = some ']' || next = some '-' then alone
    else
      match sign, ← classSign? fl (fl.skip more) with
      | .literal low _, (.literal high _, after) =>
        if low ≤ high && isKnown high then some (part.add (part.members.insert low high) 0, after) else none
      | _, _ => none
  | _ => alone

def classRest? (fl : Flags) : Nat → List ClassFrame → ClassPart → List Char → Option (Nat × List Char)
  | 0, _, _, _ => none
  | fuel + 1, frames, part, cs => do
    match fl.skip cs with
    | [] => none
    | '[' :: rest =>
      match rest with
      | ':' :: name =>
        match named? fl name with
        | some (m, rest) => classRest? fl fuel frames (part.add (part.members.union m) 0) rest
        | none =>
          let (negated, inner, rest) := opening fl rest
          classRest? fl fuel (.opened part negated :: frames) inner rest
      | _ =>
        let (negated, inner, rest) := opening fl rest
        classRest? fl fuel (.opened part negated :: frames) inner rest
    | ']' :: rest =>
      let (frames, whole) ← operate? fl frames part.single
      match frames with
      | .opened outer negated :: frames =>
        let m ← whole.members.close? fl negated
        if frames.isEmpty then return (whole.height + 1, rest)
        classRest? fl fuel frames (outer.add (outer.members.union m) (whole.height + 1)) rest
      | _ => none
    | c :: rest =>
      match classOp? c, rest with
      | some op, d :: more =>
        if c = d then
          let (frames, left) ← operate? fl frames part.single
          classRest? fl fuel (.op op left :: frames) {} more
        else
          let (part, rest) ← classItem? fl part (c :: rest)
          classRest? fl fuel frames part rest
      | _, _ =>
        let (part, rest) ← classItem? fl part (c :: rest)
        classRest? fl fuel frames part rest

def class? (fl : Flags) (cs : List Char) : Option (Nat × List Char) :=
  let (negated, part, rest) := opening fl cs
  classRest? fl (cs.length + 1) [.opened {} negated] part rest

end ProcessControl.Text.Pattern
