import ProcessControl.Text.Alphanumeric
import ProcessControl.Text.Pattern.CharClass

namespace ProcessControl.Text.Pattern

-- The items of a sequence, the last one first: how deep each is nested, or nothing for a change of flags, which
-- cannot be repeated.
abbrev Items := List (Option Nat)

def Items.height : Items → Nat
  | [] => 0
  | [item] => item.getD 0
  | items => (items.filterMap id).foldl max 0 + 1

structure Branches where
  items : Items := []
  done : List Nat := []

namespace Branches

def push (b : Branches) (item : Option Nat) : Branches := { b with items := item :: b.items }

def next (b : Branches) : Branches := ⟨[], b.items.height :: b.done⟩

def height (b : Branches) : Nat :=
  if b.done.isEmpty then b.items.height else (b.items.height :: b.done).foldl max 0 + 1

def repeat? (b : Branches) : Option Branches :=
  match b.items with
  | some h :: items => some { b with items := some (h + 1) :: items }
  | _ => none

end Branches

-- A group that is open: what came before it, and the flags that hold again after it.
structure Group where
  before : Branches
  flags : Flags

def flagLetters : List Char := "imsURux".toList

def Flags.set (fl : Flags) (on : Bool) : Char → Flags
  | 'i' => { fl with ignoreCase := on }
  | 'u' => { fl with characters := on }
  | 'x' => { fl with spaced := on }
  | _ => fl

-- The flags that letters make of others; those after a dash are switched off. Each letter is given once, and a dash
-- has some after it.
def Flags.read? (fl : Flags) (letters : List Char) : Option Flags :=
  let isKnown := letters.all fun c => c == '-' || flagLetters.contains c
  if isKnown && letters.eraseDups.length == letters.length && letters.getLast? != some '-' then
    let on := letters.takeWhile (· != '-')
    let off := letters.drop on.length
    some (off.foldl (·.set false ·) (on.foldl (·.set true ·) fl))
  else none

def groupName? (cs : List Char) : Option (List Char × List Char) :=
  let name := cs.takeWhile (· != '>')
  let isFirst (c : Char) : Bool := c == '_' || isAlphabetic c
  let isNext (c : Char) : Bool := c == '_' || c == '.' || c == '[' || c == ']' || isAlphanumeric c
  match cs.drop name.length with
  | '>' :: rest => if name.head?.any isFirst && name.tail.all isNext then some (name, rest) else none
  | _ => none

def nestingLimit : Nat := 250

structure State where
  flags : Flags := {}
  groups : List Group := []
  branches : Branches := {}
  names : List (List Char) := []

namespace State

def push (s : State) (item : Option Nat) : State := { s with branches := s.branches.push item }

def opened (s : State) (flags : Flags) : State :=
  { s with flags, groups := ⟨s.branches, s.flags⟩ :: s.groups, branches := {} }

def close? (s : State) : Option State :=
  match s.groups with
  | [] => none
  | g :: groups =>
    some { s with flags := g.flags, groups, branches := g.before.push (some (s.branches.height + 1)) }

def repeat? (s : State) : Option State := do return { s with branches := ← s.branches.repeat? }

def group? (s : State) (cs : List Char) : Option (State × List Char) :=
  let named (rest : List Char) : Option (State × List Char) := do
    let (name, rest) ← groupName? rest
    if s.names.contains name then none
    else return ({ s.opened s.flags with names := name :: s.names }, rest)
  match s.flags.skip cs with
  | '?' :: 'P' :: '<' :: rest => named rest
  | '?' :: '<' :: rest => named rest
  | '?' :: rest => do
    let letters := rest.takeWhile fun c => c != ':' && c != ')'
    let flags ← s.flags.read? letters
    match rest.drop letters.length with
    | ':' :: rest => return (s.opened flags, rest)
    | ')' :: rest => if letters.isEmpty then none else return ({ s with flags }.push none, rest)
    | _ => none
  | rest => some (s.opened s.flags, rest)

def sign? (s : State) (sign : Sign) : Option State := if s.flags.admits sign then some (s.push (some 0)) else none

def step? (s : State) (c : Char) (rest : List Char) : Option (State × List Char) := do
  match c with
  | '(' => s.group? rest
  | ')' => return (← s.close?, rest)
  | '|' => return ({ s with branches := s.branches.next }, rest)
  | '[' =>
    let (height, rest) ← class? s.flags rest
    return (s.push (some height), rest)
  | '*' | '+' | '?' => return (← s.repeat?, if rest.head? = some '?' then rest.tail else rest)
  | '{' => none
  | '\\' =>
    let (sign, rest) ← escape? s.flags rest
    return (← s.sign? sign, rest)
  | '.' => if s.flags.characters then return (s.push (some 0), rest) else none
  | '^' | '$' => return (s.push (some 0), rest)
  | c => return (← s.sign? (.literal c false), rest)

def accepts : Nat → State → List Char → Bool
  | 0, _, _ => false
  | fuel + 1, s, cs =>
    match s.flags.skip cs with
    | [] => s.groups.isEmpty && s.branches.height ≤ nestingLimit
    | c :: rest =>
      match s.step? c rest with
      | some (s, rest) => accepts fuel s rest
      | none => false

end State

-- Whether a text is a regular expression. What needs tables of all characters is not in the grammar, nor are
-- look-around and references to groups; a brace is never closed, as expressions come from between braces.
def isWellFormed (cs : List Char) : Bool := ({} : State).accepts (cs.length + 1) cs

end ProcessControl.Text.Pattern
