import ProcessControl.Sim.Shell.Arithmetic
import ProcessControl.Sim.Shell.Pattern
import ProcessControl.Sim.Shell.Scope

namespace ProcessControl.Sim.Shell

inductive Mark
  -- A character, which may end a field only if it was put in outside quotes.
  | char (c : Char) (quoted splits : Bool)
  | quotes
  -- The end of an argument among several.
  | cut
  -- No arguments at all, which take the quotes around them away.
  | nothing

structure Progress where
  scope : Scope
  outputs : List (List Char)

abbrev Expander := StateT Progress (Except String)

namespace Expander

def text (cs : List Char) (quoted : Bool) : List Mark := cs.map (.char · quoted (!quoted))

def separators (s : Scope) : List Char := (s.value? "IFS").getD [' ', '\t', '\n']

def arguments (s : Scope) (joined quoted : Bool) : List Mark :=
  match s.arguments with
  | [] => [.nothing]
  | first :: rest =>
    let one (cs : List Char) : List Mark := if quoted then .quotes :: text cs quoted else text cs quoted
    if joined && quoted then
      let between := text (separators s).head?.toList true
      .quotes :: text first true ++ rest.flatMap fun a => between ++ text a true
    else one first ++ rest.flatMap fun a => .cut :: one a

def parameter? (s : Scope) (name : String) : Option (List Char) :=
  match name with
  | "@" | "*" => if s.arguments = [] then none else some ([' '].intercalate s.arguments)
  | "#" => some (Text.Decimal.digits s.arguments.length)
  | "?" => some (Text.Decimal.digits s.status)
  | "$" => some (Text.Decimal.digits s.own)
  | "!" => s.jobs.head?.map Text.Decimal.digits
  | "-" => some (Scope.letters.filter s.has)
  | "0" => some s.title
  | _ =>
    match Text.Decimal.read? name.toList with
    | some n => s.arguments[n - 1]?
    | none => s.value? name

def output : Expander (List Char) := do
  let p ← get
  set { p with outputs := p.outputs.tail }
  return ((p.outputs.headD []).reverse.dropWhile (· == '\n')).reverse

def memory : Arithmetic.Memory Scope where
  get s name := s.value name
  set name value s := s.assign name value

def evaluate (cs : List Char) : Expander (List Char) := do
  match Arithmetic.read? cs with
  | none => throw "arithmetic expression: syntax error"
  | some e =>
    let p ← get
    let (n, scope) ← (Arithmetic.evaluate memory e p.scope : Except String _)
    set { p with scope }
    return Arithmetic.text n

def plain (ms : List Mark) : List Char :=
  ms.filterMap fun
    | .char c _ _ => some c
    | .cut => some ' '
    | _ => none

def source (ms : List Mark) : Pattern.Source :=
  ms.filterMap fun
    | .char c quoted _ => some (c, quoted)
    | .cut => some (' ', true)
    | _ => none

-- A text that was put in, as a pattern of which only the unquoted characters are special.
def unquote (ms : List Mark) (quoted : Bool) : List Mark :=
  if quoted then ms else ms.map fun
    | .char c q _ => .char c q (!q)
    | m => m

mutual

def marks : Nat → Word → Expander (List Mark)
  | 0, _ => throw "too deep"
  | fuel + 1, w => do
    return (← w.mapM (part fuel)).flatten

def part : Nat → Part → Expander (List Mark)
  | 0, _ => throw "too deep"
  | fuel + 1, p => do
    match p with
    | .char c quoted => return [.char c quoted false]
    | .quotes => return [.quotes]
    | .command _ quoted => return text (← output) quoted
    | .arithmetic e quoted => return text (← evaluate (plain (← marks fuel e))) quoted
    | .parameter name use quoted =>
      let s := (← get).scope
      let value := parameter? s name
      let present (orEmpty : Bool) := value.any fun v => !(orEmpty && v.isEmpty)
      let shown : List Mark :=
        if name = "@" || name = "*" then arguments s (name == "*") quoted else text (value.getD []) quoted
      let checked : Expander Unit := do
        if value.isNone && s.has 'u' && name != "@" && name != "*" then throw (name ++ ": parameter not set")
      match use with
      | .value => checked; return shown
      | .length =>
        checked
        let n := if name = "@" || name = "*" then s.arguments.length else (value.getD []).length
        return text (Text.Decimal.digits n) quoted
      | .instead orEmpty word =>
        if present orEmpty then return unquote (← marks fuel word) quoted else return []
      | .without atStart longest pattern =>
        checked
        let p := Pattern.ofSource (source (← marks fuel pattern))
        return text (p.strip atStart longest (value.getD [])) quoted
      | .otherwise mark orEmpty word =>
        if present orEmpty then return shown
        let ms ← marks fuel word
        if mark = '=' then
          modify fun p => { p with scope := p.scope.assign name (plain ms) }
          return text (plain ms) quoted
        else if mark = '?' then
          let unset := if orEmpty then "parameter not set or null" else "parameter not set"
          throw (name ++ ": " ++ (if plain ms = [] then unset else String.ofList (plain ms)))
        else return unquote ms quoted

end

def depth : Nat := 64

def withHome (w : Word) : Expander Word := do
  match w with
  | .char '~' false :: rest =>
    match rest with
    | [] | .char '/' _ :: _ =>
      match (← get).scope.value? "HOME" with
      | some home => return home.map (Part.char · true) ++ rest
      | none => return w
    | _ => return w
  | _ => return w

def whole (w : Word) : Expander (List Char) := do
  return plain (← marks depth (← withHome w))

-- The text that is assigned; a tilde may also follow a colon in it.
def assigned : Word → Expander (List Char) := fun w => do
  let pieces := w.splitBy fun a _ => !isColon a
  return (← pieces.mapM fun piece => do
    match piece.getLast? with
    | some (.char ':' false) => return (← whole piece.dropLast) ++ [':']
    | _ => whole piece).flatten
where
  isColon : Part → Bool
    | .char ':' false => true
    | _ => false

def pattern (w : Word) : Expander Pattern := do
  return Pattern.ofSource (source (← marks depth (← withHome w)))

-- The fields that are complete, last one first, and the open one, read backwards; `pending` tells whether blanks
-- have just ended a field, so that a separator after them does not end another.
structure Splitter where
  done : List Pattern.Source := []
  open? : Option Pattern.Source := none
  pending : Bool := false
  nothing : Bool := false

namespace Splitter

def close (s : Splitter) (pending : Bool) : Splitter :=
  match s.open? with
  | some f => { s with done := f.reverse :: s.done, open? := none, pending }
  | none => s

def step (separators : List Char) (s : Splitter) : Mark → Splitter
  | .quotes => { s with open? := some (s.open?.getD []), pending := false }
  | .cut => { s.close false with pending := false }
  | .nothing => { s with nothing := true }
  | .char c quoted splits =>
    if splits && separators.contains c then
      if c = ' ' || c = '\t' || c = '\n' then s.close true
      else if s.open?.isSome then s.close false
      else if s.pending then { s with pending := false }
      else { s with done := [] :: s.done }
    else { s with open? := some ((c, quoted) :: s.open?.getD []), pending := false }

-- All fields; a word of nothing but quotes around no arguments is none.
def finish (s : Splitter) : List Pattern.Source :=
  if s.nothing && s.done.isEmpty && s.open? == some [] then [] else (s.close false).done.reverse

end Splitter

-- The names in a directory that a pattern matches, in alphabetical order; hidden ones only on demand.
def namesIn (files : Node) (directory : Path) (s : Pattern.Source) : List (List Char) :=
  let p := Pattern.ofSource s
  let hidden := s.head?.any (·.1 == '.')
  let names := Path.here :: Path.up :: (Node.list directory files).toOption.getD [] |>.map charsOf
  (names.filter fun n => (hidden || n.head? != some '.') && p.accepts n).mergeSort atMost

def filesOf (files : Node) (s : Scope) : List Pattern.Source → List Char → List (List Char)
  | [], front => [front]
  | part :: rest, front =>
    let slash (cs : List Char) := if rest.isEmpty then cs else cs ++ ['/']
    if Pattern.isSpecial part then
      (namesIn files (s.path front) part).flatMap fun n => filesOf files s rest (slash (front ++ n))
    else
      let front := front ++ part.map (·.1)
      if (Node.find (s.path front) files).toOption.isSome then filesOf files s rest (slash front) else []

def partsOf (f : Pattern.Source) : List Pattern.Source :=
  f.foldr (fun x parts =>
    match parts with
    | first :: rest => if x.1 = '/' then [] :: first :: rest else (x :: first) :: rest
    | [] => [[x]]) [[]]

def files (root : Node) (s : Scope) (f : Pattern.Source) : List (List Char) :=
  if Pattern.isSpecial f && !s.has 'f' then
    let found := match partsOf f with
      | [] :: rest => filesOf root s rest ['/']
      | parts => filesOf root s parts []
    if found.isEmpty then [f.map (·.1)] else found
  else [f.map (·.1)]

def fields (root : Node) (w : Word) : Expander (List (List Char)) := do
  let ms ← marks depth (← withHome w)
  let s := (← get).scope
  let found := (ms.foldl (Splitter.step (separators s)) {}).finish
  return found.flatMap (files root s)

end Expander

end ProcessControl.Sim.Shell
