import ProcessControl.Sim.Shell.Focus

namespace ProcessControl.Sim.Shell.Builtin

-- The first line of a text: its characters, of which those after a backslash do not separate, and whether it has
-- an end.
def firstLine (raw : Bool) : List Mark → List Char → List Mark × Bool
  | done, [] => (done.reverse, false)
  | done, '\n' :: _ => (done.reverse, true)
  | done, '\\' :: c :: rest =>
    if raw then firstLine raw (.char '\\' false true :: done) (c :: rest)
    else if c = '\n' then firstLine raw done rest
    else firstLine raw (.char c true false :: done) rest
  | done, c :: rest => firstLine raw (.char c false true :: done) rest

def isSeparator (separators : List Char) : Mark → Bool
  | .char c quoted _ => !quoted && separators.contains c
  | _ => false

def isBlank (separators : List Char) : Mark → Bool
  | .char c quoted _ => !quoted && separators.contains c && (c == ' ' || c == '\t' || c == '\n')
  | _ => false

def firstField (separators : List Char) (ms : List Mark) : List Char × List Mark :=
  let field := ms.takeWhile (!isSeparator separators ·)
  let rest := (ms.drop field.length).dropWhile (isBlank separators)
  let rest := if rest.head?.any (isSeparator separators) then rest.tail.dropWhile (isBlank separators) else rest
  (Expander.plain field, rest)

-- The values of variables from the fields of a line; the last one takes all that is left.
def distribute (separators : List Char) : List String → List Mark → List (String × List Char)
  | [], _ => []
  | [last], ms =>
    let (only, rest) := firstField separators ms
    if rest.isEmpty then [(last, only)]
    else [(last, Expander.plain ((ms.reverse.dropWhile (isBlank separators)).reverse))]
  | name :: more, ms =>
    let (field, rest) := firstField separators ms
    (name, field) :: distribute separators more rest

def readLine (f : Focus) (names : List String) (raw : Bool) : Machine :=
  let (text, _) := f.machine.available f.process 0
  let count := (Machine.lineLength? raw 0 text).getD text.length
  let (line, whole) := firstLine raw [] (text.take count)
  let f := { f with machine := f.machine.consume f.process 0 count }
  let separators := Expander.separators f.scope
  f.assigning (distribute separators names (line.dropWhile (isBlank separators))) (·.done (if whole then 0 else 1))

def read (f : Focus) (args : List (List Char)) : Machine :=
  let raw := args.contains ['-', 'r']
  let names := (args.filter fun a => a.head? != some '-').map String.ofList
  if names.isEmpty then (f.complain "read: arg count").done 2 else
  match names.find? fun n => !isName n.toList with
  | some n => (f.complain ("read: " ++ n ++ ": bad variable name")).done 2
  | none =>
    (f.push [.read names raw]).store

end ProcessControl.Sim.Shell.Builtin
