import ProcessControl.Sim.Shell.Builtin

namespace ProcessControl.Sim.Shell

namespace Machine

-- A time in nanoseconds: seconds with a fraction, or another unit.
def sleepTime? (cs : List Char) : Option Nat :=
  let whole := cs.takeWhile Char.isDigit
  let rest := cs.dropWhile Char.isDigit
  let (fraction, unit) := match rest with
    | '.' :: more => (more.takeWhile Char.isDigit, more.dropWhile Char.isDigit)
    | _ => ([], rest)
  if whole = [] ∧ fraction = [] then none
  else
    let part := Text.Decimal.value fraction * 1000000000 / Nat.pow 10 fraction.length
    let nanos := Text.Decimal.value whole * 1000000000 + part
    match unit with
    | [] | ['s'] => some nanos
    | ['m'] => some (60 * nanos)
    | ['h'] => some (3600 * nanos)
    | ['d'] => some (86400 * nanos)
    | _ => none

def failing (m : Machine) (p : Process) (why : String) (status : Nat) : Machine :=
  ((m.write p 2 (why ++ "\n").toList).1).finish p.pid status

-- The assignments at the front of the arguments of `env`, and the command after them.
def withAssignments (s : Scope) : List (List Char) → Scope × List (List Char)
  | [] => (s, [])
  | ['-', 'i'] :: rest => withAssignments { s with vars := [] } rest
  | a :: rest =>
    match Builtin.pair a with
    | (n, some v) => withAssignments (s.put n ⟨some v, true, false⟩) rest
    | _ => (s, a :: rest)

def runShell (m : Machine) (p : Process) (s : Scope) (options : List Char) (text : List Char)
    (arguments : List (List Char)) : Machine :=
  let title := arguments.headD s.title
  let inner := { Scope.ofEnvironment s.environment title arguments.tail s.directory p.pid p.parent with
    options, mask := s.mask }
  m.update { p with task := .shell inner ((Command.read text).map .run), due := m.clock + Focus.stepTime }

def startShell (m : Machine) (p : Process) (s : Scope) (options : List Char) : List (List Char) → Machine
  | [] => m.update { p with task := .gathering (.script options ["sh".toList]) s [] }
  | ['-', 'c'] :: text :: rest => m.runShell p s options text (if rest.isEmpty then ["sh".toList] else rest)
  | ('-' :: cs) :: rest =>
    if cs.contains 'c' then m.runShell p s (cs.filter (· != 'c') ++ options) (rest.headD []) rest.tail
    else if cs.contains 's' then
      m.update { p with task := .gathering (.script (cs.filter (· != 's') ++ options) ("sh".toList :: rest)) s [] }
    else startShell m p s (cs ++ options) rest
  | file :: rest =>
    match Node.read (s.path file) m.files with
    | .ok data => m.runShell p s options (charsOf data) (file :: rest)
    | .error _ => m.failing p ("sh: 0: cannot open " ++ String.ofList file ++ ": No such file") 2

-- What `xargs` does with its input: options for how many words a command gets or for a mark in it.
def purposeOf (limit? : Option Nat) (mark? : Option (List Char)) : List (List Char) → Purpose
  | ['-', 'n'] :: n :: rest => purposeOf (some (natOf n)) mark? rest
  | ('-' :: 'n' :: n) :: rest => purposeOf (some (natOf n)) mark? rest
  | ['-', 'I'] :: mark :: rest => purposeOf limit? (some mark) rest
  | ('-' :: 'I' :: mark) :: rest => purposeOf limit? (some mark) rest
  | [] => .words ["echo".toList] limit? mark?
  | command => .words command limit? mark?

-- A word in which a text takes the place of each mark.
def fill (mark text : List Char) : Nat → List Char → List Char
  | 0, cs => cs
  | _, [] => []
  | fuel + 1, c :: cs =>
    if mark.isPrefixOf (c :: cs) && mark != [] then text ++ fill mark text fuel ((c :: cs).drop mark.length)
    else c :: fill mark text fuel cs

-- Lists of so many words each, the last one perhaps shorter.
def chunks (size : Nat) : Nat → List (List Char) → List (List (List Char))
  | 0, _ => []
  | fuel + 1, words => if words.isEmpty then [] else words.take size :: chunks size fuel (words.drop size)

def baseName (cs : List Char) : String := String.ofList (Tool.split cs).2

def launch : Nat → Machine → Process → Scope → List (List Char) → Machine
  | 0, m, p, _, _ => m.finish p.pid 127
  | _, m, p, _, [] => m.finish p.pid 0
  | fuel + 1, m, p, s, name :: args =>
    let p := { p with name := (Tool.split name).2.take 15 }
    let task (t : Task) (due : Nat) := m.update { p with task := t, due }
    let now := m.clock + Focus.stepTime
    let toolTask (tool : Tool) (s : Scope) (program : String) (arguments : List (List Char)) :=
      let call : Call := {
        program, arguments, environment := s.environment, directory := s.directory, files := m.files, input := [] }
      task (.program tool call) now
    let failure (why : String) (status : Nat) :=
      m.failing p (String.ofList s.title ++ ": 1: " ++ String.ofList name ++ ": " ++ why) status
    let standard := !name.contains '/' || "/bin/".toList.isPrefixOf name || "/usr/bin/".toList.isPrefixOf name
    match if standard then baseName name else "/" with
    | "sh" | "dash" | "bash" => m.startShell p s [] args
    | "sleep" =>
      match args.mapM sleepTime? with
      | some (t :: ts) => task .sleep (m.clock + (t :: ts).foldl (· + ·) 0)
      | _ => if args == ["infinity".toList] then task .resident now else m.failing p "sleep: missing operand" 1
    | "yes" => task (.endless ((if args.isEmpty then ['y'] else [' '].intercalate args) ++ ['\n'])) now
    | "nohup" => launch fuel m { p with ignored := 1 :: p.ignored } s args
    | "setsid" | "time" => launch fuel m p s args
    | "nice" => launch fuel m p s (if args.head? = some ['-', 'n'] then args.drop 2 else args)
    | "env" =>
      match withAssignments s args with
      | (s, []) => toolTask (.direct Tool.printenv) s "env" []
      | (s, rest) => launch fuel m p s rest
    | "xargs" => task (.gathering (purposeOf none none args) s []) now
    | "timeout" =>
      match (args.head?.bind sleepTime?), args.tail with
      | some t, command@(_ :: _) =>
        let child : Process := {
          p with pid := m.next, parent := p.pid, ended := [], task := .resident, due := now, collected := true }
        let m := { m with processes := m.processes ++ [child], next := m.next + 1 }
        launch fuel (m.update { p with task := .guard child.pid (m.clock + t), due := now }) child s command
      | _, _ => m.failing p "timeout: missing operand" 125
    | _ =>
      match Tool.find? name with
      | some tool => toolTask tool s (baseName name) args
      | none =>
        if name.contains '/' then
          match Node.find (s.path name) m.files with
          | .ok (.file data true) => m.runShell p s [] (charsOf data) (name :: args)
          | .ok _ => failure "Permission denied" 126
          | .error _ => failure "not found" 127
        else failure "not found" 127

def launchDepth : Nat := 16

def launchAll (m : Machine) (p : Process) (s : Scope) (commands : List (List (List Char))) : Machine :=
  let frames := commands.map fun words => Frame.run (.ofTexts ("env".toList :: words))
  m.update { p with task := .shell { s with options := [], traps := [], functions := [] } frames }

def gathered (m : Machine) (p : Process) (s : Scope) (input : List Char) : Purpose → Machine
  | .script options arguments => m.runShell p s options input arguments
  | .words command limit? mark? =>
    match mark?, limit? with
    | some mark, _ =>
      let lines := linesOf input
      m.launchAll p s (lines.map fun line => command.map fun w => fill mark line (w.length + 1) w)
    | none, some n =>
      let words := Shell.wordsOf input
      m.launchAll p s ((chunks n words.length words).map (command ++ ·))
    | none, none => m.launch launchDepth p s (command ++ Shell.wordsOf input)

end Machine

end ProcessControl.Sim.Shell
