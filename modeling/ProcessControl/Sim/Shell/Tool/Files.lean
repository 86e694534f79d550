import ProcessControl.Sim.Shell.Condition
import ProcessControl.Sim.Shell.Tool.Lines

namespace ProcessControl.Sim.Shell.Tool

def split (path : List Char) : List Char × List Char :=
  let trimmed := (path.reverse.dropWhile (· == '/')).reverse
  if trimmed = [] then (['/'], if path = [] then [] else ['/'])
  else
    let name := (trimmed.reverse.takeWhile (· != '/')).reverse
    let front := trimmed.take (trimmed.length - name.length)
    let dir := (front.reverse.dropWhile (· == '/')).reverse
    (if front = [] then ['.'] else if dir = [] then ['/'] else dir, name)

def basename (c : Call) : Outcome :=
  let name := (split (c.arguments.headD [])).2
  let suffix := c.arguments.tail.headD []
  let short := suffix != name && suffix.isSuffixOf name
  c.writes ((if short then name.take (name.length - suffix.length) else name) ++ ['\n'])

def eachName (c : Call) (program : String) (names : List (List Char))
    (act : Node → List Char → Except String Node) : Outcome :=
  let (files, errors) := names.foldl (fun (files, errors) n =>
    match act files n with
    | .ok files => (files, errors)
    | .error why => (files, errors ++ (program ++ ": " ++ why ++ "\n").toList)) (c.files, ([] : List Char))
  { files, errors, status := if errors = [] then 0 else 1 }

def quoted (name : List Char) : String := "'" ++ String.ofList name ++ "'"

def place (c : Call) (files : Node) (name : List Char) : Except Errno Path := Node.locateNew (c.path name) files

def mkdir (c : Call) : Outcome :=
  let (os, names) := c.options ['m']
  eachName c "mkdir" names fun files n =>
    let fail (e : Errno) : Except String Node :=
      .error ("cannot create directory " ++ quoted n ++ ": " ++ Call.reason e)
    if has os 'p' then .ok (Node.put .empty (Path.collapse (c.path n)) files)
    else if (Node.find (c.path n) files).toOption.isSome then fail ⟨17⟩
    else
      match place c files (if n.getLast? = some '/' then n.dropLast else n) with
      | .ok path => .ok (Node.put .empty path files)
      | .error e => fail e

def touch (c : Call) : Outcome :=
  let (os, names) := c.options ['t', 'd', 'r']
  eachName c "touch" names fun files n =>
    if (Node.find (c.path n) files).toOption.isSome || has os 'c' then .ok files
    else
      match place c files n with
      | .ok path => .ok (Node.write [] path files)
      | .error e => .error ("cannot touch " ++ quoted n ++ ": " ++ Call.reason e)

def isDirectory : Node → Bool
  | .directory _ => true
  | .file _ _ => false

def rm (c : Call) : Outcome :=
  let (os, names) := c.options []
  eachName c "rm" names fun files n =>
    match Node.locate (c.path n) files with
    | .error e =>
      if has os 'f' then .ok files else .error ("cannot remove " ++ quoted n ++ ": " ++ Call.reason e)
    | .ok path =>
      if (Node.find path files).toOption.any isDirectory && !(has os 'r' || has os 'R') then
        .error ("cannot remove " ++ quoted n ++ ": Is a directory")
      else .ok (Node.remove path files)

def rmdir (c : Call) : Outcome :=
  let (_, names) := c.options []
  eachName c "rmdir" names fun files n =>
    let fail (e : Errno) : Except String Node := .error ("failed to remove " ++ quoted n ++ ": " ++ Call.reason e)
    match Node.locate (c.path n) files with
    | .error e => fail e
    | .ok path =>
      match Node.find path files with
      | .ok (.directory []) => .ok (Node.remove path files)
      | .ok (.directory _) => fail ⟨39⟩
      | _ => fail .notADirectory

-- Copies or moves the sources to the last name, or into the directory that it names.
def transfer (c : Call) (program : String) (remove : Bool) : Outcome :=
  let (os, names) := c.options []
  let target := names.getLastD []
  let into := (c.node? target).any isDirectory
  eachName c program names.dropLast fun files n =>
    let goal := if into then target ++ '/' :: (split n).2 else target
    match Node.find (c.path n) files, Node.locate (c.path n) files, place c files goal with
    | .ok node, .ok source, .ok path =>
      if isDirectory node && !remove && !(has os 'r' || has os 'R' || has os 'a') then
        .error ("-r not specified; omitting directory " ++ quoted n)
      else if source == path then .error (quoted n ++ " and " ++ quoted goal ++ " are the same file")
      else
        let files := if remove then Node.remove source files else files
        .ok (Node.put node path (Node.remove path files))
    | .error e, _, _ => .error ("cannot stat " ++ quoted n ++ ": " ++ Call.reason e)
    | _, _, _ => .error ("cannot create regular file " ++ quoted goal ++ ": " ++ Call.reason .noSuchEntry)

def ls (c : Call) : Outcome :=
  let (os, names) := c.options []
  let shown (n : List Char) : Bool := has os 'a' || has os 'A' || n.head? != some '.'
  let dots := if has os 'a' then [['.'], ['.', '.']] else []
  let contents (name : List Char) : List Char :=
    let found := ((Node.list (c.path name) c.files).toOption.getD []).map charsOf
    let sorted := (found.filter shown).mergeSort atMost
    unlines (dots ++ if has os 'r' then sorted.reverse else sorted)
  let names := (if names.isEmpty then [['.']] else names).mergeSort atMost
  let (there, missing) := names.partition fun n => (c.node? n).isSome
  let (dirs, plain) := there.partition fun n => (c.node? n).any isDirectory && !has os 'd'
  let sections := dirs.map fun d =>
    if names.length = 1 then contents d else d ++ ":\n".toList ++ contents d
  let blocks := (if plain.isEmpty then [] else [unlines plain]) ++ sections
  { output := ['\n'].intercalate blocks
    errors := missing.flatMap fun n =>
      ("ls: cannot access " ++ quoted n ++ ": No such file or directory\n").toList
    status := if missing.isEmpty then 0 else 2
    files := c.files }

-- Lets files be run, or no longer; of the mode only this part counts.
def chmod (c : Call) : Outcome :=
  let names := c.arguments.filter (· != "-R".toList)
  let mode := names.headD []
  let runs : Option Bool := match mode.head? with
    | some d =>
      if d.isDigit then some (mode.any fun d => d.isDigit && d.toNat % 2 == 1)
      else if !mode.contains 'x' then none
      else some (!mode.contains '-')
    | none => none
  eachName c "chmod" names.tail fun files n =>
    match Node.locate (c.path n) files with
    | .ok path => .ok ((runs.map fun runs => Node.setRuns runs path files).getD files)
    | .error e => .error ("cannot access " ++ quoted n ++ ": " ++ Call.reason e)

def dd (c : Call) : Outcome :=
  let value (key : String) : Option (List Char) :=
    let key := key.toList ++ ['=']
    (c.arguments.find? key.isPrefixOf).map (·.drop key.length)
  let length? := (value "count").map fun n => natOf n * ((value "bs").map natOf).getD 512
  let source := value "if"
  let data? := if source = some zeroDevice then .ok (List.replicate (length?.getD 0) '\x00')
    else match source with
      | some name => c.read name
      | none => .ok c.input
  match data? with
  | .error why => c.fails "dd" ("failed to open " ++ quoted (source.getD []) ++ ": " ++ Call.reason why)
  | .ok data =>
    let data := (length?.map data.take).getD data
    match value "of" with
    | none => c.writes data
    | some name =>
      match place c c.files name with
      | .ok path => { files := Node.write (bytesOf data) path c.files }
      | .error why => c.fails "dd" ("failed to open " ++ quoted name ++ ": " ++ Call.reason why)

def tee (c : Call) : Outcome :=
  let (os, names) := c.options []
  let o := eachName c "tee" names fun files n =>
    if n = Call.nullDevice then .ok files
    else
      match place c files n with
      | .ok path =>
        let old := if has os 'a' then (Node.read path files).toOption.getD [] else []
        .ok (Node.write (old ++ bytesOf c.input) path files)
      | .error e => .error (String.ofList n ++ ": " ++ Call.reason e)
  { o with output := c.input }

def test (c : Call) : Outcome :=
  let scene : Condition.Scene := ⟨c.node?, fun name => name == Call.nullDevice⟩
  match Condition.holds scene c.arguments with
  | .ok b => c.writes [] (if b then 0 else 1)
  | .error why => c.fails c.program why 2

end ProcessControl.Sim.Shell.Tool
