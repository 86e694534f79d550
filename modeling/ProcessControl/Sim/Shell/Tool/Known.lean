import ProcessControl.Sim.Shell.Tool.Editing
import ProcessControl.Sim.Shell.Tool.Files

namespace ProcessControl.Sim.Shell.Tool

def expr (c : Call) : Outcome :=
  match c.arguments with
  | [a] => c.writes (a ++ ['\n']) (if a = [] || a = ['0'] then 1 else 0)
  | ['l', 'e', 'n', 'g', 't', 'h'] :: a :: _ =>
    c.writes (Text.Decimal.digits a.length ++ ['\n']) (if a = [] then 1 else 0)
  | ['s', 'u', 'b', 's', 't', 'r'] :: a :: start :: length :: _ =>
    let part := if natOf start = 0 then [] else (a.drop (natOf start - 1)).take (natOf length)
    c.writes (part ++ ['\n']) (if part = [] then 1 else 0)
  | ['i', 'n', 'd', 'e', 'x'] :: a :: set :: _ =>
    let place := ((a.findIdx? set.contains).map (· + 1)).getD 0
    c.writes (Text.Decimal.digits place ++ ['\n']) (if place = 0 then 1 else 0)
  | [a, [':'], pattern] | ['m', 'a', 't', 'c', 'h'] :: a :: pattern :: _ =>
    match Search.read? ⟨false, false⟩ pattern with
    | none => c.fails "expr" "invalid regular expression" 2
    | some r =>
      let text := match r.longest? true a with
        | none => if pattern.contains '(' then [] else ['0']
        | some m => (m.groups.lookup 1).getD (Text.Decimal.digits (a.length - m.rest.length))
      c.writes (text ++ ['\n']) (if text = [] || text = ['0'] then 1 else 0)
  | [a, ['='], b] =>
    let same := match Arithmetic.value? a, Arithmetic.value? b with
      | some m, some n => if a = [] || b = [] then a == b else m == n
      | _, _ => a == b
    c.writes (if same then "1\n".toList else "0\n".toList) (if same then 0 else 1)
  | words =>
    let words := words.map fun w => if w = ['='] then ['=', '='] else w
    let memory : Arithmetic.Memory Unit := ⟨fun _ _ => [], fun _ _ s => s⟩
    match Arithmetic.read? ([' '].intercalate words) with
    | none => c.fails "expr" "syntax error" 2
    | some e =>
      match Arithmetic.evaluate memory e () with
      | .ok (n, ()) => c.writes (Arithmetic.text n ++ ['\n']) (if n == 0 then 1 else 0)
      | .error why => c.fails "expr" why 2

def printenv (c : Call) : Outcome :=
  match c.arguments with
  | [] => c.writes (unlines (c.environment.map fun (n, v) => n.toList ++ '=' :: v))
  | a :: _ =>
    match c.environment.lookup (String.ofList a) with
    | some v => c.writes (v ++ ['\n'])
    | none => c.writes [] 1

def all : List (String × Tool) := [
  ("true", direct (·.writes [])),
  ("false", direct (·.writes [] 1)),
  ("echo", direct fun c => c.writes (Format.echo c.arguments)),
  ("printf", direct fun c =>
    match if c.arguments.head? = some ['-', '-'] then c.arguments.tail else c.arguments with
    | [] => c.fails "printf" "usage: printf format [arg ...]" 2
    | format :: arguments =>
      let s := Format.printf format arguments
      let errors := s.errors.flatMap fun why => (c.program ++ ": " ++ why ++ "\n").toList
      { c.writes s.done.reverse s.status with errors }),
  ("test", direct test),
  ("[", direct fun c =>
    if c.arguments.getLast? = some [']'] then test { c with arguments := c.arguments.dropLast }
    else c.fails c.program "missing ]" 2),
  ("cat", reader 0 "" fun c => c.filter "cat" (c.options []).2 id),
  ("sort", reader 0 "kto" sort),
  ("uniq", reader 0 "" uniq),
  ("head", { reader 0 "nc" head with
    reads := fun c => ((modern c).options ['n', 'c']).2.isEmpty, enough := headNeeds }),
  ("tail", { reader 0 "nc" tail with reads := fun c => ((modern c).options ['n', 'c']).2.isEmpty }),
  ("wc", reader 0 "" wc),
  ("tr", reader 2 "" tr),
  ("cut", reader 0 "dfcb" cut),
  ("grep", reader 1 "em" (grep · none)),
  ("egrep", reader 1 "em" (grep · (some 'E'))),
  ("fgrep", reader 1 "em" (grep · (some 'F'))),
  ("sed", reader 1 "e" sed),
  ("rev", reader 0 "" fun c => c.filter "rev" c.arguments fun cs => unlines ((linesOf cs).map List.reverse)),
  ("tac", reader 0 "" fun c => c.filter "tac" c.arguments fun cs => unlines (linesOf cs).reverse),
  ("tee", { reader 0 "" tee with reads := fun _ => true }),
  ("seq", direct seq),
  ("basename", direct basename),
  ("dirname", direct fun c => c.writes ((split (c.arguments.headD [])).1 ++ ['\n'])),
  ("mkdir", direct mkdir),
  ("rmdir", direct rmdir),
  ("touch", direct touch),
  ("rm", direct rm),
  ("unlink", direct rm),
  ("mv", direct (transfer · "mv" true)),
  ("cp", direct (transfer · "cp" false)),
  ("ln", direct (transfer · "ln" false)),
  ("ls", direct ls),
  ("expr", direct expr),
  ("printenv", direct printenv),
  ("env", direct printenv),
  ("pwd", direct fun c => c.writes ('/' :: ['/'].intercalate (c.directory.map charsOf) ++ ['\n'])),
  ("uname", direct (·.writes "Linux\n".toList)),
  ("whoami", direct (·.writes "root\n".toList)),
  ("id", direct (·.writes "0\n".toList)),
  ("chmod", direct chmod),
  ("dd", { direct dd with reads := fun c => !c.arguments.any "if=".toList.isPrefixOf, enough := fun _ _ => false }),
  ("chown", direct (·.writes [])),
  ("sync", direct (·.writes []))]

-- The program with a name, which may be written with its directory.
def find? (name : List Char) : Option Tool :=
  let short := if "/bin/".toList.isPrefixOf name then name.drop 5
    else if "/usr/bin/".toList.isPrefixOf name then name.drop 9
    else name
  all.lookup (String.ofList short)

end ProcessControl.Sim.Shell.Tool
