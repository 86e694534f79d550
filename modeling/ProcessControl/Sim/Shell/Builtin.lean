import ProcessControl.Sim.Shell.Builtin.Input
import ProcessControl.Sim.Shell.Builtin.Signals
import ProcessControl.Sim.Shell.Builtin.Variables
import ProcessControl.Sim.Shell.Tool.Known

namespace ProcessControl.Sim.Shell.Builtin

-- The commands that belong to the language; what is assigned before them stays.
def specialNames : List String :=
  [":", ".", "break", "continue", "eval", "exec", "exit", "export", "readonly", "return", "set", "shift", "times",
    "trap", "unset"]

def ordinaryNames : List String :=
  ["alias", "bg", "cd", "command", "echo", "false", "fg", "getopts", "hash", "jobs", "kill", "local", "printf", "pwd",
    "read", "test", "[", "true", "type", "ulimit", "umask", "unalias", "wait"]

def running (f : Focus) (text : List Char) : Machine :=
  (f.setStatus 0 |>.push ((Command.read text).map .run)).store

def own (f : Focus) (name : String) (u : Tool) (args : List (List Char)) : Machine :=
  let o := u.run {
    program := name, arguments := args, environment := f.scope.environment, directory := f.scope.directory
    files := f.machine.files, input := [] }
  let errors := (linesOf o.errors).flatMap fun line => f.scope.title ++ ": 1: ".toList ++ line ++ ['\n']
  f.writing 1 o.output fun f => f.writing 2 errors fun f => f.done o.status

def reserved : List String :=
  ["!", "\x7b", "\x7d", "case", "do", "done", "elif", "else", "esac", "fi", "for", "if", "in", "then", "until", "while"]

def describe? (f : Focus) (name : List Char) (long : Bool) : Option (List Char) :=
  let s := String.ofList name
  if reserved.contains s then some (name ++ if long then " is a shell keyword".toList else [])
  else if f.scope.functions.any (·.1 == s) then some (name ++ if long then " is a shell function".toList else [])
  else if specialNames.contains s then some (name ++ if long then " is a special shell builtin".toList else [])
  else if ordinaryNames.contains s then some (name ++ if long then " is a shell builtin".toList else [])
  else if (Tool.find? name).isSome || ["sh", "sleep", "env", "xargs", "timeout"].contains s then
    let path := "/usr/bin/".toList ++ name
    some (if long then name ++ " is ".toList ++ path else path)
  else none

def describe (f : Focus) (names : List (List Char)) (long : Bool) : Machine :=
  let found := names.map fun n => (n, describe? f n long)
  let text := found.flatMap fun (n, d?) =>
    match d? with
    | some d => d ++ ['\n']
    | none => if long then n ++ ": not found\n".toList else []
  f.writing 1 text (·.done (if found.all (·.2.isSome) then 0 else 127))

def run (f : Focus) (name : String) (args : List (List Char)) : Machine :=
  match name with
  | "eval" => running f ([' '].intercalate args)
  | "." =>
    match args with
    | [] => f.done 2
    | file :: _ =>
      match Node.read (f.scope.path file) f.machine.files with
      | .ok data => running f (charsOf data)
      | .error _ => (f.complain (".: cannot open " ++ String.ofList file ++ ": No such file")).exit 2
  | "break" => leaveLoops f name false args
  | "continue" => leaveLoops f name true args
  | "exit" => withNumber f name args f.scope.status fun n => f.exit (n % 256)
  | "return" =>
    withNumber f name args f.scope.status fun n =>
      match Focus.unwindFunction f.frames f with
      | some g => (g.setStatus (n % 256)).store
      | none => f.exit (n % 256)
  | "export" => marking f name (·.exported) (fun v => { v with exported := true }) args
  | "readonly" => marking f name (·.constant) (fun v => { v with constant := true }) args
  | "unset" => unset f args
  | "set" => set f args false
  | "shift" => shift f args
  | "trap" => trap f args
  | "local" => localVariables f args
  | "cd" => cd f args
  | "pwd" => f.writing 1 (pathText f.scope.directory ++ ['\n']) (·.done 0)
  | "umask" => umask f args
  | "ulimit" => if args.isEmpty then f.writing 1 "unlimited\n".toList (·.done 0) else f.done 0
  | "kill" => kill f args
  | "wait" => wait f args
  | "read" => read f args
  | "type" => describe f args true
  | "times" => f.writing 1 "0m0.00s 0m0.00s\n0m0.00s 0m0.00s\n".toList (·.done 0)
  | "getopts" => getopts f args
  | "hash" =>
    match args.find? fun a => a.head? != some '-' && (describe? f a false).isNone with
    | some a => (f.complain ("hash: " ++ String.ofList a ++ ": not found")).done 1
    | none => f.done 0
  | _ =>
    match Tool.all.lookup name with
    | some u => own f name u args
    | none => f.done 0

end ProcessControl.Sim.Shell.Builtin
