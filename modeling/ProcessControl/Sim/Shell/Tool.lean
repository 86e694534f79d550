import ProcessControl.Sim.Shell.Format
import ProcessControl.Sim.Shell.Scope

namespace ProcessControl.Sim.Shell

structure Call where
  program : String
  arguments : List (List Char)
  environment : List (String × List Char)
  directory : Path
  files : Node
  input : List Char

structure Outcome where
  output : List Char := []
  errors : List Char := []
  status : Nat := 0
  files : Node

namespace Call

def path (c : Call) (name : List Char) : Path :=
  let path := Path.ofBytes (bytesOf name)
  if name.head? = some '/' then path else c.directory ++ path

def nullDevice : List Char := "/dev/null".toList

def node? (c : Call) (name : List Char) : Option Node := (Node.find (c.path name) c.files).toOption

def read (c : Call) (name : List Char) : Except Errno (List Char) :=
  if name = nullDevice then .ok []
  else if name = ['-'] then .ok c.input
  else (Node.read (c.path name) c.files).map charsOf

-- The letters of the options and the other arguments; letters that take a value have it, here or as the next
-- argument.
def options (c : Call) (valued : List Char) : List (Char × List Char) × List (List Char) :=
  go [] c.arguments
where
  letters : List (Char × List Char) → List (List Char) → List Char → List (Char × List Char) × List (List Char)
    | done, rest, [] => (done, rest)
    | done, rest, o :: more =>
      if valued.contains o then
        if more = [] then ((o, rest.headD []) :: done, rest.tail) else ((o, more) :: done, rest)
      else letters ((o, []) :: done) rest more
  go (done : List (Char × List Char)) : List (List Char) → List (Char × List Char) × List (List Char)
    | [] => (done.reverse, [])
    | a :: rest =>
      match a with
      | ['-', '-'] => (done.reverse, rest)
      | '-' :: o :: more =>
        match letters done rest (o :: more) with
        | (done, left) => if left.length = rest.length then go done rest else
            match rest with
            | _ :: after => go done after
            | [] => (done.reverse, [])
      | _ =>
        let (os, others) := go done rest
        (os, a :: others)

def writes (c : Call) (output : List Char) (status : Nat := 0) : Outcome :=
  { output, status, files := c.files }

def fails (c : Call) (name why : String) (status : Nat := 1) : Outcome :=
  { errors := (name ++ ": " ++ why ++ "\n").toList, status, files := c.files }

def reason (e : Errno) : String := (e.libraryText?).getD "Unknown error"

-- The contents of the named files, or the input where none is named, and the complaints about those missing.
def inputs (c : Call) (program : String) (names : List (List Char)) : List (List Char) × List Char :=
  if names.isEmpty then ([c.input], [])
  else names.foldl (fun (done, errors) n =>
    match c.read n with
    | .ok data => (done ++ [data], errors)
    | .error why =>
      let name := String.ofList n
      let subject := match program with
        | "head" | "tail" => "cannot open '" ++ name ++ "' for reading"
        | "sort" => "cannot read: " ++ name
        | "sed" => "can't read " ++ name
        | _ => name
      (done, errors ++ (program ++ ": " ++ subject ++ ": " ++ reason why ++ "\n").toList)) ([], [])

def filter (c : Call) (program : String) (names : List (List Char)) (f : List Char → List Char) : Outcome :=
  let (data, errors) := c.inputs program names
  { output := f data.flatten, errors, status := if errors = [] then 0 else 1, files := c.files }

end Call

structure Tool where
  -- Whether it reads its input, given its arguments.
  reads : Call → Bool
  -- Whether what it has read is enough.
  enough : Call → List Char → Bool
  run : Call → Outcome

namespace Tool

def direct (run : Call → Outcome) : Tool := ⟨fun _ => false, fun _ _ => true, run⟩

-- A program that reads its input to the end, unless enough operands are given.
def reader (operands : Nat) (valued : String) (run : Call → Outcome) : Tool where
  reads c :=
    let names := (c.options valued.toList).2.drop operands
    names.isEmpty || names.contains ['-']
  enough _ _ := false
  run

end Tool

end ProcessControl.Sim.Shell
