import ProcessControl.Sim.Directory
import ProcessControl.Sim.Shell.Command
import ProcessControl.Text.Decimal

namespace ProcessControl.Sim.Shell

structure Variable where
  value? : Option (List Char)
  exported : Bool := false
  constant : Bool := false

structure Scope where
  vars : List (String × Variable)
  functions : List (String × Command) := []
  title : List Char
  arguments : List (List Char) := []
  directory : Path
  status : Nat := 0
  -- The status of the last command whose output has been put into a word.
  outputStatus : Nat := 0
  own : Nat
  jobs : List Nat := []
  options : List Char := []
  -- The rights that new files do not get.
  mask : Nat := 18
  -- What is done on a signal; the number zero stands for the end of the shell.
  traps : List (Nat × List Char) := []
  -- The word among the arguments, and the place in it, where the next option is looked for.
  option : Nat × Nat := (1, 0)

namespace Scope

def value? (s : Scope) (name : String) : Option (List Char) :=
  (s.vars.lookup name).bind (·.value?)

def value (s : Scope) (name : String) : List Char := (s.value? name).getD []

def put (s : Scope) (name : String) (v : Variable) : Scope :=
  { s with vars := (name, v) :: s.vars.filter (·.1 != name) }

-- The letters of all options in the order in which they are told.
def letters : List Char := "efIimnsxvVECabu".toList

def has (s : Scope) (option : Char) : Bool := s.options.contains option

def assign (s : Scope) (name : String) (value : List Char) : Scope :=
  let old := (s.vars.lookup name).getD ⟨none, false, false⟩
  s.put name { old with value? := some value, exported := old.exported || s.has 'a' }

def remove (s : Scope) (name : String) : Scope :=
  { s with vars := s.vars.filter (·.1 != name) }

def isConstant (s : Scope) (name : String) : Bool :=
  (s.vars.lookup name).any (·.constant)

def environment (s : Scope) : List (String × List Char) :=
  s.vars.filterMap fun (name, v) => if v.exported then v.value?.map (name, ·) else none

def ownVariables : List (String × String) :=
  [("IFS", " \t\n"), ("OPTIND", "1"), ("PS1", "# "), ("PS2", "> "), ("PS4", "+ ")]

def ofEnvironment (environment : List (String × List Char)) (title : List Char) (arguments : List (List Char))
    (directory : Path) (own parent : Nat) : Scope where
  vars :=
    let own := ("PPID", Text.Decimal.text parent) :: ownVariables
    (environment.map fun (name, value) => (name, ⟨some value, true, false⟩)) ++
      own.map fun (name, value) => (name, ⟨some value.toList, false, false⟩)
  title
  arguments
  directory
  own

def path (s : Scope) (name : List Char) : Path :=
  let path := Path.ofBytes (bytesOf name)
  if name.head? = some '/' then path else s.directory ++ path

end Scope

end ProcessControl.Sim.Shell
