namespace ProcessControl.Unix

structure Invocation where
  program : String
  arguments : List String
deriving DecidableEq, Repr

def shellPath : String := "/bin/sh"

def shell (command : String) : Invocation := ⟨shellPath, ["-c", command]⟩

-- The arguments of a shell, parted. Where `-c` is among the options, the first operand is the command string.
structure Arguments where
  options : List String
  operands : List String
deriving DecidableEq, Repr

namespace Arguments

-- An argument that is taken for options as long as no operand has come: one with a sign in front.
def isOption (argument : String) : Bool :=
  argument.toList.head? == some '-' || argument.toList.head? == some '+'

-- Parts the arguments at the first one that is no option. Two minus signs end the options and are none of them.
def read : List String → Arguments
  | [] => ⟨[], []⟩
  | argument :: rest =>
    if argument = "--" then ⟨[], rest⟩
    else if isOption argument then
      let later := read rest
      { later with options := argument :: later.options }
    else ⟨[], argument :: rest⟩

end Arguments

end ProcessControl.Unix
