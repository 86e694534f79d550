import ProcessControl.Platform

namespace ProcessControl.Delegated

inductive Call
  | enumerate (max : UInt64)
  | probeMemory (pid : Pid)
  | spawn (command : String)
  | terminate (pid : Pid)
  | uptime
  | yieldNow
deriving DecidableEq, Repr

-- Each operation is a single question, so whatever a platform may answer, some system answers this one so.
-- A listing without an answer crashes.
def interface : Interface where
  Call := Call
  Answer
    | .enumerate _ => Option (List Record)
    | .probeMemory _ => Memory
    | .spawn _ => Except Failure Record
    | .terminate _ => Except Failure Unit
    | .uptime => Uptime
    | .yieldNow => Unit

def platform (name : String) : Platform interface where
  name
  enumerate max := do
    match ← Program.call (I := interface) (.enumerate max) with
    | some records => return records
    | none => .halt .crashed
  probeMemory pid := .call (I := interface) (.probeMemory pid)
  spawn command := .call (I := interface) (.spawn command)
  terminate pid := .call (I := interface) (.terminate pid)
  uptime := .call (I := interface) .uptime
  yieldNow := .call (I := interface) .yieldNow

end ProcessControl.Delegated
