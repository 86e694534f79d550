import ProcessControl.Unix.Interface

namespace ProcessControl.Unix

-- The stack of the worker that collects a child when it ends. The worker does nothing but wait.
def collectorStack : Nat := 128 * 1024

def notStarted (command why : String) : Failure := .spawnFailed (command ++ ": " ++ why)

-- Starts a command in the background. The shell takes it as a text that ends at a NUL, so one with a NUL in it is
-- not started.
def launch (command : String) : Program interface (Except Failure Pid) := do
  if command.toList.contains '\x00' then return .error (notStarted command "nul byte found in provided data")
  match ← startProgram (shell command) with
  | .error why => return .error (notStarted command why.explain)
  | .ok pid =>
    Program.notice (.spawned pid command)
    return .ok pid

end ProcessControl.Unix
