import ProcessControl.Deadline
import ProcessControl.Delegated

namespace ProcessControl.Sim

structure Scripted where
  records : List Record
  memory : List (Pid × Memory)
  -- The answers to the next spawns; a record takes its name from the command.
  spawns : List (Except Failure (Pid × Memory))
  terminations : List (Except Failure Unit)
  uptime : Uptime
  delay : Duration
  crashes : Bool
  clock : Moment

namespace Scripted

def handler : Handler Delegated.interface Scripted
  | .enumerate _, s =>
    (if s.crashes then none else some s.records, { s with clock := ⟨s.clock.nanos + s.delay.nanos⟩ })
  | .probeMemory pid, s => ((s.memory.lookup pid).getD 0, s)
  | .spawn command, s =>
    match s.spawns with
    | [] => (.error (.system "script exhausted"), s)
    | answer :: rest =>
      (answer.map fun (pid, memory) => .running pid ⟨command⟩ memory, { s with spawns := rest })
  | .terminate pid, s =>
    match s.terminations with
    | [] => (.error (.notFound pid), s)
    | answer :: rest => (answer, { s with terminations := rest })
  | .uptime, s => (s.uptime, s)
  | .yieldNow, s => ((), s)

-- Every worker can be started.
def threads : Threads Scripted := ⟨clock, fun _ => .ok ()⟩

end Scripted

end ProcessControl.Sim
