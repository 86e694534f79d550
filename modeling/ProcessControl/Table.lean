import ProcessControl.Deadline
import ProcessControl.Platform
import ProcessControl.Validation

namespace ProcessControl

-- A platform, used by the process with the given identifier.
structure Table (I : Interface) where
  platform : Platform I
  self : Pid

namespace Table

variable {I : Interface}

-- Goes on only where a check has passed.
def guarded {α : Type} (check : Except Failure Unit) (p : Program I (Except Failure α)) :
    Program I (Except Failure α) :=
  match check with
  | .ok () => p
  | .error why => return .error why

def spawnReport (command : String) : Except Failure Record → List LogEntry
  | .ok r => [.recorded (.pid r.pid), .recorded (.result true)]
  | .error why => .noticed (.spawnFailed command why) :: LogEntry.failed why.message

def spawn (t : Table I) (command : String) : Program I (Except Failure Record) := do
  Program.log (.opened "process_spawn")
  let result ← guarded (validateCommand command) (t.platform.spawn command)
  Program.logAll (spawnReport command result)
  return result

def terminateReport (pid : Pid) : Except Failure Unit → List LogEntry
  | .ok () => [.noticed (.terminated pid), .recorded (.result true)]
  | .error why => .noticed (.terminateFailed pid why) :: LogEntry.failed why.message

def terminate (t : Table I) (pid : Pid) : Program I (Except Failure Unit) := do
  Program.log (.opened "process_terminate")
  Program.record (.pid pid)
  let result ← guarded (validateTarget t.self pid) (t.platform.terminate pid)
  Program.logAll (terminateReport pid result)
  return result

def select (max : UInt64) (records : List Record) : List Record :=
  (records.filter (·.pid != 0)).take max.toNat

def list (t : Table I) (max : UInt64) : Program I (List Record) := do
  if max = 0 then return []
  Program.log (.opened "process_list")
  let records := select max (← t.platform.enumerate max)
  Program.record (.items records.length)
  Program.record (.result true)
  return records

-- Writes processes over the first records of the destination and tells how many.
def listInto (t : Table I) (dest : List Record) : Program I (Nat × List Record) := do
  if dest.isEmpty then return (0, dest)
  let records ← t.list (UInt64.ofNat dest.length)
  return (records.length, records ++ dest.drop records.length)

-- The memory of a process in bytes, or zero when it is not known.
def memoryOf (t : Table I) (pid : Pid) : Program I Memory :=
  if pid = 0 then return 0 else t.platform.probeMemory pid

def uptime (t : Table I) : Program I Uptime := t.platform.uptime

def yieldNow (t : Table I) : Program I Unit := t.platform.yieldNow

variable {σ : Type}

def ending {α : Type} : Except Halt α → Ending α
  | .ok a => .returned a
  | .error _ => .crashed

-- A listing by a worker, for which the caller waits no longer than the timeout. The clock tells how long the system
-- took. A worker that was started asks all its questions in any case; what it notes is its own affair.
def listWithin (t : Table I) (handler : Handler I σ) (threads : Threads σ) (max : UInt64) (timeout : Duration)
    (s : σ) : Run I σ (Except Failure (List Record)) :=
  let waiting (start : Except String (Job (List Record))) :=
    (Job.within start (threads.clock s) timeout).run Handler.none ()
  match threads.start s with
  | .error why =>
    let refused := waiting (.error why)
    { outcome := refused.outcome, history := [], log := refused.log, state := s }
  | .ok () =>
    let work := (t.list max).run handler s
    let elapsed := (threads.clock work.state).nanos - (threads.clock s).nanos
    let awaited := waiting (.ok ⟨elapsed, ending work.outcome⟩)
    { outcome := awaited.outcome, history := work.history, log := awaited.log, state := work.state }

end Table

end ProcessControl
