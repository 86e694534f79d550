import ProcessControl.Json.Printer
import ProcessControl.Log.Filter
import ProcessControl.Table

namespace ProcessControl

structure Snapshot where
  uptime : Uptime
  processes : List Record
deriving DecidableEq, Repr

namespace Snapshot

-- The records with the most memory first; those with equal memory keep their order.
def byMemory (records : List Record) : List Record :=
  records.mergeSort fun a b => b.memory ≤ a.memory

-- The report, with the members of each object in alphabetical order.
def toJson (s : Snapshot) : Json.Value :=
  .obj [
    ("count", .nat s.processes.length),
    ("processes", .arr (s.processes.map record)),
    ("uptime", .obj [("seconds", .nat s.uptime.seconds.toNat), ("source", s.uptime.source.toJson)])]
where
  record (r : Record) : Json.Value :=
    .obj [
      ("display_name", (r.name?.map Name.toJson).getD .null),
      ("memory_usage", .nat r.memory.toNat),
      ("pid", .nat r.pid.toNat),
      ("status", r.status.toJson)]

def text (s : Snapshot) : String := s.toJson.indented

variable {I : Interface} {σ : Type}

def take (table : Table I) (handler : Handler I σ) (threads : Threads σ) (settings : Settings) (s : σ) :
    Run I σ (Except Failure Snapshot) :=
  let first := table.uptime.run handler s
  match first.outcome with
  | .error why => { first with outcome := .error why }
  | .ok uptime =>
    let second := table.listWithin handler threads settings.listCapacity settings.operationTimeout first.state
    { outcome := second.outcome.map fun result => result.map fun records => ⟨uptime, byMemory records⟩
      history := first.history ++ second.history
      log := first.log ++ second.log
      state := second.state }

-- The notices made before the system is asked.
def notices (settings : Settings) : List Notice :=
  [.logReady settings.traceJson, .snapshotStarted settings.listCapacity settings.operationTimeout.millis]

def written (filter : Log.Filter) (settings : Settings) : List Notice := (notices settings).filter filter.allows

def failureText (why : Failure) : String :=
  "Error: process listing did not finish\n\nCaused by:\n    " ++ why.message ++ "\n"

-- How the program ends: what it prints after the log, if anything, what it tells of a failure, and its exit code. The
-- message of a halt is not kept.
structure Conclusion where
  report? : Option String
  told : String
  exitCode : UInt32
deriving DecidableEq, Repr

def conclude : Except Halt (Except Failure Snapshot) → Conclusion
  | .ok (.ok s) => ⟨some s.text, "", 0⟩
  | .ok (.error why) => ⟨none, failureText why, 1⟩
  | .error _ => ⟨none, "", 101⟩

-- All that is left of a run. The log is written on standard output too, before the report.
structure Output extends Conclusion where
  log : List Notice
deriving DecidableEq, Repr

def output (filter : Log.Filter) (settings : Settings) (run : Run I σ (Except Failure Snapshot)) : Output :=
  { conclude run.outcome with
    log := written filter settings ++ (LogEntry.notices run.log).filter filter.allows }

end Snapshot

end ProcessControl
