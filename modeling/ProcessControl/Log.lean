import ProcessControl.Failure
import ProcessControl.PathFailure
import ProcessControl.Settings

namespace ProcessControl

inductive Level
  | trace
  | debug
  | info
  | warn
  | error
deriving DecidableEq, Repr

namespace Level

-- Higher is more severe.
def rank : Level → Nat
  | .trace => 0
  | .debug => 1
  | .info => 2
  | .warn => 3
  | .error => 4

def word : Level → String
  | .trace => "TRACE"
  | .debug => "DEBUG"
  | .info => "INFO"
  | .warn => "WARN"
  | .error => "ERROR"

end Level

inductive TableStep
  | sizeProbe
  | copy
deriving DecidableEq, Repr

-- A notice is kept as the fact that it reports; its words are worked out when it is written.
inductive Notice
  | spawned (pid : Pid) (command : String)
  | spawnFailed (command : String) (why : Failure)
  | terminated (pid : Pid)
  | terminateFailed (pid : Pid) (why : Failure)
  | settingIgnored (what : Settings.Ignored)
  | timedOut (millis : UInt64)
  | rootUnreadable (why : PathFailure)
  | kernelTableFailed (step : TableStep) (why : Errno)
  | snapshotFailed (code : UInt32)
  | noBootClock
  | noBootTime
  | slow
  | logReady (json : Bool)
  | snapshotStarted (listCapacity : UInt64) (millis : UInt64)
deriving DecidableEq, Repr

namespace Notice

def level : Notice → Level
  | .spawned _ _ => .info
  | .terminated _ => .info
  | .logReady _ => .info
  | .snapshotStarted _ _ => .info
  | _ => .warn

def message : Notice → String
  | .spawned _ _ => "Spawned OS process"
  | .spawnFailed _ _ => "Spawn failed"
  | .terminated _ => "Terminated process"
  | .terminateFailed _ _ => "Terminate failed"
  | .settingIgnored _ => "Ignoring malformed configuration value"
  | .timedOut _ => "Process operation timed out"
  | .rootUnreadable _ => "Cannot open proc root"
  | .kernelTableFailed .sizeProbe _ => "sysctl(KERN_PROC_ALL) size probe failed"
  | .kernelTableFailed .copy _ => "sysctl(KERN_PROC_ALL) copy failed"
  | .snapshotFailed _ => "CreateToolhelp32Snapshot failed"
  | .noBootClock => "No boot clock available, reporting wall-clock time as uptime"
  | .noBootTime => "kern.boottime unavailable, reporting wall-clock time as uptime"
  | .slow => "slow operation detected"
  | .logReady _ => "Structured tracing initialized"
  | .snapshotStarted _ _ => "Collecting process snapshot"

-- The part of the program that tells it.
def target : Notice → String
  | .spawned _ _ => "hostproc::process::spawner"
  | .spawnFailed _ _ | .terminated _ | .terminateFailed _ _ => "hostproc::process::table"
  | .settingIgnored _ => "hostproc::config"
  | .timedOut _ => "hostproc::process::timeout"
  | .rootUnreadable _ | .noBootClock => "hostproc::process::platform::linux"
  | .kernelTableFailed _ _ | .noBootTime => "hostproc::process::platform::macos"
  | .snapshotFailed _ => "hostproc::process::platform::windows"
  | .slow | .logReady _ => "hostproc::monitoring::tracer"
  | .snapshotStarted _ _ => "hostproc"

def fields : Notice → List (String × Json.Value)
  | .spawned pid command => [("pid", .nat pid.toNat), ("command", .str command)]
  | .spawnFailed command why => [("command", .str command), ("error", .str why.message)]
  | .terminated pid => [("pid", .nat pid.toNat)]
  | .terminateFailed pid why => [("pid", .nat pid.toNat), ("error", .str why.message)]
  | .settingIgnored what => [("key", .str what.key.variable), ("value", .str what.value)]
  | .timedOut millis => [("timeout_ms", .nat millis.toNat)]
  | .rootUnreadable why => [("error", .str why.explain)]
  | .kernelTableFailed _ why => [("error", .str why.explain)]
  | .snapshotFailed code => [("code", .nat code.toNat)]
  | .noBootClock => []
  | .noBootTime => []
  | .slow => [("slow", .bool true)]
  | .logReady json => [("json", .bool json)]
  | .snapshotStarted listCapacity millis =>
    [("list_capacity", .nat listCapacity.toNat), ("timeout_ms", .nat millis.toNat)]

end Notice

inductive Field
  | pid (pid : Pid)
  | result (success : Bool)
  | items (count : Nat)
  | error (text : String)
deriving DecidableEq, Repr

namespace Field

def name : Field → String
  | .pid _ => "pid"
  | .result _ => "result"
  | .items _ => "items_processed"
  | .error _ => "error"

def value : Field → Json.Value
  | .pid p => .nat p.toNat
  | .result success => .str (if success then "success" else "error")
  | .items count => .nat count
  | .error text => .str text

end Field

inductive LogEntry
  | opened (operation : String)
  | recorded (field : Field)
  | noticed (notice : Notice)
deriving DecidableEq, Repr

namespace LogEntry

def toJson : LogEntry → Json.Value
  | .opened operation =>
    .obj [("span", .str "operation"), ("fields", .obj [("operation", .str operation)])]
  | .recorded field => .obj [("record", .obj [(field.name, field.value)])]
  | .noticed notice =>
    .obj [("level", .str notice.level.word), ("message", .str notice.message), ("fields", .obj notice.fields)]

def notices (log : List LogEntry) : List Notice :=
  log.filterMap fun
    | .noticed notice => some notice
    | _ => none

-- A failed operation records the text of the failure, and that it failed.
def failed (text : String) : List LogEntry :=
  [.recorded (.error text), .recorded (.result false)]

end LogEntry

end ProcessControl
