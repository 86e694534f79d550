import ProcessControl.Json.Tagged
import ProcessControl.Pid

namespace ProcessControl

inductive Failure
  | invalidCommand (why : String)
  | invalidPid (pid : Pid)
  | notFound (pid : Pid)
  | permissionDenied (pid : Pid)
  | selfTermination (pid : Pid)
  | spawnFailed (why : String)
  | system (why : String)
  | unsupported (what : String)
  | timedOut (millis : UInt64)
deriving DecidableEq, Repr

namespace Failure

def tag : Failure → String
  | .invalidCommand _ => "invalid_command"
  | .invalidPid _ => "invalid_pid"
  | .notFound _ => "not_found"
  | .permissionDenied _ => "permission_denied"
  | .selfTermination _ => "self_termination"
  | .spawnFailed _ => "spawn_failed"
  | .system _ => "os"
  | .unsupported _ => "unsupported"
  | .timedOut _ => "timeout"

def message : Failure → String
  | .invalidCommand why => "Invalid command: " ++ why
  | .invalidPid pid => "Invalid process identifier: " ++ Text.Decimal.text pid.toNat
  | .notFound pid => "Process " ++ Text.Decimal.text pid.toNat ++ " not found"
  | .permissionDenied pid => "Permission denied for process " ++ Text.Decimal.text pid.toNat
  | .selfTermination pid => "Refusing to terminate the calling process (" ++ Text.Decimal.text pid.toNat ++ ")"
  | .spawnFailed why => "Spawn failed: " ++ why
  | .system why => "Operation failed: " ++ why
  | .unsupported what => "Operation not supported on this platform: " ++ what
  | .timedOut millis => "Operation timed out after " ++ Text.Decimal.text millis.toNat ++ " ms"

def code : Failure → String
  | .system _ => "process::os_error"
  | failure => "process::" ++ failure.tag

def advice? : Failure → Option String
  | .invalidCommand _ => some "Pass a non-empty command line without NUL bytes."
  | .invalidPid _ => some "Identifier 0 and values outside the platform's PID range never name a process."
  | .notFound _ => some "The process may have exited, or the identifier was never valid."
  | .permissionDenied _ => some "The caller's privilege level does not allow this operation on the target."
  | .selfTermination _ =>
    some "A process cannot force-terminate itself through this interface. Exit normally instead."
  | .spawnFailed _ => some "Check that the command interpreter exists and system resources are available."
  | .system _ => none
  | .unsupported _ => none
  | .timedOut _ => some "The underlying platform call may still be running to completion."

def details : Failure → Json.Value
  | .invalidCommand why => .str why
  | .invalidPid pid => .nat pid.toNat
  | .notFound pid => .nat pid.toNat
  | .permissionDenied pid => .nat pid.toNat
  | .selfTermination pid => .nat pid.toNat
  | .spawnFailed why => .str why
  | .system why => .str why
  | .unsupported what => .str what
  | .timedOut millis => .nat millis.toNat

def toJson (failure : Failure) : Json.Value :=
  .obj [("error_type", .str failure.tag), ("details", failure.details)]

def tagging : Json.Tagging Failure where
  title := "adjacently tagged enum ProcessError"
  tagName := "error_type"
  detailsName := "details"
  alternatives := [
    ("invalid_command", .text .invalidCommand),
    ("invalid_pid", ofPid .invalidPid),
    ("not_found", ofPid .notFound),
    ("permission_denied", ofPid .permissionDenied),
    ("self_termination", ofPid .selfTermination),
    ("spawn_failed", .text .spawnFailed),
    ("os", .text .system),
    ("unsupported", .text .unsupported),
    ("timeout", .number UInt64.size "u64" fun n => .timedOut (UInt64.ofNat n))]
where
  ofPid (make : Pid → Failure) : Json.Details Failure :=
    .number UInt32.size "u32" fun n => make (UInt32.ofNat n)

def read : Json.Reader Failure := tagging.read

end Failure

end ProcessControl
