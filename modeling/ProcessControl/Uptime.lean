import ProcessControl.Json.Shape

namespace ProcessControl

inductive UptimeSource
  | bootClock
  | wallClock
deriving DecidableEq, Repr

namespace UptimeSource

def words : List (String × UptimeSource) := [("boot_clock", .bootClock), ("wall_clock", .wallClock)]

def word : UptimeSource → String
  | .bootClock => "boot_clock"
  | .wallClock => "wall_clock"

def toJson (source : UptimeSource) : Json.Value := .str source.word

def read : Json.Reader UptimeSource := Json.Reader.oneOf words

end UptimeSource

structure Uptime where
  seconds : UInt64
  source : UptimeSource
deriving DecidableEq, Repr

namespace Uptime

def sinceBoot (seconds : UInt64) : Uptime := ⟨seconds, .bootClock⟩

-- Seconds since 1970 in place of an uptime.
def wallClock (seconds : UInt64) : Uptime := ⟨seconds, .wallClock⟩

def isTrue (u : Uptime) : Bool := u.source == .bootClock

def toJson (u : Uptime) : Json.Value :=
  .obj [("seconds", .nat u.seconds.toNat), ("source", u.source.toJson)]

structure Draft where
  seconds? : Option UInt64
  source? : Option UptimeSource

namespace Draft

def empty : Draft := ⟨none, none⟩

def complete (d : Draft) : Except Json.Mismatch Uptime := do
  let seconds ← Json.Reader.required "seconds" d.seconds?
  let source ← Json.Reader.required "source" d.source?
  return ⟨seconds, source⟩

end Draft

def members : List (Json.Reader.Member Draft) := [
  ⟨"seconds", (·.seconds?.isSome), fun d => do
    return { d with seconds? := some (UInt64.ofNat (← Json.Reader.natural UInt64.size "u64")) }⟩,
  ⟨"source", (·.source?.isSome), fun d => do
    return { d with source? := some (← UptimeSource.read) }⟩]

def read : Json.Reader Uptime :=
  Json.Reader.aggregate "struct Uptime" members .empty Draft.complete

end Uptime

end ProcessControl
