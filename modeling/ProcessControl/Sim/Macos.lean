import ProcessControl.Macos.Platform
import ProcessControl.Sim.Signals

namespace ProcessControl.Sim

structure Known where
  resident? : Option UInt64
  -- The statuses told one after the other; the last one stays.
  statuses : List UInt64
  shortTask : Bool
  shortBsd : Bool

inductive Boot
  | ago (seconds : Nat)
  | at (seconds : Int64)
  | unknown

structure Macos where
  signals : Signals
  table : List Macos.Entry
  -- How many entries the kernel says there are, if not those of the table.
  estimate? : Option Nat
  probeError? : Option Errno
  copyError? : Option Errno
  boot : Boot
  bootError? : Option Errno
  known : List (Int32 × Known)
  otherwise? : Option Known
  -- How often the status of a process has been told.
  told : List (Int32 × Nat)

namespace Macos

open ProcessControl.Macos (entrySize taskSize bsdSize)

def known? (s : Macos) (pid : Int32) : Option Known := (s.known.lookup pid).or s.otherwise?

def statusAfter (statuses : List UInt64) (n : Nat) : Option UInt64 :=
  (statuses[n]?).or statuses.getLast?

-- A fact, of which four bytes may be missing; one that is not known is not written at all.
def fact (value? : Option UInt64) (size : Int32) (short : Bool) : ProcessControl.Macos.Fact :=
  match value? with
  | none => ⟨0, 0⟩
  | some value => ⟨if short then size - 4 else size, value⟩

def kernel : Handler ProcessControl.Macos.kernel Macos
  | .tableSize, s =>
    (match s.probeError? with
      | some why => .error why
      | none => .ok (s.estimate?.getD s.table.length * entrySize), s)
  | .tableCopy room, s =>
    (match s.copyError? with
      | some why => .error why
      | none =>
        if room < s.table.length then .error .outOfMemory
        else .ok ⟨s.table.length * entrySize, s.table⟩, s)
  | .taskInfo pid, s =>
    (match s.known? pid with
      | some k => fact k.resident? taskSize k.shortTask
      | none => fact none taskSize false, s)
  | .bsdInfo pid, s =>
    let n := (s.told.lookup pid).getD 0
    let answer := match s.known? pid with
      | some k => fact (statusAfter k.statuses n) bsdSize k.shortBsd
      | none => fact none bsdSize false
    (answer, { s with told := (pid, n + 1) :: s.told })
  | .bootTime, s =>
    let seconds : Int64 := match s.boot with
      | .ago seconds => Int64.ofInt (s.signals.host.wallClock.toNat - seconds)
      | .at seconds => seconds
      | .unknown => 0
    ((seconds, s.bootError?), s)

def unix : Handler Unix.interface Macos := fun call s =>
  let (answer, signals) := Signals.handler call s.signals
  (answer, { s with signals })

def handler : Handler ProcessControl.Macos.interface Macos := unix.sum kernel

end Macos

end ProcessControl.Sim
