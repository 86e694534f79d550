import ProcessControl.Macos.Interface
import ProcessControl.Platform
import ProcessControl.Unix.Kill
import ProcessControl.Unix.Launch

namespace ProcessControl.Macos

def entrySize : Nat := 648

def taskSize : Int32 := 96

def bsdSize : Int32 := 136

-- The status of a process that has ended and waits to be collected.
def zombie : UInt64 := 5

-- No buffer takes more bytes than this.
def largestBuffer : Nat := 0x7FFFFFFFFFFFFFFF

-- Room for the entries there are, an eighth more, and sixteen.
def roomFor (entries : Nat) : Nat := entries + entries / 8 + 16

def table : Program kernel (List Entry) := do
  match ← readTableSize with
  | .error why =>
    Program.notice (.kernelTableFailed .sizeProbe why)
    return []
  | .ok size =>
    let room := roomFor (size / entrySize)
    if largestBuffer < room * entrySize then .halt .crashed
    match ← copyTable room with
    | .error why =>
      Program.notice (.kernelTableFailed .copy why)
      return []
    | .ok copied => return copied.entries.take (copied.bytes / entrySize)

def process? (entry : Entry) : Option (Pid × Name) :=
  if 0 < entry.pid.toInt then some (UInt32.ofNat entry.pid.toInt.toNat, Name.ofBytes entry.command) else none

-- The memory of a process, or zero when the kernel does not tell all of it.
def probeMemory (pid : Pid) : Program kernel Memory :=
  match pid.target? with
  | none => return 0
  | some target => do
    let fact ← readTaskInfo target
    return if fact.written = taskSize then fact.value else 0

def enumerate (max : UInt64) : Program kernel (List Record) := do
  if max = 0 then return []
  let entries ← table
  ((entries.filterMap process?).take max.toNat).mapM fun (pid, name) =>
    return .running pid name (← probeMemory pid)

def isDefunct (pid : Pid) : Program kernel Bool :=
  if Pid.greatestTarget < pid.toNat then return false else do
    let fact ← readBsdInfo (Int32.ofNat pid.toNat)
    return fact.written == bsdSize && fact.value == zombie

-- The time since boot, when the kernel tells a time of boot that has been; otherwise the wall clock.
def uptime : Program interface Uptime := do
  let (boot, failure?) ← readBootTime.inr
  let now ← Unix.readWallClock.inl
  if failure?.isNone && 0 < boot.toInt && boot.toInt ≤ now.toNat then
    return .sinceBoot (now - UInt64.ofNat boot.toInt.toNat)
  Program.notice .noBootTime
  return .wallClock (← Unix.readWallClock.inl)

def spawn (command : String) : Program interface (Except Failure Record) := do
  match ← (Unix.launch command).inl with
  | .error why => return .error why
  | .ok pid => return .ok (.running pid ⟨command⟩ (← (probeMemory pid).inr))

def platform (polls : Nat := Unix.settlePolls) : Platform interface where
  name := "macos-sysctl"
  enumerate max := (enumerate max).inr
  probeMemory pid := (probeMemory pid).inr
  spawn := spawn
  terminate pid := Unix.kill isDefunct pid polls
  uptime := uptime
  yieldNow := return ()

end ProcessControl.Macos
