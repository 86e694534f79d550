import ProcessControl.Linux.Interface
import ProcessControl.Linux.Procfs
import ProcessControl.Platform
import ProcessControl.Unix.Kill
import ProcessControl.Unix.Launch

namespace ProcessControl.Linux

def directory (pid : Pid) : FileName := fileName (Text.Decimal.digits pid.toNat)

-- The memory of so many pages, or as much as can be told.
def memoryOfPages (pageSize : Memory) (pages : Nat) : Memory :=
  UInt64.ofNat (min (pages * pageSize.toNat) (UInt64.size - 1))

def probeMemory (pageSize : Memory) (pid : Pid) : Program files Memory := do
  if pid = 0 then return 0
  let text? ← readText [directory pid, fileName "statm".toList]
  return ((text?.bind pages?).map (memoryOfPages pageSize)).getD 0

-- The name in `comm`, or the name of the directory when there is none.
def readName (dir : List Char) : Program files Name := do
  match ← readFile [fileName dir, fileName "comm".toList] with
  | .ok (b :: bytes) => return Name.ofBytes (b :: bytes)
  | _ => return ⟨String.ofList dir⟩

def process? (entry : Option FileName) : Option (List Char × Pid) := do
  let dir ← Text.Utf8.decode? (← entry)
  return (dir, ← pid? dir)

def observe (pageSize : Memory) (dir : List Char) (pid : Pid) : Program files Record := do
  let name ← readName dir
  return .running pid name (← probeMemory pageSize pid)

-- Goes through the entries of the root, from the records so far, until there are as many as may be.
def walk (pageSize : Memory) (max : UInt64) : List (Option FileName) → List Record → Program files (List Record)
  | [], records => return records
  | entry :: entries, records => do
    if max.toNat ≤ records.length then return records
    match process? entry with
    | none => walk pageSize max entries records
    | some (dir, pid) => walk pageSize max entries (records ++ [← observe pageSize dir pid])

def enumerate (pageSize : Memory) (max : UInt64) : Program files (List Record) := do
  if max = 0 then return []
  match ← listRoot with
  | .error why =>
    Program.notice (.rootUnreadable why)
    return []
  | .ok entries => walk pageSize max entries []

def isDefunct (pid : Pid) : Program files Bool := do
  match ← readText [directory pid, fileName "stat".toList] with
  | none => return false
  | some text =>
    match readState text with
    | .error why => .halt why
    | .ok letter? => return letter?.any fun c => c == 'Z' || c == 'X'

-- The boot clock, else the file that tells the uptime, else the wall clock.
def uptime : Program interface Uptime := do
  match ← readBootClock.inr with
  | .ok seconds => return .sinceBoot (UInt64.ofNat seconds.toInt.toNat)
  | .error _ =>
    match (← (readText [fileName "uptime".toList]).inr).bind seconds? with
    | some seconds => return .sinceBoot seconds
    | none =>
      Program.notice .noBootClock
      return .wallClock (← Unix.readWallClock.inl)

-- Starts a command and looks at its memory at once.
def spawn (pageSize : Memory) (command : String) : Program interface (Except Failure Record) := do
  match ← (Unix.launch command).inl with
  | .error why => return .error why
  | .ok pid => return .ok (.running pid ⟨command⟩ (← (probeMemory pageSize pid).inr))

-- The size of a page, or zero when there is none; all memory is unknown then.
def pageSize : Program files Memory := do
  match ← readPageSize with
  | .ok (some size) => return UInt64.ofNat size.toInt.toNat
  | _ => return 0

def platform (pageSize : Memory) (polls : Nat := Unix.settlePolls) : Platform interface where
  name := "linux-procfs"
  enumerate max := (enumerate pageSize max).inr
  probeMemory pid := (probeMemory pageSize pid).inr
  spawn := spawn pageSize
  terminate pid := Unix.kill isDefunct pid polls
  uptime := uptime
  yieldNow := return ()

end ProcessControl.Linux
