import ProcessControl.Platform
import ProcessControl.Text.Utf16
import ProcessControl.Windows.Interface

namespace ProcessControl.Windows

def failureOf (pid : Pid) (code : UInt32) : Failure :=
  if code = 87 then .notFound pid
  else if code = 5 then .permissionDenied pid
  else .system ("Win32 error " ++ Text.Decimal.text code.toNat)

def forcedExitCode : UInt32 := 1

-- How long a process that was ended may take to disappear, in milliseconds.
def settleMillis : UInt32 := 2000

def imageName (units : List UInt16) : Name :=
  ⟨String.ofList (Text.Utf16.decodeLossy (units.takeWhile (· != 0)))⟩

def probeMemory (pid : Pid) : Program interface Memory := do
  let process ← openProcess .query pid
  if process = .null then
    let _ ← readLastError
    return 0
  let memory? ← readMemoryInfo process
  closeHandle process
  return memory?.getD 0

-- Adds the process of an entry to the records. The idle process has the identifier zero and is passed over.
def visit (entry : Entry) (records : List Record) : Program interface (List Record) := do
  if entry.pid = 0 then return records
  return records ++ [.running entry.pid (imageName entry.image) (← probeMemory entry.pid)]

-- Goes on from an entry, with the records so far, until there are as many as may be or no other entry can be had.
def walk (snapshot : Handle) (max : UInt64) : Nat → Option Entry → List Record → Program interface (List Record)
  | _, none, records => return records
  | left, some entry, records => do
    if max.toNat ≤ records.length then return records
    let records ← visit entry records
    match left with
    | 0 =>
      readPastEnd snapshot
      return records
    | left + 1 => walk snapshot max left (← readNextEntry snapshot left) records

def enumerate (max : UInt64) : Program interface (List Record) := do
  if max = 0 then return []
  let snapshot ← createSnapshot
  if snapshot = .invalid then
    closeHandle snapshot
    Program.notice (.snapshotFailed (← readLastError))
    return []
  let (first?, left) ← readFirstEntry snapshot
  let records ← walk snapshot max left first? []
  closeHandle snapshot
  return records

def terminate (pid : Pid) : Program interface (Except Failure Unit) := do
  let process ← openProcess .terminate pid
  if process = .null then return .error (failureOf pid (← readLastError))
  if ← terminateProcess process forcedExitCode then
    let _ ← waitFor process settleMillis
    closeHandle process
    return .ok ()
  else
    let code ← readLastError
    closeHandle process
    return .error (failureOf pid code)

def uptime : Program interface Uptime := do
  return .sinceBoot ((← readTickCount) / 1000)

def shellName : String := "cmd.exe"

-- Starts a command through the shell and looks at its memory at once.
def spawn (command : String) : Program interface (Except Failure Record) := do
  match ← startProgram shellName ("/C " ++ command) with
  | .error why => return .error (.spawnFailed (command ++ ": " ++ why))
  | .ok pid =>
    Program.notice (.spawned pid command)
    return .ok (.running pid ⟨command⟩ (← probeMemory pid))

def platform : Platform interface where
  name := "windows-toolhelp"
  enumerate := enumerate
  probeMemory := probeMemory
  spawn := spawn
  terminate := terminate
  uptime := uptime
  yieldNow := return ()

end ProcessControl.Windows
