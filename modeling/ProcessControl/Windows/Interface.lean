import ProcessControl.Program

namespace ProcessControl.Windows

-- A handle, or one of the two values that stand for none.
structure Handle where
  value : UInt64
deriving DecidableEq, Repr

namespace Handle

def null : Handle := ⟨0⟩

def invalid : Handle := ⟨0xFFFFFFFFFFFFFFFF⟩

end Handle

inductive Access
  | query
  | terminate
deriving DecidableEq, Repr

def Access.bits : Access → Nat
  | .query => 0x0400 + 0x0010
  | .terminate => 0x0001 + 0x00100000

-- An entry of a snapshot. The image name is a field of UTF-16 units that a zero ends.
structure Entry where
  pid : UInt32
  image : List UInt16
deriving DecidableEq, Repr

inductive Call
  | openProcess (access : Access) (pid : UInt32)
  | createSnapshot
  | firstEntry (snapshot : Handle)
  -- The entry after the one that was handed out last. A snapshot is a finite copy, so there are only so many left.
  | nextEntry (snapshot : Handle) (left : Nat)
  | memoryInfo (process : Handle)
  | terminateProcess (process : Handle) (exitCode : UInt32)
  -- Waits for the end of a process, at most so many milliseconds.
  | waitFor (process : Handle) (millis : UInt32)
  | closeHandle (handle : Handle)
  | lastError
  -- Milliseconds since boot.
  | tickCount
  -- Starts a program in the background with a command line that it reads itself.
  | start (program : String) (commandLine : String)
deriving DecidableEq, Repr

def interface : Interface where
  Call := Call
  Answer
    | .openProcess _ _ => Handle
    | .createSnapshot => Handle
    -- With the number of entries that are left behind it.
    | .firstEntry _ => Option Entry × Nat
    | .nextEntry _ 0 => Unit
    | .nextEntry _ (_ + 1) => Option Entry
    | .memoryInfo _ => Option UInt64
    | .terminateProcess _ _ => Bool
    | .waitFor _ _ => UInt32
    | .closeHandle _ => Unit
    | .lastError => UInt32
    | .tickCount => UInt64
    | .start _ _ => Except String Pid

def openProcess (access : Access) (pid : UInt32) : Program interface Handle :=
  .call (I := interface) (.openProcess access pid)

def createSnapshot : Program interface Handle := .call (I := interface) .createSnapshot

def readFirstEntry (snapshot : Handle) : Program interface (Option Entry × Nat) :=
  .call (I := interface) (.firstEntry snapshot)

def readNextEntry (snapshot : Handle) (left : Nat) : Program interface (Option Entry) :=
  .call (I := interface) (.nextEntry snapshot (left + 1))

def readPastEnd (snapshot : Handle) : Program interface Unit := .call (I := interface) (.nextEntry snapshot 0)

def readMemoryInfo (process : Handle) : Program interface (Option UInt64) :=
  .call (I := interface) (.memoryInfo process)

def terminateProcess (process : Handle) (exitCode : UInt32) : Program interface Bool :=
  .call (I := interface) (.terminateProcess process exitCode)

def waitFor (process : Handle) (millis : UInt32) : Program interface UInt32 :=
  .call (I := interface) (.waitFor process millis)

def closeHandle (handle : Handle) : Program interface Unit := .call (I := interface) (.closeHandle handle)

def readLastError : Program interface UInt32 := .call (I := interface) .lastError

def readTickCount : Program interface UInt64 := .call (I := interface) .tickCount

def startProgram (program commandLine : String) : Program interface (Except String Pid) :=
  .call (I := interface) (.start program commandLine)

end ProcessControl.Windows
