import ProcessControl.Windows.Platform

namespace ProcessControl.Sim

structure WindowsProcess where
  pid : Pid
  image : List UInt16
  memory? : Option UInt64
  -- The codes with which it cannot be opened to look at it, opened to end it, and ended.
  openQuery? : Option UInt32
  openKill? : Option UInt32
  kill? : Option UInt32

structure Windows where
  processes : List WindowsProcess
  ended : List Pid
  -- Processes that are still there when a wait for their end is over.
  lingers : List Pid
  ticks : UInt64
  snapshotError? : Option UInt32
  lastError : UInt32
  handles : List ProcessControl.Windows.Handle
  made : Nat
  -- The entries of the last snapshot that have not been handed out.
  listed : List ProcessControl.Windows.Entry

namespace Windows

open ProcessControl.Windows (Handle Access)

def imageUnits : Nat := 260

def noSuchProcess : UInt32 := 87

def timedOut : UInt32 := 258

def signaled : UInt32 := 0

-- Handles carry the identifier of their process below the number of the handle.
def handleOf (number : Nat) (pid : Pid) : Handle := ⟨UInt64.ofNat (number * UInt32.size + pid.toNat)⟩

def pidOf (h : Handle) : Pid := UInt32.ofNat (h.value.toNat % UInt32.size)

def find? (s : Windows) (pid : Pid) : Option WindowsProcess :=
  if s.ended.contains pid then none else s.processes.find? (·.pid == pid)

def fail (s : Windows) (code : UInt32) : Windows := { s with lastError := code }

def open_ (s : Windows) (pid : Pid) : Handle × Windows :=
  let h := handleOf (s.made + 1) pid
  (h, { s with handles := h :: s.handles, made := s.made + 1 })

def refusal? (p : WindowsProcess) : Access → Option UInt32
  | .query => p.openQuery?
  | .terminate => p.openKill?

def field (image : List UInt16) : List UInt16 :=
  let kept := image.take imageUnits
  kept ++ List.replicate (imageUnits - kept.length) 0

def entries (s : Windows) : List ProcessControl.Windows.Entry :=
  (s.processes.filter fun p => !s.ended.contains p.pid).map fun p => ⟨p.pid, field p.image⟩

def handler : Handler ProcessControl.Windows.interface Windows
  | .openProcess access pid, s =>
    match s.find? pid with
    | none => (.null, s.fail noSuchProcess)
    | some p =>
      match refusal? p access with
      | some code => (.null, s.fail code)
      | none => s.open_ pid
  | .createSnapshot, s =>
    match s.snapshotError? with
    | some code => (.invalid, s.fail code)
    | none => { s with listed := s.entries }.open_ 0
  | .firstEntry _, s => ((s.listed.head?, s.listed.length - 1), { s with listed := s.listed.tail })
  | .nextEntry _ 0, s => ((), s)
  | .nextEntry _ (_ + 1), s => (s.listed.head?, { s with listed := s.listed.tail })
  | .memoryInfo h, s => ((s.find? (pidOf h)).bind (·.memory?), s)
  | .terminateProcess h _, s =>
    match (s.find? (pidOf h)).bind (·.kill?) with
    | some code => (false, s.fail code)
    | none => (true, { s with ended := pidOf h :: s.ended })
  | .waitFor h _, s => (if s.lingers.contains (pidOf h) then timedOut else signaled, s)
  | .closeHandle h, s => ((), { s with handles := s.handles.erase h })
  | .lastError, s => (s.lastError, s)
  | .tickCount, s => (s.ticks, s)
  | .start _ _, s => (.error "no shell", s)

end Windows

end ProcessControl.Sim
