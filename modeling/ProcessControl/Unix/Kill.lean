import ProcessControl.Unix.Interface

namespace ProcessControl.Unix

def settleTime : Duration := .ofMillis 2000

def pollTime : Duration := .ofMillis 5

-- So many looks fill the time to settle.
def settlePolls : Nat := 401

def failureOf (pid : Pid) (why : Errno) : Failure :=
  if why = .noSuchProcess then .notFound pid
  else if why = .operationNotPermitted ∨ why = .permissionDenied then .permissionDenied pid
  else .system why.describe

def isGone : Except Errno Unit → Bool
  | .error why => why == .noSuchProcess
  | .ok () => false

variable {J : Interface}

-- Looks at a killed process until it is gone or the deadline has come, but not more often than the budget allows;
-- tells whether it is gone.
def settle (pid : Pid) (target : Int32) (isDefunct : Pid → Program J Bool) (deadline : Moment) :
    Nat → Program (interface.sum J) Bool
  | 0 => .halt .unfinished
  | polls + 1 => do
    if isGone (← (sendSignal target .null).inl) then return true
    if ← (isDefunct pid).inr then return true
    if deadline.nanos ≤ (← readClock.inl).nanos then return false
    (pauseFor pollTime).inl
    settle pid target isDefunct deadline polls

-- Kills a process and waits until it has settled, with a budget of looks that is enough where pauses take the time
-- they are meant to take. A process that has ended already is not found, even while it is still there to be asked
-- about.
def kill (isDefunct : Pid → Program J Bool) (pid : Pid) (polls : Nat := settlePolls) :
    Program (interface.sum J) (Except Failure Unit) :=
  match pid.target? with
  | none => return .error (.invalidPid pid)
  | some target => do
    if ← (isDefunct pid).inr then return .error (.notFound pid)
    match ← (sendSignal target .kill).inl with
    | .error why => return .error (failureOf pid why)
    | .ok () =>
      let start ← readClock.inl
      let _ ← settle pid target isDefunct ⟨start.nanos + settleTime.nanos⟩ polls
      return .ok ()

end ProcessControl.Unix
