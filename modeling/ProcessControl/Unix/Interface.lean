import ProcessControl.Duration
import ProcessControl.Program
import ProcessControl.Unix.Shell

namespace ProcessControl.Unix

inductive Signal
  | kill
  -- Does nothing but find out whether it could be sent.
  | null
deriving DecidableEq, Repr

def Signal.number : Signal → Nat
  | .kill => 9
  | .null => 0

inductive Call
  | signal (target : Int32) (signal : Signal)
  | clock
  | pause (time : Duration)
  -- Starts a program in the background, without input, its output where the caller's goes.
  | start (invocation : Invocation)
  -- Seconds since 1970.
  | wallClock
deriving DecidableEq, Repr

def interface : Interface where
  Call := Call
  Answer
    | .signal _ _ => Except Errno Unit
    | .clock => Moment
    | .pause _ => Unit
    | .start _ => Except Errno Pid
    | .wallClock => UInt64

def sendSignal (target : Int32) (signal : Signal) : Program interface (Except Errno Unit) :=
  .call (I := interface) (.signal target signal)

def readClock : Program interface Moment := .call (I := interface) .clock

def pauseFor (time : Duration) : Program interface Unit := .call (I := interface) (.pause time)

def startProgram (invocation : Invocation) : Program interface (Except Errno Pid) :=
  .call (I := interface) (.start invocation)

def readWallClock : Program interface UInt64 := .call (I := interface) .wallClock

end ProcessControl.Unix
