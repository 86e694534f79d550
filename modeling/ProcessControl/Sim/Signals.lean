import ProcessControl.Sim.Host

namespace ProcessControl.Sim

-- For each process the answers to the signals still to come, zero for success. Where none is left the process is
-- not found.
abbrev SignalScript := List (Pid × List Errno)

namespace SignalScript

def next (script : SignalScript) (target : Int32) : Except Errno Unit × SignalScript :=
  let pid : Pid := UInt32.ofNat target.toInt.toNat
  match script.lookup pid with
  | some (answer :: rest) =>
    (if answer.number = 0 then .ok () else .error answer,
      script.map fun entry => if entry.1 == pid then (pid, rest) else entry)
  | _ => (.error .noSuchProcess, script)

end SignalScript

structure Signals where
  host : Host
  script? : Option SignalScript

namespace Signals

def handler : Handler Unix.interface Signals
  | .signal target signal, s =>
    match s.script? with
    | some script =>
      let (answer, script) := script.next target
      (answer, { s with script? := some script })
    | none =>
      let (answer, host) := s.host.signal target signal
      (answer, { s with host })
  | .clock, s => (s.host.clock, s)
  | .pause time, s => ((), { s with host := s.host.advance time.nanos })
  | .start invocation, s =>
    let (answer, host) := s.host.start invocation true
    (answer, { s with host })
  | .wallClock, s => (s.host.wallClock, s)

end Signals

end ProcessControl.Sim
