import ProcessControl.Linux.Interface
import ProcessControl.Sim.Signals

namespace ProcessControl.Sim

structure Linux where
  signals : Signals
  -- Where the files lie that stand for the process file system, if they are not those of the host.
  root? : Option (List UInt8)
  bootClock? : Option (Except Errno Int64)
  pageSize? : Option (Except Errno (Option Int64))

namespace Linux

def ordinaryPageSize : Int64 := 4096

def reach {α : Type} (look : Path → Except Errno α) (base : List UInt8) (names : List FileName) :
    Except PathFailure α := do
  let path ← Path.read (names.foldl Path.join base)
  (look path).mapError .system

def files : Handler Linux.files Linux
  | .listRoot, s =>
    let names : Except PathFailure (List FileName) := match s.root? with
      | some base => reach (Node.list · s.signals.host.files) base []
      | none => .ok s.signals.host.procList
    (names.map (·.map some), s)
  | .readFile path, s =>
    let data : Except PathFailure (List UInt8) := match s.root? with
      | some base => reach (Node.read · s.signals.host.files) base path
      | none => (s.signals.host.procRead path).mapError .system
    (data, s)
  | .bootClock, s =>
    (s.bootClock?.getD (.ok (Int64.ofNat (s.signals.host.clock.nanos / 1000000000))), s)
  | .pageSize, s => (s.pageSize?.getD (.ok (some ordinaryPageSize)), s)

def unix : Handler Unix.interface Linux := fun call s =>
  let (answer, signals) := Signals.handler call s.signals
  (answer, { s with signals })

def handler : Handler ProcessControl.Linux.interface Linux := unix.sum files

end Linux

end ProcessControl.Sim
