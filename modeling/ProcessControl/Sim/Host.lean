import ProcessControl.Sim.Shell.Run
import ProcessControl.Text.Utf8
import ProcessControl.Unix.Interface

namespace ProcessControl.Sim

-- A machine on which one process asks. Time goes on only while somebody waits, so a run always comes out the same way.
structure Host where
  machine : Shell.Machine
  -- Seconds since 1970 at the start of the clock.
  epoch : Nat
  self : Pid
  environment : List (String × List Char)

namespace Host

def ordinaryPages : Nat := 700

def text (s : String) : List Char := Shell.charsOf (Text.Utf8.encode s.toList)

def pathOf (s : String) : Path := .ofBytes (Text.Utf8.encode s.toList)

def resident (pid : Pid) (name : String) : Shell.Process :=
  { pid := pid.toNat, parent := 1, name := text name, due := 0, task := .resident }

def ordinaryEnvironment : List (String × String) :=
  [("HOME", "/root"), ("PATH", "/usr/local/sbin:/usr/local/bin:/usr/sbin:/usr/bin:/sbin:/bin"), ("PWD", "/")]

def ordinaryDirectories : List String := ["/bin", "/dev", "/etc", "/proc", "/root", "/tmp", "/usr/bin", "/var/tmp"]

-- A host with its first process and the one that is asking, whose children are numbered from `next` on.
def ofSelf (self next : Pid) (clock : Moment) (epoch : Nat) (environment : List (String × String)) : Host where
  machine := {
    clock := clock.nanos
    processes := [resident 1 "init", resident self "self"]
    next := next.toNat
    targets := []
    pipes := []
    files := ordinaryDirectories.foldl (fun files d => Node.put .empty (pathOf d) files) .empty }
  epoch
  self
  environment := (environment ++ ordinaryEnvironment).map fun (name, value) => (name, text value)

def clock (h : Host) : Moment := ⟨h.machine.clock⟩

def wallClock (h : Host) : UInt64 := UInt64.ofNat (h.epoch + h.machine.clock / 1000000000)

def files (h : Host) : Node := h.machine.files

def withFiles (h : Host) (files : Node) : Host := { h with machine := { h.machine with files } }

def withProcess (h : Host) (p : Shell.Process) : Host :=
  { h with machine := { h.machine with processes := h.machine.processes ++ [p] } }

def find? (h : Host) (pid : Pid) : Option Shell.Process := h.machine.find? pid.toNat

def stepLimit : Nat := 1000000

def advance (h : Host) (nanos : Nat) : Host :=
  { h with machine := h.machine.advance stepLimit (h.machine.clock + nanos) }

-- How long somebody who waits for something goes on before looking again, in nanoseconds.
def lookTime : Nat := 5 * 1000000

-- Lets time go by until the condition holds or has been looked at so many times.
def waitUntil (condition : Host → Bool) : Nat → Host → Bool × Host
  | 0, h => (condition h, h)
  | looks + 1, h => if condition h then (true, h) else waitUntil condition looks (h.advance lookTime)

def argumentLimit : Nat := 0x20000

-- What a shell runs. Without a command string it says so and ends.
def script (arguments : List String) : String := (Unix.Arguments.read arguments).operands.headD "exit 2"

-- Starts a program. Only the shell is there; a host that collects its processes lets them go when they end.
def start (h : Host) (invocation : Unix.Invocation) (collected : Bool) : Except Errno Pid × Host :=
  match invocation.program == Unix.shellPath, invocation.arguments with
  | true, ["-c", command] =>
    if argumentLimit ≤ command.utf8ByteSize then (.error .argumentsTooLong, h)
    else
      let pid := h.machine.next
      let (out, machine) := h.machine.target .nowhere
      let scope := Shell.Scope.ofEnvironment h.environment (text invocation.program) [] [] pid h.self.toNat
      let p : Shell.Process := {
        pid
        parent := h.self.toNat
        name := text "sh"
        collected
        due := machine.clock + Shell.Focus.forkTime
        descriptors := [(0, out), (1, out), (2, out)]
        task := .shell scope ((Shell.Command.read <| text <| script invocation.arguments).map .run) }
      (.ok (UInt32.ofNat pid), { h with machine := { machine with next := pid + 1 } }.withProcess p)
  | _, _ => (.error .noSuchEntry, h)

def signal (h : Host) (target : Int32) (signal : Unix.Signal) : Except Errno Unit × Host :=
  let (found, machine) := h.machine.signal target.toInt.toNat signal.number
  (if found then .ok () else .error .noSuchProcess, { h with machine })

def letter : Shell.Phase → String
  | .running => "S"
  | .stopped => "T"
  | .zombie => "Z"

def procFile (p : Shell.Process) (file : FileName) : Except Errno (List UInt8) :=
  let bytes (s : String) := Text.Utf8.encode s.toList
  let name := Shell.bytesOf p.name
  if file = bytes "comm" then .ok (name ++ [0x0A])
  else if file = bytes "statm" then
    .ok (bytes (Text.Decimal.text (if p.phase = .zombie then 0 else ordinaryPages) ++ " 0 0 0 0 0 0\n"))
  else if file = bytes "stat" then
    .ok (bytes (Text.Decimal.text p.pid ++ " (") ++ name ++ bytes (") " ++ letter p.phase ++ " 1\n"))
  else .error .noSuchEntry

def procName (p : Shell.Process) : FileName := Text.Utf8.encode (Text.Decimal.digits p.pid)

def procRead (h : Host) : Path → Except Errno (List UInt8)
  | [dir, file] =>
    match h.machine.processes.find? (procName · == dir) with
    | some p => procFile p file
    | none => .error .noSuchEntry
  | _ => .error .noSuchEntry

def procList (h : Host) : List FileName := h.machine.processes.map procName

end Host

end ProcessControl.Sim
