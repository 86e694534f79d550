import ProcessControl.Linux.Platform
import ProcessControl.Log.Line
import ProcessControl.Snapshot

namespace ProcessControl.CommandLine

def errno : IO.Error → Errno
  | .noFileOrDirectory _ code _ => ⟨code.toNat⟩
  | .permissionDenied _ code _ => ⟨code.toNat⟩
  | .inappropriateType _ code _ => ⟨code.toNat⟩
  | _ => ⟨5⟩

def attempt {α : Type} (action : IO α) : IO (Except PathFailure α) := do
  try return .ok (← action)
  catch e => return .error (.system (errno e))

def readBelow (path : List Linux.FileName) : IO (List UInt8) := do
  let names := path.map fun name => String.ofList (Text.Utf8.decodeLossy name)
  let data ← IO.FS.readBinFile ("/".intercalate (Linux.standardRoot :: names))
  return data.toList

-- The characters of a file below the root, none if it cannot be read.
def textBelow (path : List String) : IO (List Char) := do
  match ← attempt (readBelow (path.map fun name => Linux.fileName name.toList)) with
  | .ok data => return Text.Utf8.decodeLossy data
  | .error _ => return []

def listRoot : IO (List (Option Linux.FileName)) := do
  let root ← IO.FS.realPath Linux.standardRoot
  return (← root.readDir).toList.map fun entry => some (Linux.fileName entry.fileName.toList)

-- Numbers of eight bytes each, the least significant byte first.
def words : List UInt8 → List Nat
  | a :: b :: c :: d :: e :: f :: g :: h :: rest =>
    [a, b, c, d, e, f, g, h].foldr (fun byte n => byte.toNat + 256 * n) 0 :: words rest
  | _ => []

def following? (key : Nat) : List Nat → Option Nat
  | k :: n :: rest => if k = key then some n else following? key rest
  | _ => none

-- The key of the size of a page among the facts that the kernel tells a program at its start.
def pageSizeKey : Nat := 6

def pageSize? : IO (Option Int64) := do
  match ← attempt (readBelow [Linux.fileName "self".toList, Linux.fileName "auxv".toList]) with
  | .ok data => return (following? pageSizeKey (words data)).map Int64.ofNat
  | .error _ => return none

def numberAfter? (name : String) (text : List Char) : Option Nat := do
  let line ← ((String.ofList text).splitOn "\n").find? (·.startsWith (name ++ " "))
  Text.Decimal.read? (line.toList.drop (name.length + 1))

-- The time now: the time of the start of the system and what has passed since.
def now : IO Timestamp := do
  let boot := (numberAfter? "btime" (← textBelow ["stat"])).getD 0
  let passed := (Text.firstField? (← textBelow ["uptime"])).getD []
  let whole := passed.takeWhile Char.isDigit
  let hundredths := (passed.drop (whole.length + 1)).takeWhile Char.isDigit
  return ⟨(boot + Text.Decimal.value whole) * 1000000 + Text.Decimal.value hundredths * 10000⟩

def moment : IO Moment := return ⟨← IO.monoNanosNow⟩

-- Signals cannot be sent from here and programs cannot be started; a snapshot does neither.
def notImplemented : Errno := ⟨38⟩

def unix : (call : Unix.Call) → IO (Unix.interface.Answer call)
  | .signal _ _ => return .error notImplemented
  | .clock => moment
  | .pause time => IO.sleep time.millis.toUInt32
  | .start _ => return .error notImplemented
  | .wallClock => return UInt64.ofNat ((← now).micros / 1000000)

-- The clock that counts from boot is read from the file `uptime`, which shows it.
def files : (call : Linux.Call) → IO (Linux.files.Answer call)
  | .listRoot => attempt listRoot
  | .readFile path => attempt (readBelow path)
  | .bootClock => return .error notImplemented
  | .pageSize => return .ok (← pageSize?)

def system : (call : Linux.interface.Call) → IO (Linux.interface.Answer call)
  | .inl call => unix call
  | .inr call => files call

-- Runs a program against a system, and gives what was noted on the way as well.
def perform {I : Interface} {α : Type} (answer : (call : I.Call) → IO (I.Answer call)) :
    Program I α → IO (Except Halt α × List LogEntry)
  | .done a => return (.ok a, [])
  | .halt why => return (.error why, [])
  | .note entry rest => do
    let (outcome, log) ← perform answer rest
    return (outcome, entry :: log)
  | .ask call next => do
    let a ← answer call
    perform answer (next a)

partial def waitUntil {α : Type} (task : Task α) (limit : Moment) : IO Bool := do
  if ← IO.hasFinished task then return true
  if limit.nanos ≤ (← moment).nanos then return false
  IO.sleep 1
  waitUntil task limit

-- The listing by a worker, for which the caller waits no longer than the timeout.
def listWithin (table : Table Linux.interface) (max : UInt64) (timeout : Duration) :
    IO (Run Interface.none Unit (Except Failure (List Record)) × List LogEntry) := do
  let start ← moment
  let worker ← IO.asTask (perform system (table.list max)) .dedicated
  let inTime ← waitUntil worker ⟨start.nanos + timeout.nanos⟩
  let (ending, log) ← if !inTime then pure (Ending.crashed, []) else
    match worker.get with
    | .ok (outcome, log) => pure (Table.ending outcome, log)
    | .error _ => pure (.crashed, [])
  let job : Job (List Record) := ⟨if inTime then 0 else timeout.nanos, ending⟩
  return ((Job.within (.ok job) start timeout).run Handler.none (), log)

def mainThread : String := "main"

def workerThread : String := "hostproc-timeout"

def tell (json : Bool) (thread : String) (number : Nat) (notices : List Notice) : IO Unit := do
  for notice in notices do
    let time ← now
    IO.println (if json then notice.jsonLine time thread number else notice.plainLine time thread)

def run : IO UInt32 := do
  let names := [Settings.Key.listCapacity, .eventCapacity, .traceJson, .timeout].map Settings.Key.variable
  let values ← names.mapM fun name => return (name, ← IO.getEnv name)
  let (settings, _) := Settings.ofLookup fun name => (values.lookup name).join
  let filter := Log.Filter.ofVariable (← IO.getEnv "RUST_LOG")
  let tell := tell settings.traceJson
  tell mainThread 1 (Snapshot.written filter settings)
  let (size, _) ← perform files Linux.pageSize
  let own := (Text.firstField? (← textBelow ["self", "stat"])).bind Linux.pid?
  let table : Table Linux.interface := ⟨Linux.platform (size.toOption.getD 0), own.getD 0⟩
  let (first, firstLog) ← perform system table.uptime
  tell mainThread 1 ((LogEntry.notices firstLog).filter filter.allows)
  let (listing, workerLog) ← listWithin table settings.listCapacity settings.operationTimeout
  tell workerThread 2 ((LogEntry.notices workerLog).filter filter.allows)
  tell mainThread 1 ((LogEntry.notices listing.log).filter filter.allows)
  let outcome := do
    let uptime ← first
    let result ← listing.outcome
    return result.map fun records => ⟨uptime, Snapshot.byMemory records⟩
  let conclusion := Snapshot.conclude outcome
  if let some report := conclusion.report? then IO.println report
  IO.eprint conclusion.told
  return conclusion.exitCode

end ProcessControl.CommandLine

def main : IO UInt32 := ProcessControl.CommandLine.run
