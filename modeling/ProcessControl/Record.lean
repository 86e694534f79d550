import ProcessControl.Name
import ProcessControl.Pid

namespace ProcessControl

-- A process that has ended is never seen, so no status says so.
inductive Status
  | unknown
  | running
deriving DecidableEq, Repr

namespace Status

def words : List (String × Status) := [("unknown", .unknown), ("running", .running)]

def word : Status → String
  | .unknown => "unknown"
  | .running => "running"

def number : Status → Nat
  | .unknown => 0
  | .running => 1

def toJson (status : Status) : Json.Value := .str status.word

def read : Json.Reader Status := Json.Reader.oneOf words

end Status

structure Record where
  pid : Pid
  name? : Option Name
  memory : Memory
  status : Status
deriving DecidableEq, Repr

namespace Record

def empty : Record := ⟨0, none, 0, .unknown⟩

def running (pid : Pid) (name : Name) (memory : Memory) : Record :=
  ⟨pid, some name, memory, .running⟩

def title (r : Record) : String := (r.name?.map (·.text)).getD ""

def alignRight (width : Nat) (cs : List Char) : List Char :=
  List.replicate (width - cs.length) ' ' ++ cs

-- Identifier, memory and name in columns.
def line (r : Record) : String :=
  String.ofList (alignRight 7 (Text.Decimal.digits r.pid.toNat) ++ [' ', ' '] ++
    alignRight 12 (Text.Decimal.digits r.memory.toNat) ++ [' ', ' '] ++ r.title.toList)

def toJson (r : Record) : Json.Value :=
  .obj [
    ("pid", .nat r.pid.toNat),
    ("display_name", (r.name?.map Name.toJson).getD .null),
    ("memory_usage", .nat r.memory.toNat),
    ("status", r.status.toJson)]

structure Draft where
  pid? : Option Pid
  name? : Option (Option Name)
  memory? : Option Memory
  status? : Option Status

namespace Draft

def empty : Draft := ⟨none, none, none, none⟩

-- A name that is not given is no name; all else must be given.
def complete (d : Draft) : Except Json.Mismatch Record := do
  let pid ← Json.Reader.required "pid" d.pid?
  let memory ← Json.Reader.required "memory_usage" d.memory?
  let status ← Json.Reader.required "status" d.status?
  return ⟨pid, d.name?.getD none, memory, status⟩

end Draft

def members : List (Json.Reader.Member Draft) := [
  ⟨"pid", (·.pid?.isSome), fun d => do
    return { d with pid? := some (UInt32.ofNat (← Json.Reader.natural UInt32.size "u32")) }⟩,
  ⟨"display_name", (·.name?.isSome), fun d => do
    return { d with name? := some (← Json.Reader.optional Name.read) }⟩,
  ⟨"memory_usage", (·.memory?.isSome), fun d => do
    return { d with memory? := some (UInt64.ofNat (← Json.Reader.natural UInt64.size "usize")) }⟩,
  ⟨"status", (·.status?.isSome), fun d => do
    return { d with status? := some (← Status.read) }⟩]

def read : Json.Reader Record :=
  Json.Reader.aggregate "struct ProcessRecord" members .empty Draft.complete

end Record

end ProcessControl
