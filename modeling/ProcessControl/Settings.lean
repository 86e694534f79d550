import ProcessControl.Duration
import ProcessControl.Json.Shape
import ProcessControl.Text.Blank

namespace ProcessControl

structure Settings where
  listCapacity : UInt64
  eventCapacity : UInt64
  traceJson : Bool
  operationTimeout : Duration
deriving DecidableEq, Repr

namespace Settings

def standard : Settings where
  listCapacity := 512
  eventCapacity := 256
  traceJson := false
  operationTimeout := .ofMillis 5000

inductive Key
  | listCapacity
  | eventCapacity
  | traceJson
  | timeout
deriving DecidableEq, Repr

def Key.variable : Key → String
  | .listCapacity => "HOSTPROC_LIST_CAPACITY"
  | .eventCapacity => "HOSTPROC_EVENT_CAPACITY"
  | .traceJson => "HOSTPROC_TRACE_JSON"
  | .timeout => "HOSTPROC_TIMEOUT_MS"

structure Ignored where
  key : Key
  value : String
deriving DecidableEq, Repr

-- A number of 64 bits, with white space around it and perhaps a plus sign.
def number? (value : String) : Option UInt64 :=
  (Text.Decimal.readBelow? UInt64.size (Text.trim value.toList)).map UInt64.ofNat

-- The number in a variable, or the default; a value that is no number is reported.
def numberOr (key : Key) (value? : Option String) (default : UInt64) : UInt64 × List Ignored :=
  match value? with
  | none => (default, [])
  | some value =>
    match number? value with
    | some n => (n, [])
    | none => (default, [⟨key, value⟩])

-- The values that switch JSON on; any other value leaves it off.
def isOn (value : String) : Bool :=
  value == "1" || value.toList.map Char.toLower == "true".toList

-- The settings in a set of variables, with the values passed over in the order in which they were read.
def ofLookup (lookup : String → Option String) : Settings × List Ignored :=
  let (listCapacity, ignoredList) := number .listCapacity standard.listCapacity
  let (eventCapacity, ignoredEvent) := number .eventCapacity standard.eventCapacity
  let (millis, ignoredTimeout) := number .timeout standard.operationTimeout.millis
  ({ listCapacity, eventCapacity,
     traceJson := ((lookup Key.traceJson.variable).map isOn).getD standard.traceJson,
     operationTimeout := .ofMillis millis },
   ignoredList ++ ignoredEvent ++ ignoredTimeout)
where
  number (key : Key) (default : UInt64) : UInt64 × List Ignored :=
    numberOr key (lookup key.variable) default

inductive Change
  | listCapacity (capacity : UInt64)
  | eventCapacity (capacity : UInt64)
  | traceJson (json : Bool)
  | operationTimeout (timeout : Duration)
deriving DecidableEq, Repr

def set (s : Settings) : Change → Settings
  | .listCapacity capacity => { s with listCapacity := capacity }
  | .eventCapacity capacity => { s with eventCapacity := capacity }
  | .traceJson json => { s with traceJson := json }
  | .operationTimeout timeout => { s with operationTimeout := timeout }

def toJson (s : Settings) : Json.Value :=
  .obj [
    ("list_capacity", .nat s.listCapacity.toNat),
    ("event_capacity", .nat s.eventCapacity.toNat),
    ("trace_json", .bool s.traceJson),
    ("operation_timeout", .nat s.operationTimeout.millis.toNat)]

structure Draft where
  listCapacity? : Option UInt64
  eventCapacity? : Option UInt64
  traceJson? : Option Bool
  operationTimeout? : Option Duration

namespace Draft

def empty : Draft := ⟨none, none, none, none⟩

def complete (d : Draft) : Except Json.Mismatch Settings := do
  let listCapacity ← Json.Reader.required "list_capacity" d.listCapacity?
  let eventCapacity ← Json.Reader.required "event_capacity" d.eventCapacity?
  let traceJson ← Json.Reader.required "trace_json" d.traceJson?
  let operationTimeout ← Json.Reader.required "operation_timeout" d.operationTimeout?
  return { listCapacity, eventCapacity, traceJson, operationTimeout }

end Draft

def members : List (Json.Reader.Member Draft) := [
  ⟨"list_capacity", (·.listCapacity?.isSome), fun d => do
    return { d with listCapacity? := some (UInt64.ofNat (← Json.Reader.natural UInt64.size "usize")) }⟩,
  ⟨"event_capacity", (·.eventCapacity?.isSome), fun d => do
    return { d with eventCapacity? := some (UInt64.ofNat (← Json.Reader.natural UInt64.size "usize")) }⟩,
  ⟨"trace_json", (·.traceJson?.isSome), fun d => do
    return { d with traceJson? := some (← Json.Reader.boolean) }⟩,
  ⟨"operation_timeout", (·.operationTimeout?.isSome), fun d => do
    return { d with
      operationTimeout? := some (.ofMillis (UInt64.ofNat (← Json.Reader.natural UInt64.size "u64"))) }⟩]

def read : Json.Reader Settings :=
  Json.Reader.aggregate "struct HostprocConfig" members .empty Draft.complete

end Settings

end ProcessControl
