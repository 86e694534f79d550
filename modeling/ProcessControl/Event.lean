import ProcessControl.Json.Tagged

namespace ProcessControl

inductive EventKind
  | none
  | io
  | timer
  | signal
  | custom
deriving DecidableEq, Repr

namespace EventKind

def words : List (String × EventKind) :=
  [("none", .none), ("io", .io), ("timer", .timer), ("signal", .signal), ("custom", .custom)]

def word : EventKind → String
  | .none => "none"
  | .io => "io"
  | .timer => "timer"
  | .signal => "signal"
  | .custom => "custom"

def toJson (kind : EventKind) : Json.Value := .str kind.word

def read : Json.Reader EventKind := Json.Reader.oneOf words

end EventKind

-- The payload is the event's own; nothing that happens to the poster's bytes later changes it.
structure Event where
  id : String
  kind : EventKind
  payload : List UInt8
deriving DecidableEq, Repr

namespace Event

def custom (id : String) (payload : List UInt8) : Event := ⟨id, .custom, payload⟩

def size (e : Event) : Nat := e.payload.length

end Event

inductive Refusal
  | full (capacity : UInt64)
  | disconnected
deriving DecidableEq, Repr

namespace Refusal

def tag : Refusal → String
  | .full _ => "queue_full"
  | .disconnected => "disconnected"

def message : Refusal → String
  | .full capacity => "Event queue full (capacity " ++ Text.Decimal.text capacity.toNat ++ ")"
  | .disconnected => "Event queue disconnected"

def code (refusal : Refusal) : String := "events::" ++ refusal.tag

def advice? : Refusal → Option String
  | .full _ => some "Poll pending events before posting more, or create the queue with a larger capacity."
  | .disconnected => none

def details? : Refusal → Option Json.Value
  | .full capacity => some (.nat capacity.toNat)
  | .disconnected => none

def toJson (refusal : Refusal) : Json.Value :=
  .obj (("error_type", .str refusal.tag) :: (refusal.details?.map (("details", ·))).toList)

def tagging : Json.Tagging Refusal where
  title := "adjacently tagged enum EventError"
  tagName := "error_type"
  detailsName := "details"
  alternatives := [
    ("queue_full", .number UInt64.size "usize" fun n => .full (UInt64.ofNat n)),
    ("disconnected", .nothing "unit variant EventError::Disconnected" .disconnected)]

def read : Json.Reader Refusal := tagging.read

end Refusal

end ProcessControl
