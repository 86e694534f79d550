import ProcessControl.Channel
import ProcessControl.Event

namespace ProcessControl

-- A queue as one of its handles sees it: the channel is everyone's, the capacity is the handle's own note of it.
structure Queue where
  capacity : UInt64
  channel : Channel Event

namespace Queue

def defaultCapacity : UInt64 := 256

-- An empty queue with one handle; it has room for at least one event.
def ofCapacity (capacity : UInt64) : Queue :=
  let capacity := if capacity = 0 then 1 else capacity
  ⟨capacity, .bounded capacity⟩

def toList (q : Queue) : List Event :=
  q.channel.toList

def size (q : Queue) : Nat :=
  q.channel.size

def isEmpty (q : Queue) : Bool :=
  q.channel.isEmpty

def isFull (q : Queue) : Bool :=
  q.channel.isFull

def clone (q : Queue) : Queue :=
  { q with channel := q.channel.clone }

def release (q : Queue) : Queue :=
  { q with channel := q.channel.release }

-- Puts an event behind all others, if there is room and somebody could take it.
def push (q : Queue) (e : Event) : Except Refusal Queue :=
  match q.channel.trySend e with
  | .ok channel          => .ok { q with channel }
  | .error .full         => .error (.full q.capacity)
  | .error .disconnected => .error .disconnected

def post (q : Queue) (id : String) (kind : EventKind) (payload : List UInt8) : Except Refusal Queue :=
  q.push ⟨id, kind, payload⟩

def poll (q : Queue) : Option (Event × Queue) :=
  q.channel.tryRecv.map fun (e, channel) => (e, { q with channel })

def pushAll (q : Queue) (es : List Event) : Queue × Nat :=
  es.foldl (fun (q, refused) e =>
    match q.push e with
    | .ok q    => (q, refused)
    | .error _ => (q, refused + 1)) (q, 0)

-- Takes so many events; where there is none left, none is taken.
def pollMany (q : Queue) : Nat → List (Option Event) × Queue
  | 0     => ([], q)
  | n + 1 =>
    match q.poll with
    | some (e, q) =>
      let (es, q) := q.pollMany n
      (some e :: es, q)
    | none => (List.replicate (n + 1) none, q)

def drain (q : Queue) : Nat × Queue :=
  let (dropped, channel) := q.channel.drain
  (dropped.length, { q with channel })

-- What asking for an event within a time comes to at once: an event that comes before the deadline is still taken.
inductive Waiting
  | served (event : Event) (rest : Queue)
  | nothing
  | blocked (deadline : Moment)
  | overflow

-- Takes the oldest event, or waits for one. No time at all is the same as polling.
def wait (q : Queue) (now : Moment) (time : Duration) : Waiting :=
  if time.isZero then
    match q.poll with
    | some (e, rest) => .served e rest
    | none           => .nothing
  else
    match q.channel.recvTimeout now time with
    | .served e channel => .served e { q with channel }
    | .blocked deadline => .blocked deadline
    | .disconnected     => .nothing
    | .overflow         => .overflow

end Queue

end ProcessControl
