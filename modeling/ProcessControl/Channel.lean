import ProcessControl.Duration

namespace ProcessControl

-- The pending items lie in two lists, the newer ones in reverse, so that both ends are at hand. Every operation on them
-- is one indivisible step.
structure Channel (α : Type) where
  bound : UInt64
  older : List α
  newer : List α
  size : Nat
  senders : Nat
  receivers : Nat
  size_eq : size = older.length + newer.length
  size_le : size ≤ bound.toNat

namespace Channel

variable {α : Type}

def bounded (bound : UInt64) : Channel α where
  bound     := bound
  older     := []
  newer     := []
  size      := 0
  senders   := 1
  receivers := 1
  size_eq   := rfl
  size_le   := Nat.zero_le _

def toList (c : Channel α) : List α :=
  c.older ++ c.newer.reverse

theorem length_toList (c : Channel α) : c.toList.length = c.size := by
  simp [toList, c.size_eq]

def isEmpty (c : Channel α) : Bool :=
  c.size == 0

def isFull (c : Channel α) : Bool :=
  c.size == c.bound.toNat

def isDisconnected (c : Channel α) : Bool :=
  c.senders == 0 || c.receivers == 0

def clone (c : Channel α) : Channel α :=
  { c with senders := c.senders + 1, receivers := c.receivers + 1 }

def release (c : Channel α) : Channel α :=
  { c with senders := c.senders - 1, receivers := c.receivers - 1 }

def releaseSender (c : Channel α) : Channel α :=
  { c with senders := c.senders - 1 }

def releaseReceiver (c : Channel α) : Channel α :=
  { c with receivers := c.receivers - 1 }

inductive SendFailure
  | full
  | disconnected
deriving DecidableEq, Repr

def trySend (c : Channel α) (a : α) : Except SendFailure (Channel α) :=
  if c.isDisconnected then .error .disconnected
  else if h : c.size < c.bound.toNat then
    .ok { c with
      newer   := a :: c.newer
      size    := c.size + 1
      size_eq := by rw [c.size_eq, List.length_cons, Nat.add_assoc]
      size_le := h }
  else .error .full

-- When the older items are used up, the newer ones take their place.
def tryRecv (c : Channel α) : Option (α × Channel α) :=
  match h : c.older with
  | a :: rest =>
    some (a, { c with
      older   := rest
      size    := c.size - 1
      size_eq := by have := c.size_eq; simp [h] at this; omega
      size_le := by have := c.size_le; omega })
  | [] =>
    match h' : c.newer.reverse with
    | [] => none
    | a :: rest =>
      some (a, { c with
        older   := rest
        newer   := []
        size    := c.size - 1
        size_eq := by
          have hs := c.size_eq
          have hl := congrArg List.length h'
          simp [h] at hs hl
          simp
          omega
        size_le := by have := c.size_le; omega })

-- What asking for an item within a time comes to at once.
inductive Receiving (α : Type)
  | served (a : α) (rest : Channel α)
  | blocked (deadline : Moment)
  | disconnected
  | overflow

-- The deadline is worked out first, even when an item is there.
def recvTimeout (c : Channel α) (now : Moment) (time : Duration) : Receiving α :=
  match now.after? time with
  | none          => .overflow
  | some deadline =>
    match c.tryRecv with
    | some (a, rest) => .served a rest
    | none           => if c.isDisconnected then .disconnected else .blocked deadline

def drain (c : Channel α) : List α × Channel α :=
  (c.toList, { c with
    older   := []
    newer   := []
    size    := 0
    size_eq := rfl
    size_le := Nat.zero_le _ })

end Channel

end ProcessControl
