import ProcessControl.Proofs.Queue.Sharing

namespace ProcessControl.Queue

variable {ι : Type} {capacity : UInt64}

namespace Shared

-- The invariant that each turn keeps.
structure Balanced (capacity : UInt64) (s : Shared ι) : Prop where
  bound     : s.channel.bound = capacity
  notes     : ∀ handle ∈ s.handles, handle.capacity = capacity
  senders   : s.channel.senders = s.handles.length
  receivers : s.channel.receivers = s.handles.length

-- There is room for one event even where none is asked for.
theorem capacity_ofCapacity (capacity : UInt64) : (ofCapacity capacity).capacity = max capacity 1 := by
  have hm : max capacity 1 = if capacity ≤ 1 then 1 else capacity := rfl
  simp only [ofCapacity, hm, ← UInt64.toNat_inj, UInt64.le_iff_toNat_le, UInt64.toNat_zero, UInt64.toNat_one]
  split <;> split <;> simp only [UInt64.toNat_one] <;> omega

theorem ofQueue_balanced (capacity : UInt64) (owner : ι) :
    (ofQueue (.ofCapacity capacity) owner).Balanced (max capacity 1) where
  bound     := capacity_ofCapacity capacity
  notes     := by simp [ofQueue, capacity_ofCapacity]
  senders   := rfl
  receivers := rfl

namespace Balanced

variable {s s' : Shared ι} {handle : Handle ι} {op : Op} {e : Event}

theorem alike {channel : Channel Event} (hb : s.Balanced capacity) (ha : s.channel.Alike channel)
    (blocked : List (Blocked ι)) (clock : Moment) :
    (Shared.mk channel s.handles blocked clock).Balanced capacity where
  bound     := ha.bound.trans hb.bound
  notes     := hb.notes
  senders   := ha.senders.trans hb.senders
  receivers := ha.receivers.trans hb.receivers

theorem isDisconnected (hb : s.Balanced capacity) (hh : handle ∈ s.handles) : s.channel.isDisconnected = false := by
  have hl := List.length_pos_of_mem hh
  simp only [Channel.isDisconnected, hb.senders, hb.receivers, Bool.or_self, beq_eq_false_iff_ne]
  omega

-- Whoever is refused is told the capacity, and the channel has no slot left.
theorem push_eq_error {why : Refusal} (hb : s.Balanced capacity) (hh : handle ∈ s.handles)
    (h : (s.seenBy handle).push e = .error why) : why = .full capacity ∧ s.pending.length = capacity.toNat := by
  have hd := hb.isDisconnected hh
  by_cases hr : s.channel.toList.length < s.channel.bound.toNat
  case pos =>
    have ⟨_, ht⟩ := Channel.trySend_of_room hd hr e
    simp [push, seenBy, ht] at h
  case neg =>
    have hf := Nat.le_antisymm s.channel.length_toList_le (Nat.not_lt.mp hr)
    simp only [push, seenBy, Channel.trySend_of_full hd hf, hb.notes handle hh, Except.error.injEq] at h
    exact ⟨h.symm, hb.bound ▸ hf⟩

variable [DecidableEq ι] {move : Move ι} {moves : List (Move ι)} {reply : Reply} {turns : List (Turn ι)}

theorem step (hb : s.Balanced capacity) (h : s.step move = some (s', reply)) : s'.Balanced capacity := by
  cases step_effect h
  case posted ht  => exact hb.alike (Channel.trySend_eq_ok ht).right _ _
  case refused    => exact hb
  case took ht    => exact hb.alike (Channel.tryRecv_eq_some ht).right _ _
  case dropped    => exact hb.alike s.channel.drain_alike _ _
  case idle       => exact ⟨hb.bound, hb.notes, hb.senders, hb.receivers⟩
  case clone handle owner hh =>
    refine ⟨hb.bound, ?_, congrArg (· + 1) hb.senders, congrArg (· + 1) hb.receivers⟩
    intro other ho
    cases ho
    case head    => exact hb.notes handle hh
    case tail ho => exact hb.notes other ho
  case drop hh =>
    have hl := List.length_erase_of_mem hh
    exact ⟨hb.bound, fun other ho => hb.notes other <| List.mem_of_mem_erase ho,
      hl ▸ congrArg (· - 1) hb.senders, hl ▸ congrArg (· - 1) hb.receivers⟩

theorem run (hb : s.Balanced capacity) (h : s.run moves = some (s', turns)) : s'.Balanced capacity := by
  induction moves generalizing s turns
  case nil => cases h; exact hb
  case cons hi =>
    have ⟨_, _, _, hs, hr, _⟩ := run_cons h
    exact hi (hb.step hs) hr

-- No turn is refused but for want of room.
theorem run_refused {why : Refusal} (hb : s.Balanced capacity) (h : s.run moves = some (s', turns))
    {turn : Turn ι} (ht : turn ∈ turns) (hr : turn.reply = .refused why) :
    why = .full capacity ∧ turn.before.length = capacity.toNat := by
  induction moves generalizing s turns
  case nil => cases h; cases ht
  case cons hi =>
    have ⟨next, reply, turns', hs, hn, he⟩ := run_cons h
    subst he
    cases ht
    case tail ht => exact hi (hb.step hs) hn ht
    case head =>
      simp only at hr
      subst hr
      cases step_effect hs
      case refused hh _ hp => exact hb.push_eq_error hh hp
      case idle hi         => cases hi

end Balanced

variable [DecidableEq ι]

-- What the owner of a handle finds, whichever operation it turns to.
structure Keeps (room : UInt64) (s : Shared ι) (handle : Handle ι) : Prop where
  capacity : s.step (.call handle .capacity) = some (s, .capacity room)
  size     : s.step (.call handle .size) = some (s, .size s.pending.length)
  size_le  : s.pending.length ≤ room.toNat
  isEmpty  : s.step (.call handle .isEmpty) = some (s, .truth <| decide (s.pending.length = 0))
  isFull   : s.step (.call handle .isFull) = some (s, .truth <| decide (s.pending.length = room.toNat))
  push     : ∀ op e, op.event? = some e → s.pending.length < room.toNat →
    ∃ channel, s.step (.call handle op) = some ({ s with channel }, .posted) ∧ channel.toList = s.pending ++ [e]
  refuse   : ∀ op e, op.event? = some e → s.pending.length = room.toNat →
    s.step (.call handle op) = some (s, .refused <| .full room)
  poll     : s.pending = [] → s.step (.call handle .poll) = some (s, .took none)
  wait     : ∀ time : Duration, time.isZero → s.pending = [] →
    s.step (.call handle <| .wait time) = some (s, .took none)
  drain    : ∃ channel, s.step (.call handle .drain) = some ({ s with channel }, .dropped s.pending.length) ∧
    channel.toList = []

namespace Balanced

variable {s : Shared ι} {handle : Handle ι}

theorem step_call (hh : handle ∈ s.handles) (op : Op) : s.step (.call handle op) = some (s.call handle op) :=
  if_pos hh

theorem keeps (hb : s.Balanced capacity) (hh : handle ∈ s.handles) : s.Keeps capacity handle where
  capacity := by
    rw [step_call hh, ← hb.notes handle hh]
    rfl
  size := by
    rw [step_call hh, pending, s.channel.length_toList]
    rfl
  size_le :=
    hb.bound ▸ s.channel.length_toList_le
  isEmpty := by
    rw [step_call hh, pending, ← s.channel.isEmpty_eq]
    rfl
  isFull := by
    rw [step_call hh, pending, ← hb.bound, ← s.channel.isFull_eq]
    rfl
  push op e he hl := by
    have ⟨channel, ht⟩ := Channel.trySend_of_room (hb.isDisconnected hh) (hb.bound ▸ hl) e
    refine ⟨channel, ?_, (Channel.trySend_eq_ok ht).left⟩
    rw [step_call hh, call_event he]
    simp [seenBy, Queue.push, ht, put]
  refuse op e he hl := by
    have ht := Channel.trySend_of_full (hb.isDisconnected hh) (hb.bound ▸ hl) e
    rw [step_call hh, call_event he]
    simp [seenBy, Queue.push, ht, put, hb.notes handle hh]
  poll hp := by
    have hr := Channel.tryRecv_eq_none_iff.mpr hp
    rw [step_call hh]
    simp [call, seenBy, Queue.poll, hr, take]
  wait time hz hp := by
    have hr := Channel.tryRecv_eq_none_iff.mpr hp
    rw [step_call hh]
    simp [call, seenBy, Queue.wait, Queue.poll, hz, hr, take]
  drain :=
    ⟨s.channel.drain.snd, step_call hh _, s.channel.toList_drain⟩

end Balanced

end Shared

variable [DecidableEq ι]

theorem room_is_kept (capacity : UInt64) (owner : ι) {moves : List (Move ι)} {s : Shared ι} {turns : List (Turn ι)}
    (h : (Shared.ofQueue (.ofCapacity capacity) owner).run moves = some (s, turns)) :
    (∀ handle ∈ s.handles, s.Keeps (max capacity 1) handle) ∧
    (∀ turn ∈ turns, turn.reply ≠ .refused .disconnected ∧ ∀ why, turn.reply = .refused why →
      why = .full (max capacity 1) ∧ turn.before.length = (max capacity 1).toNat) := by
  have hb := Shared.ofQueue_balanced capacity owner
  refine ⟨fun _ hh => (hb.run h).keeps hh, fun turn ht => ⟨fun hr => ?_, fun _ hr => hb.run_refused h ht hr⟩⟩
  cases (hb.run_refused h ht hr).left

-- No room was asked for, the second event is refused, and the first handle is given up before the other one drains.
def narrow : List (Move Nat) :=
  let first := ⟨0, 1⟩
  let second := ⟨1, 1⟩
  [.call first (.push ⟨"a", .io, [1]⟩), .call first (.post "b" .timer []), .clone first 1, .drop first,
    .call second .drain, .call second .poll]

theorem room_is_kept_narrow :
    ∃ s turns, (Shared.ofQueue (.ofCapacity 0) 0).run narrow = some (s, turns) ∧
      turns.map (·.reply) = [.posted, .refused (.full 1), .done, .done, .dropped 1, .took none] ∧
      s.handles = [⟨1, 1⟩] ∧ s.Keeps (max 0 1) ⟨1, 1⟩ ∧
      ∀ turn ∈ turns, turn.reply ≠ .refused .disconnected := by
  have hm : ((Shared.ofQueue (.ofCapacity 0) 0).run narrow).map
      (fun (s, turns) => (turns.map (·.reply), s.handles)) =
      some ([.posted, .refused (.full 1), .done, .done, .dropped 1, .took none], [⟨1, 1⟩]) := rfl
  have ⟨⟨s, turns⟩, hr, hi⟩ := Option.map_eq_some_iff.mp hm
  simp only [Prod.mk.injEq] at hi
  have ⟨keeps, replies⟩ := room_is_kept 0 0 hr
  have hh : (⟨1, 1⟩ : Handle Nat) ∈ s.handles := hi.right ▸ .head _
  exact ⟨s, turns, hr, hi.left, hi.right, keeps _ hh, fun turn ht => (replies turn ht).left⟩

end ProcessControl.Queue
