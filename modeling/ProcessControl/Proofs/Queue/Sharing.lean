import ProcessControl.Proofs.Channel
import ProcessControl.Queue

namespace ProcessControl.Queue

inductive Op
  | post (id : String) (kind : EventKind) (payload : List UInt8)
  | push (event : Event)
  | poll
  | wait (time : Duration)
  | drain
  | capacity
  | size
  | isEmpty
  | isFull
deriving DecidableEq

def Op.event? : Op → Option Event
  | .post id kind payload => some ⟨id, kind, payload⟩
  | .push e               => some e
  | _                     => none

inductive Reply
  | posted
  | refused (why : Refusal)
  | took (event? : Option Event)
  | blocked
  | crashed
  | dropped (count : Nat)
  | capacity (capacity : UInt64)
  | size (size : Nat)
  | truth (truth : Bool)
  | done
deriving DecidableEq

-- Nothing was put in, taken out or turned away.
def Reply.isIdle : Reply → Bool
  | .posted | .refused _ | .took (some _) | .dropped _ => false
  | _                                                  => true

-- Each handle has one owner and its own note of the capacity.
structure Handle (ι : Type) where
  owner : ι
  capacity : UInt64
deriving DecidableEq

-- A wait that has not come to its end, with the handle it was asked through.
structure Blocked (ι : Type) where
  handle : Handle ι
  deadline : Moment
deriving DecidableEq

inductive Move (ι : Type)
  | call (handle : Handle ι) (op : Op)
  | clone (handle : Handle ι) (owner : ι)
  | drop (handle : Handle ι)
  | wake (blocked : Blocked ι)
  | expire (blocked : Blocked ι)
  | tick (now : Moment)
deriving DecidableEq

structure Shared (ι : Type) where
  channel : Channel Event
  handles : List (Handle ι)
  blocked : List (Blocked ι)
  clock : Moment

namespace Shared

variable {ι : Type}

def ofQueue (q : Queue) (owner : ι) : Shared ι where
  channel := q.channel
  handles := [⟨owner, q.capacity⟩]
  blocked := []
  clock   := ⟨0⟩

def pending (s : Shared ι) : List Event :=
  s.channel.toList

def seenBy (s : Shared ι) (handle : Handle ι) : Queue :=
  ⟨handle.capacity, s.channel⟩

-- What comes of putting an event in.
def put (s : Shared ι) : Except Refusal Queue → Shared ι × Reply
  | .ok q      => ({ s with channel := q.channel }, .posted)
  | .error why => (s, .refused why)

-- What comes of taking an event out, when it need not be there.
def take (s : Shared ι) : Option (Event × Queue) → Shared ι × Reply
  | some (e, q) => ({ s with channel := q.channel }, .took <| some e)
  | none        => (s, .took none)

def call (s : Shared ι) (handle : Handle ι) : Op → Shared ι × Reply
  | .post id kind payload => s.put <| (s.seenBy handle).post id kind payload
  | .push e               => s.put <| (s.seenBy handle).push e
  | .poll                 => s.take (s.seenBy handle).poll
  | .wait time            =>
    match (s.seenBy handle).wait s.clock time with
    | .served e q       => s.take <| some (e, q)
    | .nothing          => s.take none
    | .blocked deadline => ({ s with blocked := ⟨handle, deadline⟩ :: s.blocked }, .blocked)
    | .overflow         => (s, .crashed)
  | .drain                =>
    let (count, q) := (s.seenBy handle).drain
    ({ s with channel := q.channel }, .dropped count)
  | .capacity             => (s, .capacity (s.seenBy handle).capacity)
  | .size                 => (s, .size (s.seenBy handle).size)
  | .isEmpty              => (s, .truth (s.seenBy handle).isEmpty)
  | .isFull               => (s, .truth (s.seenBy handle).isFull)

theorem call_event {s : Shared ι} {handle : Handle ι} {op : Op} {e : Event} (he : op.event? = some e) :
    s.call handle op = s.put ((s.seenBy handle).push e) := by
  cases op <;> cases he <;> rfl

variable [DecidableEq ι]

-- One turn, if it can be taken. A handle is used only while it is there, and given up only when no wait stands on
-- it. A blocked wait ends with the oldest event once there is one, or without any once its time is up.
def step (s : Shared ι) : Move ι → Option (Shared ι × Reply)
  | .call handle op     =>
    if handle ∈ s.handles then some (s.call handle op) else none
  | .clone handle owner =>
    if handle ∈ s.handles ∧ owner ∉ s.handles.map (·.owner) then
      let q := (s.seenBy handle).clone
      some ({ s with channel := q.channel, handles := ⟨owner, q.capacity⟩ :: s.handles }, .done)
    else none
  | .drop handle        =>
    if handle ∈ s.handles ∧ handle ∉ s.blocked.map (·.handle) then
      some ({ s with channel := (s.seenBy handle).release.channel, handles := s.handles.erase handle }, .done)
    else none
  | .wake blocked       =>
    if blocked ∈ s.blocked then
      (s.seenBy blocked.handle).poll.map fun taken => { s with blocked := s.blocked.erase blocked }.take (some taken)
    else none
  | .expire blocked     =>
    if blocked ∈ s.blocked ∧ blocked.deadline.nanos ≤ s.clock.nanos then
      some <| { s with blocked := s.blocked.erase blocked }.take none
    else none
  | .tick now           =>
    if s.clock.nanos ≤ now.nanos then some ({ s with clock := now }, .done) else none

-- All that a turn can do. Whatever a theorem says of every turn is said of these few cases.
inductive Effect (s : Shared ι) : Move ι → Reply → Shared ι → Prop
  | posted {handle op e channel} :
    op.event? = some e → s.channel.trySend e = .ok channel →
    Effect s (.call handle op) .posted { s with channel }
  | refused {handle op e why} :
    handle ∈ s.handles → op.event? = some e → (s.seenBy handle).push e = .error why →
    Effect s (.call handle op) (.refused why) s
  | took {move e channel blocked} :
    s.channel.tryRecv = some (e, channel) →
    Effect s move (.took <| some e) { s with channel, blocked }
  | dropped {move} :
    Effect s move (.dropped s.pending.length) { s with channel := s.channel.drain.snd }
  | idle {move reply blocked clock} :
    reply.isIdle → Effect s move reply { s with blocked, clock }
  | clone {handle owner} :
    handle ∈ s.handles →
    Effect s (.clone handle owner) .done
      { s with channel := s.channel.clone, handles := ⟨owner, handle.capacity⟩ :: s.handles }
  | drop {handle} :
    handle ∈ s.handles →
    Effect s (.drop handle) .done { s with channel := s.channel.release, handles := s.handles.erase handle }

variable {s s' : Shared ι} {handle : Handle ι} {op : Op} {move : Move ι} {reply : Reply}

theorem put_effect {e : Event} (hh : handle ∈ s.handles) (he : op.event? = some e)
    (h : s.put ((s.seenBy handle).push e) = (s', reply)) : s.Effect (.call handle op) reply s' := by
  cases hp : (s.seenBy handle).push e
  case error why =>
    rw [hp] at h
    cases h
    exact .refused hh he hp
  case ok q =>
    rw [hp] at h
    cases h
    simp only [push, seenBy] at hp
    cases ht : s.channel.trySend e
    case error why => rw [ht] at hp; cases why <;> cases hp
    case ok channel =>
      rw [ht] at hp
      cases hp
      exact .posted he ht

omit [DecidableEq ι] in
theorem poll_eq_some {e : Event} {q : Queue} (h : (s.seenBy handle).poll = some (e, q)) :
    s.channel.tryRecv = some (e, q.channel) := by
  simp only [poll, seenBy, Option.map_eq_some_iff] at h
  have ⟨_, ht, he⟩ := h
  cases he
  exact ht

omit [DecidableEq ι] in
-- However long it may take, an event that is there is taken as by polling.
theorem wait_served {now : Moment} {time : Duration} {e : Event} {q : Queue}
    (h : (s.seenBy handle).wait now time = .served e q) : s.channel.tryRecv = some (e, q.channel) := by
  unfold wait at h
  split at h
  case isTrue =>
    split at h
    case h_1 hp => cases h; exact poll_eq_some hp
    case h_2    => cases h
  case isFalse =>
    split at h
    case h_1 hr => cases h; exact Channel.recvTimeout_served hr
    all_goals cases h

theorem call_effect (hh : handle ∈ s.handles) (h : s.call handle op = (s', reply)) :
    s.Effect (.call handle op) reply s' := by
  cases op
  case post    => exact put_effect hh rfl h
  case push    => exact put_effect hh rfl h
  case poll    =>
    cases hp : (s.seenBy handle).poll <;> simp only [call, hp, take] at h <;> cases h
    case none       => exact .idle rfl
    case some taken => exact .took <| poll_eq_some hp
  case wait time =>
    cases hw : (s.seenBy handle).wait s.clock time <;> simp only [call, hw, take] at h <;> cases h
    case served   => exact .took <| wait_served hw
    case nothing  => exact .idle rfl
    case blocked  => exact .idle rfl
    case overflow => exact .idle rfl
  case drain   => cases h; exact .dropped
  all_goals cases h; exact .idle rfl

theorem step_effect (h : s.step move = some (s', reply)) : s.Effect move reply s' := by
  cases move <;> simp only [step, Option.ite_none_right_eq_some, Option.some.injEq] at h
  case call   => exact call_effect h.left h.right
  case clone  => cases h.right; exact .clone h.left.left
  case drop   => cases h.right; exact .drop h.left.left
  case expire => cases h.right; exact .idle rfl
  case tick   => cases h.right; exact .idle rfl
  case wake blocked =>
    have ⟨taken, hp, ht⟩ := Option.map_eq_some_iff.mp h.right
    cases ht
    exact .took <| poll_eq_some hp

end Shared

-- A turn as it was taken, with what was pending before it.
structure Turn (ι : Type) where
  move : Move ι
  reply : Reply
  before : List Event

variable {ι : Type} [DecidableEq ι]

def Shared.run (s : Shared ι) : List (Move ι) → Option (Shared ι × List (Turn ι))
  | []            => some (s, [])
  | move :: moves => do
    let (next, reply) ← s.step move
    let (last, turns) ← next.run moves
    return (last, ⟨move, reply, s.pending⟩ :: turns)

theorem Shared.run_cons {s last : Shared ι} {move : Move ι} {moves : List (Move ι)} {turns : List (Turn ι)}
    (h : s.run (move :: moves) = some (last, turns)) :
    ∃ next reply turns', s.step move = some (next, reply) ∧ next.run moves = some (last, turns') ∧
      turns = ⟨move, reply, s.pending⟩ :: turns' := by
  simp only [run, Option.bind_eq_bind, Option.bind_eq_some_iff, Option.pure_def, Option.some.injEq] at h
  have ⟨⟨next, reply⟩, hs, ⟨_, turns'⟩, hr, ht⟩ := h
  cases ht
  exact ⟨next, reply, turns', hs, hr, rfl⟩

end ProcessControl.Queue
