import ProcessControl.Proofs.Queue.Sharing

namespace ProcessControl.Queue

variable {ι : Type}

-- An event and whose handle it was put in through.
structure Posted (ι : Type) where
  owner : ι
  event : Event
deriving DecidableEq

namespace Turn

-- The event that was put in by a turn, if it was accepted.
def accepted (t : Turn ι) : List (Posted ι) :=
  match t.move, t.reply with
  | .call handle op, .posted => op.event?.toList.map fun e => ⟨handle.owner, e⟩
  | _, _                     => []

-- The events that went out by a turn. Of dropped events only the count is told; they are the oldest ones.
def removed (t : Turn ι) : List Event :=
  match t.reply with
  | .took (some e)  => [e]
  | .dropped count  => t.before.take count
  | _               => []

section

variable {move : Move ι} {reply : Reply} {before : List Event}

theorem accepted_eq_nil (h : reply ≠ .posted) : accepted ⟨move, reply, before⟩ = [] := by
  unfold accepted
  split
  case h_1 hr => exact absurd hr h
  case h_2    => rfl

theorem of_isIdle (move : Move ι) (before : List Event) (h : reply.isIdle) :
    accepted ⟨move, reply, before⟩ = [] ∧ removed ⟨move, reply, before⟩ = [] := by
  refine ⟨accepted_eq_nil fun hr => ?_, ?_⟩
  case refine_1 => subst hr; cases h
  case refine_2 =>
    unfold removed
    split
    case h_1 hr => subst hr; cases h
    case h_2 hr => subst hr; cases h
    case h_3    => rfl

end

end Turn

def accepted (turns : List (Turn ι)) : List (Posted ι) :=
  turns.flatMap Turn.accepted

def removed (turns : List (Turn ι)) : List Event :=
  turns.flatMap Turn.removed

namespace Shared

variable [DecidableEq ι] {s s' : Shared ι} {move : Move ι} {moves : List (Move ι)} {reply : Reply}
  {turns : List (Turn ι)}

-- Whatever a turn does, it puts in at one end what it accepts and takes out at the other what it removes.
theorem step_conserves (h : s.step move = some (s', reply)) :
    s.pending ++ (Turn.accepted ⟨move, reply, s.pending⟩).map (·.event) =
      Turn.removed ⟨move, reply, s.pending⟩ ++ s'.pending := by
  cases step_effect h
  case posted he ht =>
    have hc := (Channel.trySend_eq_ok ht).left
    simp [Turn.accepted, Turn.removed, he, pending, hc]
  case took e channel blocked ht =>
    have ha : Turn.accepted ⟨move, .took (some e), s.pending⟩ = [] := Turn.accepted_eq_nil nofun
    rw [ha, List.map_nil, List.append_nil]
    exact (Channel.tryRecv_eq_some ht).left
  case dropped =>
    have ha : Turn.accepted ⟨move, .dropped s.pending.length, s.pending⟩ = [] := Turn.accepted_eq_nil nofun
    have hr : Turn.removed ⟨move, .dropped s.pending.length, s.pending⟩ = s.pending := List.take_length
    rw [ha, hr]
    rfl
  case idle hi =>
    have ⟨ha, hr⟩ := Turn.of_isIdle move s.pending hi
    rw [ha, hr]
    exact List.append_nil _
  all_goals exact List.append_nil _

theorem run_conserves (h : s.run moves = some (s', turns)) :
    s.pending ++ (accepted turns).map (·.event) = removed turns ++ s'.pending := by
  induction moves generalizing s turns
  case nil =>
    cases h
    simp [accepted, removed]
  case cons move moves hi =>
    have ⟨next, reply, turns', hs, hr, ht⟩ := run_cons h
    subst ht
    -- What the first turn leaves pending is what the others start from.
    simp only [accepted, removed, List.flatMap_cons, List.map_append] at hi ⊢
    rw [← List.append_assoc, step_conserves hs, List.append_assoc, hi hr, List.append_assoc]

end Shared

-- What was put in through the handles that are `mine`.
def postedBy (mine : ι → Bool) (posted : List (Posted ι)) : List Event :=
  (posted.filter (mine ·.owner)).map (·.event)

theorem postedBy_append (mine : ι → Bool) (out left : List (Posted ι)) :
    postedBy mine (out ++ left) = postedBy mine out ++ postedBy mine left := by
  simp [postedBy]

variable [DecidableEq ι]

-- The last part says of each producer alone, whichever handles are its own, that its events come out in the order
-- in which it put them in.
theorem accepted_eq_removed_append_pending (capacity : UInt64) (owner : ι) {moves : List (Move ι)} {s : Shared ι}
    {turns : List (Turn ι)} (h : (Shared.ofQueue (.ofCapacity capacity) owner).run moves = some (s, turns)) :
    (accepted turns).map (·.event) = removed turns ++ s.pending ∧
    ∃ out left, accepted turns = out ++ left ∧
      out.map (·.event) = removed turns ∧ left.map (·.event) = s.pending ∧
      ∀ mine, postedBy mine (accepted turns) = postedBy mine out ++ postedBy mine left := by
  have hc : (accepted turns).map (·.event) = removed turns ++ s.pending := Shared.run_conserves h
  have ⟨out, left, ha, ho, hl⟩ := List.map_eq_append_iff.mp hc
  exact ⟨hc, out, left, ha, ho, hl, fun mine => ha ▸ postedBy_append mine out left⟩

-- Producer 1 gets a handle and a third event is refused; the consumer 2 blocks once the queue was drained, and is
-- served by what comes next.
def mixed : List (Move Nat) :=
  let first := ⟨0, 2⟩
  let second := ⟨1, 2⟩
  let third := ⟨2, 2⟩
  [.clone first 1, .clone second 2,
    .call first (.push ⟨"a", .io, [1]⟩), .call second (.post "b" .timer []), .call first (.push ⟨"c", .io, []⟩),
    .call third .poll, .call third .drain, .call third (.wait (.ofMillis 5)),
    .call second (.push ⟨"d", .none, []⟩), .wake ⟨third, ⟨5000000⟩⟩, .drop second,
    .call first (.post "e" .custom [7])]

theorem accepted_eq_removed_append_pending_mixed :
    ∃ s turns, (Shared.ofQueue (.ofCapacity 2) 0).run mixed = some (s, turns) ∧
      (accepted turns).map (·.event.id) = ["a", "b", "d", "e"] ∧ (removed turns).map (·.id) = ["a", "b", "d"] ∧
      (accepted turns).map (·.event) = removed turns ++ s.pending := by
  have hm : ((Shared.ofQueue (.ofCapacity 2) 0).run mixed).map
      (fun (_, turns) => ((accepted turns).map (·.event.id), (removed turns).map (·.id))) =
      some (["a", "b", "d", "e"], ["a", "b", "d"]) := rfl
  have ⟨⟨s, turns⟩, hr, hi⟩ := Option.map_eq_some_iff.mp hm
  simp only [Prod.mk.injEq] at hi
  exact ⟨s, turns, hr, hi.left, hi.right, (accepted_eq_removed_append_pending 2 0 hr).left⟩

end ProcessControl.Queue
