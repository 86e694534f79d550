import ProcessControl.Proofs.Channel
import ProcessControl.Proofs.Deadline
import ProcessControl.Queue

namespace ProcessControl

namespace Queue

variable {q rest : Queue} {e : Event} {es : List Event}

theorem exists_poll (h : q.toList = e :: es) : ∃ rest, q.poll = some (e, rest) ∧ rest.toList = es := by
  cases ht : q.channel.tryRecv
  case none =>
    rw [toList, Channel.tryRecv_eq_none_iff.mp ht] at h
    cases h
  case some taken =>
    obtain ⟨a, channel⟩ := taken
    rw [toList, (Channel.tryRecv_eq_some ht).left] at h
    cases h
    refine ⟨{ q with channel }, ?_, rfl⟩
    rw [poll, ht]
    rfl

-- What polling takes is taken by waiting as well, unless the deadline cannot be told.
theorem wait_of_poll (h : q.poll = some (e, rest)) (now : Moment) (time : Duration) :
    q.wait now time =
      if time.isZero ∨ now.nanos + time.nanos < Moment.limit then .served e rest else .overflow := by
  have ⟨⟨a, channel⟩, ht, hr⟩ := Option.map_eq_some_iff.mp h
  cases hr
  by_cases hz : time.isZero = true
  case pos => rw [wait, if_pos hz, if_pos (.inl hz), h]
  case neg =>
    rw [wait, if_neg hz, Channel.recvTimeout, Moment.after?]
    by_cases hd : now.nanos + time.nanos < Moment.limit
    case pos =>
      rw [if_pos hd, if_pos (.inr hd)]
      simp only [ht]
    case neg => rw [if_neg hd, if_neg (not_or.mpr ⟨hz, hd⟩)]

end Queue

namespace Job

variable {α : Type} {job : Job α} {a : α} {timeout : Duration}

theorem within_of_returned (hr : job.ending = .returned a) (ht : job.elapsed < timeout.nanos) (now : Moment) :
    ((within (.ok job) now timeout).run Handler.none ()).outcome =
      if now.nanos + timeout.nanos < Moment.limit then .ok (.ok a) else .error .crashed := by
  by_cases hd : now.nanos + timeout.nanos < Moment.limit
  case pos =>
    have ha : now.after? timeout = some ⟨now.nanos + timeout.nanos⟩ := if_pos hd
    rw [within_of_deadline ha, verdict, if_pos ht, hr, if_pos hd]
  case neg => rw [within_of_overflow (if_neg hd), if_neg hd]

end Job

theorem timed_operations_answer_iff_deadline {α : Type} {q : Queue} {e : Event} {es : List Event}
    (hq : q.toList = e :: es) {job : Job α} {a : α} (hj : job.ending = .returned a) (now : Moment)
    (time : Duration) :
    (∃ rest, q.poll = some (e, rest) ∧ rest.toList = es ∧ q.wait now time =
      if time.isZero ∨ now.nanos + time.nanos < Moment.limit then .served e rest else .overflow) ∧
    (job.elapsed < time.nanos → ((Job.within (.ok job) now time).run Handler.none ()).outcome =
      if now.nanos + time.nanos < Moment.limit then .ok (.ok a) else .error .crashed) := by
  have ⟨rest, hp, hr⟩ := Queue.exists_poll hq
  exact ⟨⟨rest, hp, hr, Queue.wait_of_poll hp now time⟩, fun ht => Job.within_of_returned hj ht now⟩

-- Two events, the first of which is to be waited for.
def waitedFor : Queue :=
  ((Queue.ofCapacity 2).pushAll [⟨"a", .custom, [1]⟩, ⟨"b", .io, []⟩]).fst

-- The longest time that can be asked for after the first nanosecond.
theorem timed_operations_answer_iff_deadline_patient :
    let time : Duration := .ofSeconds 9223372036854775807
    waitedFor.toList = [⟨"a", .custom, [1]⟩, ⟨"b", .io, []⟩] ∧
      (∃ rest, rest.toList = [⟨"b", .io, []⟩] ∧ waitedFor.wait ⟨1⟩ time = .served ⟨"a", .custom, [1]⟩ rest) ∧
      ((Job.within (.ok ⟨3, .returned 42⟩) ⟨1⟩ time).run Handler.none ()).outcome = .ok (.ok 42) := by
  intro time
  have hq : waitedFor.toList = [⟨"a", .custom, [1]⟩, ⟨"b", .io, []⟩] := rfl
  have hl : (⟨1⟩ : Moment).nanos + time.nanos < Moment.limit := by decide
  have hj : (Job.mk 3 (.returned 42)).ending = .returned 42 := rfl
  have ⟨⟨rest, _, hr, hs⟩, hw⟩ := timed_operations_answer_iff_deadline hq hj ⟨1⟩ time
  rw [if_pos (.inr hl)] at hs
  rw [if_pos hl] at hw
  exact ⟨hq, ⟨rest, hr, hs⟩, hw (by decide)⟩

-- To ask for the longest time there is comes to nothing, although the event is there and the value comes at once.
theorem longest_wait_takes_nothing :
    waitedFor.toList ≠ [] ∧ (∀ e rest, waitedFor.wait ⟨0⟩ .longest ≠ .served e rest) ∧
      ((Job.within (.ok ⟨0, .returned 42⟩) ⟨0⟩ .longest).run Handler.none ()).outcome ≠ .ok (.ok 42) := by
  have hw : waitedFor.wait ⟨0⟩ .longest = .overflow := rfl
  have hj : ((Job.within (.ok ⟨0, .returned 42⟩) ⟨0⟩ .longest).run Handler.none ()).outcome = .error .crashed := rfl
  exact ⟨nofun, fun _ _ => hw ▸ nofun, hj ▸ nofun⟩

end ProcessControl
