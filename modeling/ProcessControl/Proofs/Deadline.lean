import ProcessControl.Deadline
import ProcessControl.Proofs.Program

namespace ProcessControl.Job

variable {α : Type} {job : Job α} {timeout : Duration} {now : Moment} {a : α}

-- What the caller is told, where there is a deadline.
def verdict (job : Job α) (timeout : Duration) : Except Failure α :=
  if job.elapsed < timeout.nanos then
    match job.ending with
    | .returned a => .ok a
    | .crashed    => .error Race.noResult
  else .error <| .timedOut timeout.millis

theorem result?_schedule (job : Job α) (timeout : Duration) :
    (Race.start.run? timeout (job.schedule timeout)).bind Race.result? = some (job.verdict timeout) := by
  unfold schedule verdict
  split
  case isTrue =>
    cases job.ending
    case returned => rfl
    case crashed  => rfl
  case isFalse =>
    cases job.ending
    case returned => rfl
    case crashed  => rfl

theorem within_of_deadline {deadline : Moment} (h : now.after? timeout = some deadline) :
    ((within (.ok job) now timeout).run Handler.none ()).outcome = .ok (job.verdict timeout) := by
  simp only [within, h, result?_schedule]
  split
  case isTrue  => rfl
  case isFalse => rfl

theorem within_of_overflow (h : now.after? timeout = none) :
    ((within (.ok job) now timeout).run Handler.none ()).outcome = .error .crashed := by
  simp only [within, h]
  rfl

-- The caller is told of the deadline where it has passed, and of no other span than the one it would wait.
theorem verdict_eq_timedOut_iff {millis : UInt64} :
    job.verdict timeout = .error (.timedOut millis) ↔ timeout.nanos ≤ job.elapsed ∧ timeout.millis = millis := by
  unfold verdict
  split
  case isTrue ht =>
    refine iff_of_false (fun he => ?_) fun hl => absurd ht <| Nat.not_lt_of_le hl.left
    cases hj : job.ending <;> rw [hj] at he <;> cases he
  case isFalse ht =>
    rw [Except.error.injEq, Failure.timedOut.injEq]
    exact (and_iff_right <| Nat.le_of_not_lt ht).symm

-- The value of an operation is handed on where the operation was started and returned it before the deadline, and
-- nowhere else.
theorem within_eq_ok_iff {start : Except String (Job α)} :
    ((within start now timeout).run Handler.none ()).outcome = .ok (.ok a) ↔
      ∃ job, start = .ok job ∧ (∃ deadline, now.after? timeout = some deadline) ∧ job.elapsed < timeout.nanos ∧
        job.ending = .returned a := by
  cases start
  case error why => exact iff_of_false nofun nofun
  case ok job =>
    simp only [Except.ok.injEq, exists_eq_left']
    cases hd : now.after? timeout
    case none =>
      rw [within_of_overflow hd]
      exact iff_of_false nofun nofun
    case some deadline =>
      rw [within_of_deadline hd, verdict]
      by_cases ht : job.elapsed < timeout.nanos
      case pos => cases he : job.ending <;> simp [ht]
      case neg => simp [ht]

end ProcessControl.Job
