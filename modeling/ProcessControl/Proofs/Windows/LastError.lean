import ProcessControl.Proofs.Windows.Operations

namespace ProcessControl.Windows

variable {σ : Type} {handler : Handler interface σ} {s : σ} {pid : Pid} {later history : List interface.Exchange}
  {e : interface.Exchange} {code : UInt32} {result : Except Failure Unit}

-- The code that would be told now. Any call may leave another one behind, a close as well.
def lastError (handler : Handler interface σ) (s : σ) : UInt32 :=
  (handler .lastError s).fst

def Failed : interface.Exchange → Prop
  | ⟨.openProcess _ _, process⟩    => process = Handle.null
  | ⟨.terminateProcess _ _, ended⟩ => ended = false
  | _                              => False

def Call.ends : Call → Bool
  | .terminateProcess _ _ => true
  | _                     => false

def Call.waits : Call → Bool
  | .waitFor _ _ => true
  | _            => false

def Succeeds (pid : Pid) (history : List interface.Exchange) : Prop :=
  ∃ process, process ≠ Handle.null ∧ ⟨.openProcess .terminate pid, process⟩ ∈ history ∧
    ⟨.terminateProcess process forcedExitCode, true⟩ ∈ history

-- That the failure has the code which the first call that failed has left behind.
def TellsFirst (handler : Handler interface σ) (s : σ) (pid : Pid) (history : List interface.Exchange)
    (failure : Failure) : Prop :=
  ∃ front e later, history = front ++ e :: later ∧ Failed e ∧ (∀ e ∈ front, ¬Failed e) ∧
    failure = failureOf pid (lastError handler <| handler.after ((front ++ [e]).map (·.call)) s)

-- What an attempt to end a process comes to, and what is done on the way.
structure Reports (handler : Handler interface σ) (s : σ) (pid : Pid) (history : List interface.Exchange)
    (result : Except Failure Unit) : Prop where
  ok_iff : result = .ok () ↔ Succeeds pid history
  error  : ∀ failure, result = .error failure → TellsFirst handler s pid history failure
  aimed  : ∀ e ∈ history, ∀ process exitCode, e.call = .terminateProcess process exitCode →
    process ≠ .null ∧ ⟨.openProcess .terminate pid, process⟩ ∈ history
  once   : history.countP (Call.ends ·.call) ≤ 1
  waits  : ∀ e ∈ history, Call.waits e.call = true → ∀ e ∈ history, ¬Failed e

-- A code that is asked for next is the one that was left behind.
theorem eq_lastError_of_answered (front : List interface.Exchange)
    (h : Answered handler s (front ++ e :: ⟨.lastError, code⟩ :: later)) :
    code = lastError handler (handler.after ((front ++ [e]).map (·.call)) s) := by
  rw [List.append_cons, Answered.append_iff] at h
  exact h.right.left.symm

namespace Ended

theorem ok_iff (h : Ended pid history result) : result = .ok () ↔ Succeeds pid history := by
  cases h
  case refused    => exact iff_of_false nofun fun ⟨_, _, _, hm⟩ => nomatch hm
  case spared     => exact iff_of_false nofun fun ⟨_, _, _, hm⟩ => nomatch hm
  case ended _ hp => exact iff_of_true rfl ⟨_, hp, .head _, .tail _ <| .head _⟩

theorem tellsFirst (h : Ended pid history result) (ha : Answered handler s history) {failure : Failure}
    (hr : result = .error failure) : TellsFirst handler s pid history failure := by
  cases h <;> cases hr
  case refused =>
    have hc := eq_lastError_of_answered [] ha
    exact ⟨[], _, _, rfl, rfl, nofun, hc ▸ rfl⟩
  case spared hp =>
    have hc := eq_lastError_of_answered [_] ha
    exact ⟨[_], _, _, rfl, rfl, List.forall_mem_singleton.mpr hp, hc ▸ rfl⟩

theorem aimed (h : Ended pid history result) : ∀ e ∈ history, ∀ process exitCode,
    e.call = .terminateProcess process exitCode →
      process ≠ .null ∧ ⟨.openProcess .terminate pid, process⟩ ∈ history := by
  cases h <;> simp only [List.forall_mem_cons]
  case refused => exact ⟨nofun, nofun, nofun⟩
  case spared hp =>
    refine ⟨nofun, fun process _ he => ?_, nofun, nofun, nofun⟩
    cases he
    exact ⟨hp, .head _⟩
  case ended hp =>
    refine ⟨nofun, fun process _ he => ?_, nofun, nofun, nofun⟩
    cases he
    exact ⟨hp, .head _⟩

theorem once (h : Ended pid history result) : history.countP (Call.ends ·.call) ≤ 1 := by
  cases h
  case refused => exact Nat.zero_le 1
  case spared  => exact Nat.le_refl 1
  case ended   => exact Nat.le_refl 1

theorem waits (h : Ended pid history result) :
    ∀ e ∈ history, Call.waits e.call = true → ∀ e ∈ history, ¬Failed e := by
  cases h <;> simp only [List.forall_mem_cons]
  case refused  => exact ⟨nofun, nofun, nofun⟩
  case spared   => exact ⟨nofun, nofun, nofun, nofun, nofun⟩
  case ended hp => exact ⟨nofun, nofun, fun _ => ⟨hp, nofun, nofun, nofun, nofun⟩, nofun, nofun⟩

end Ended

-- The first call that fails decides what is told. Where none fails there is no failure, however long the process takes
-- to disappear.
theorem first_failure_is_told {σ : Type} (handler : Handler interface σ) (s : σ) (pid : Pid) :
    let run := (platform.terminate pid).run handler s
    ∃ result, run.outcome = .ok result ∧ Reports handler s pid run.history result := by
  have ⟨history, result, _, he, hl⟩ := terminate_leads handler s pid
  have hh : ((platform.terminate pid).run handler s).history = history := hl.history
  exact ⟨result, hl.outcome, hh ▸ ⟨he.ok_iff, fun _ => he.tellsFirst hl.answered, he.aimed, he.once, he.waits⟩⟩

-- A system whose state is the last error. It refuses to end a process with the code 5, and a close leaves the code 6.
def spiteful : Handler interface UInt32
  | .openProcess _ _, _      => (Handle.mk 8, 0)
  | .createSnapshot, _       => (Handle.invalid, 5)
  | .firstEntry _, s         => ((none, 0), s)
  | .nextEntry _ 0, s        => ((), s)
  | .nextEntry _ (_ + 1), s  => (none, s)
  | .memoryInfo _, _         => (none, 5)
  | .terminateProcess _ _, _ => (false, 5)
  | .waitFor _ _, s          => ((0 : UInt32), s)
  | .closeHandle _, _        => ((), 6)
  | .lastError, s            => (s, s)
  | .tickCount, s            => ((0 : UInt64), s)
  | .start _ _, s            => (.error "no shell", s)

theorem first_failure_is_told_spiteful :
    let run := (platform.terminate 42).run spiteful 0
    run.outcome = .ok (.error <| .permissionDenied 42) ∧ lastError spiteful run.state = 6 ∧
      TellsFirst spiteful 0 42 run.history (.permissionDenied 42) := by
  intro run
  have ho : run.outcome = .ok (.error <| .permissionDenied 42) := rfl
  have ⟨_, hr, h⟩ := first_failure_is_told spiteful 0 42
  cases Except.ok.inj <| hr.symm.trans ho
  exact ⟨ho, rfl, h.error _ rfl⟩

end ProcessControl.Windows
