import ProcessControl.Proofs.Program
import ProcessControl.Unix.Kill

namespace ProcessControl

namespace Pid

theorem target?_eq_some_iff {pid : Pid} {target : Int32} :
    pid.target? = some target ↔ 0 < pid.toNat ∧ pid.toNat ≤ greatestTarget ∧ target = Int32.ofNat pid.toNat := by
  simp only [target?]
  split
  case isTrue h  => simp [h, eq_comm]
  case isFalse h => simpa [not_and] using fun h₀ h₁ => absurd ⟨h₀, h₁⟩ h

-- No identifier in the range turns negative as a signed word.
theorem toInt_of_target? {pid : Pid} {target : Int32} (h : pid.target? = some target) :
    target.toInt = pid.toNat := by
  have ⟨_, h₁, h₂⟩ := target?_eq_some_iff.mp h
  subst h₂
  exact Int32.toInt_ofNat_of_lt (Nat.lt_of_le_of_lt h₁ (by decide))

end Pid

namespace Unix

variable {J : Interface} {σ : Type} {handler : Handler (interface.sum J) σ} {s s' : σ} {log : List LogEntry}
  {history : List (interface.sum J).Exchange} {isDefunct : Pid → Program J Bool} {pid : Pid}

theorem run_kill_of_defunct (polls : Nat) (h₀ : 0 < pid.toNat) (h₁ : pid.toNat ≤ Pid.greatestTarget)
    (hd : (isDefunct pid).inr.run handler s = ⟨.ok true, history, log, s'⟩) :
    (kill isDefunct pid polls).run handler s = ⟨.ok <| .error <| .notFound pid, history, log, s'⟩ := by
  have ht : pid.target? = some (Int32.ofNat pid.toNat) := Pid.target?_eq_some_iff.mpr ⟨h₀, h₁, rfl⟩
  simp only [kill, ht, Program.run_bind, hd, Run.andThen]
  simp [Pure.pure, Program.run]

theorem kill_mem_calls_of_not_defunct (polls : Nat) (h₀ : 0 < pid.toNat) (h₁ : pid.toNat ≤ Pid.greatestTarget)
    (hd : (isDefunct pid).inr.run handler s = ⟨.ok false, history, log, s'⟩) :
    .inl (.signal (Int32.ofNat pid.toNat) .kill) ∈ ((kill isDefunct pid polls).run handler s).calls := by
  have ht : pid.target? = some (Int32.ofNat pid.toNat) := Pid.target?_eq_some_iff.mpr ⟨h₀, h₁, rfl⟩
  simp only [kill, ht, Program.run_bind, hd, Run.andThen]
  rw [if_neg (by decide), Run.calls, List.map_append]
  exact List.mem_append_right _ <| .head _

-- A system on which every signal is delivered and no time passes, so that a killed process need not settle.
def unmoved (rest : Handler J σ) : Handler (interface.sum J) σ
  | .inl (.signal _ _), s => (.ok (), s)
  | .inl .clock, s        => (⟨0⟩, s)
  | .inl (.pause _), s    => ((), s)
  | .inl (.start _), s    => (.ok 42, s)
  | .inl .wallClock, s    => ((0 : UInt64), s)
  | .inr call, s          => rest call s

end Unix

end ProcessControl
