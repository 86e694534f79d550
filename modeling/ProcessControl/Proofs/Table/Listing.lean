import ProcessControl.Proofs.Program.Likeness
import ProcessControl.Proofs.Table.Gate

namespace ProcessControl

-- Two records of one process that may differ in its memory.
structure Record.SameButMemory (r r' : Record) : Prop where
  pid    : r.pid = r'.pid
  name   : r.name? = r'.name?
  status : r.status = r'.status

namespace Table

variable {I J : Interface} {σ τ : Type} {t : Table I} {handler : Handler I σ} {s s' : σ} {max : UInt64}
  {records : List Record} {history : List I.Exchange}

section Passing

theorem select_eq_self (hz : ∀ r ∈ records, r.pid ≠ 0) (hl : records.length ≤ max.toNat) :
    select max records = records := by
  have hf : records.filter (·.pid != 0) = records := List.filter_eq_self.mpr fun r hr => by simpa using hz r hr
  rw [select, hf, List.take_of_length_le hl]

theorem list_leads (hm : max ≠ 0) (h : (t.platform.enumerate max).Leads handler s history records s')
    (hz : ∀ r ∈ records, r.pid ≠ 0) (hl : records.length ≤ max.toNat) :
    (t.list max).Leads handler s history records s' := by
  have hp := list_passes t handler s hm
  refine ⟨?_, hp.history.trans h.history, hp.state.trans h.state⟩
  rw [hp.outcome, h.outcome]
  exact congrArg Except.ok <| select_eq_self hz hl

theorem list_zero_leads : (t.list 0).Leads handler s [] [] s :=
  .done []

end Passing

-- As many records as there can be are asked for.
def everything : UInt64 :=
  0xFFFFFFFFFFFFFFFF

-- The listings of a table are prefixes of one list of records, which are those of the given processes. Where the
-- condition does not hold, none but the empty listing has a result.
structure Prefixed (t : Table I) (handler : Handler I σ) (condition : Prop) (pids : List Pid) : Prop where
  returns : ∀ n s, (∃ records, ((t.list n).run handler s).outcome = .ok records) ↔ n = 0 ∨ condition
  front   : ∀ m n s s' records, m ≤ n → ((t.list n).run handler s).outcome = .ok records →
    ((t.list m).run handler s').outcome = .ok (records.take m.toNat)
  length  : ∀ n s s' records all, ((t.list n).run handler s).outcome = .ok records →
    ((t.list everything).run handler s').outcome = .ok all → records.length = min n.toNat all.length
  pids    : ∀ n s records, ((t.list n).run handler s).outcome = .ok records →
    records.map (·.pid) = pids.take n.toNat

theorem Prefixed.of_take {condition : Prop} {all : List Record} {pids : List Pid} (hp : all.map (·.pid) = pids)
    (h : ∀ n s, n = 0 ∨ condition → ((t.list n).run handler s).outcome = .ok (all.take n.toNat))
    (hn : ∀ n s, n ≠ 0 → ¬condition → ∃ why, ((t.list n).run handler s).outcome = .error why) :
    Prefixed t handler condition pids := by
  have hr : ∀ n s, (∃ records, ((t.list n).run handler s).outcome = .ok records) ↔ n = 0 ∨ condition := by
    intro n s
    refine ⟨fun ⟨records, ho⟩ => ?_, fun hc => ⟨_, h n s hc⟩⟩
    by_contra hc
    have ⟨hz, hc⟩ := not_or.mp hc
    have ⟨why, he⟩ := hn n s hz hc
    cases ho.symm.trans he
  have ht : ∀ n s records, ((t.list n).run handler s).outcome = .ok records → records = all.take n.toNat :=
    fun n s records ho => Except.ok.inj <| ho.symm.trans <| h n s <| (hr n s).mp ⟨records, ho⟩
  refine ⟨hr, ?front, ?length, ?pids⟩
  case front =>
    intro m n s s' records hmn ho
    have hc : m = 0 ∨ condition := by
      refine (hr n s).mp ⟨records, ho⟩ |>.imp_left fun hz => ?_
      subst hz
      exact UInt64.le_antisymm hmn (UInt64.zero_le)
    have hl : m.toNat ≤ n.toNat := hmn
    rw [h m s' hc, ht n s records ho, List.take_take, Nat.min_eq_left hl]
  case length =>
    intro n s s' records all' ho ha
    have hl : n.toNat ≤ everything.toNat := Nat.le_of_lt_succ n.toNat_lt
    rw [ht n s records ho, ht everything s' all' ha, List.length_take, List.length_take, ← Nat.min_assoc,
      Nat.min_eq_left hl]
  case pids =>
    intro n s records ho
    rw [ht n s records ho, List.map_take, hp]

section Likeness

variable {excepted : I.Call → Bool} {R : Record → Record → Prop}

open Program

theorem forall₂_select {left right : List Record} (hr : ∀ r r', R r r' → r.pid = r'.pid)
    (h : List.Forall₂ R left right) : List.Forall₂ R (select max left) (select max right) := by
  refine List.forall₂_take _ <| List.rel_filter (fun r r' h => ?_) h
  show (r.pid != 0) = true ↔ (r'.pid != 0) = true
  rw [hr r r' h]

theorem list_steady (hr : ∀ r r', R r r' → r.pid = r'.pid)
    (h : Steady excepted (t.platform.enumerate max) (t.platform.enumerate max) (List.Forall₂ R)) :
    Steady excepted (t.list max) (t.list max) (List.Forall₂ R) := by
  rw [list]
  split
  case isTrue  => exact .pure .nil
  case isFalse =>
    exact .bind (.log _ _) fun _ _ _ => h.bind fun _ _ hrs => .bind (.log _ _) fun _ _ _ =>
      .bind (.log _ _) fun _ _ _ => .pure <| forall₂_select hr hrs

end Likeness

-- Two listings with records of the same processes in the same order, which may differ in memory.
def Undisturbed (left : Run I σ (List Record)) (right : Run J τ (List Record)) : Prop :=
  ∃ records records', left.outcome = .ok records ∧ right.outcome = .ok records' ∧
    List.Forall₂ Record.SameButMemory records records'

theorem Undisturbed.of_alike {left : Run I σ (List Record)} {right : Run J τ (List Record)}
    (h : Alike (List.Forall₂ Record.SameButMemory) left.outcome right.outcome) (hl : left.outcome = .ok records) :
    Undisturbed left right := by
  rw [hl] at h
  cases hr : right.outcome <;> rw [hr] at h
  case error => exact h.elim
  case ok    => exact ⟨_, _, hl, hr, h⟩

-- Of the questions that `probes` tells, a listing asked one for each of its records, in their order. One that was
-- stopped asked none of them.
def ProbesEach (probes : I.Call → Bool) (probe : Record → I.Call) (run : Run I σ (List Record)) : Prop :=
  run.calls.filter probes = (run.outcome.toOption.getD []).map probe

theorem ProbesEach.of_error {run : Run I σ (List Record)} {probes : I.Call → Bool} {probe : Record → I.Call}
    {why : Halt} (h : run.outcome = .error why) (hc : ∀ c ∈ run.calls, probes c = false) :
    ProbesEach probes probe run := by
  rw [ProbesEach, h, List.filter_eq_nil_iff.mpr fun c hm => Bool.eq_false_iff.mp <| hc c hm]
  rfl

-- None of the first questions is a probe, and of the other ones those that are make up the records.
theorem ProbesEach.of_inr {handler : Handler (J.sum I) σ} {p : Program (J.sum I) (List Record)}
    {probes : (J.sum I).Call → Bool} {probe : Record → (J.sum I).Call} {front : List I.Exchange}
    (h : p.Leads handler s ((front ++ history).map .inr) records s')
    (hf : ∀ e ∈ front, probes (e.inr (J := J)).call = false)
    (hp : ((history.map (Interface.Exchange.inr (J := J))).map (·.call)).filter probes = records.map probe) :
    ProbesEach probes probe (p.run handler s) := by
  have hn : ((front.map (Interface.Exchange.inr (J := J))).map (·.call)).filter probes = [] :=
    List.filter_eq_nil_iff.mpr <| List.forall_mem_map.mpr <| List.forall_mem_map.mpr fun e he =>
      Bool.eq_false_iff.mp <| hf e he
  rw [ProbesEach, Run.calls, h.history, h.outcome, List.map_append, List.map_append, List.filter_append, hn, hp]
  rfl

end Table

end ProcessControl
