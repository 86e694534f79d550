import ProcessControl.Proofs.Deadline
import ProcessControl.Proofs.Table.Gate

namespace ProcessControl.Table

variable {I : Interface} {σ : Type} {t : Table I} {handler : Handler I σ} {threads : Threads σ} {s : σ} {max : UInt64}
  {records dest : List Record}

-- Nothing is enumerated where there is no room, and nothing would be kept.
theorem outcome_list (h : ((t.platform.enumerate max).run handler s).outcome = .ok records) :
    ((t.list max).run handler s).outcome = .ok (select max records) := by
  by_cases hm : max = 0
  case pos =>
    subst hm
    rfl
  case neg =>
    rw [(list_passes t handler s hm).outcome, h]
    rfl

-- The records stand in the first slots of the destination, and the other slots hold what they held.
def Overwritten (dest records written : List Record) : Prop :=
  written.length = dest.length ∧ written.take records.length = records ∧
    written.drop records.length = dest.drop records.length

theorem overwritten_append_drop (h : records.length ≤ dest.length) :
    Overwritten dest records (records ++ dest.drop records.length) := by
  refine ⟨?_, List.take_left, List.drop_left⟩
  rw [List.length_append, List.length_drop]
  omega

theorem outcome_listInto (hd : dest.length = max.toNat)
    (h : ((t.platform.enumerate max).run handler s).outcome = .ok records) :
    ∃ written, ((t.listInto dest).run handler s).outcome = .ok ((select max records).length, written) ∧
      Overwritten dest (select max records) written := by
  have hl : (select max records).length ≤ dest.length := hd ▸ List.length_take_le ..
  refine ⟨_, ?_, overwritten_append_drop hl⟩
  by_cases he : dest = []
  case pos =>
    have hm : max.toNat = 0 := hd ▸ congrArg List.length he
    rw [select, hm, List.take_zero, he]
    rfl
  case neg =>
    have hm : UInt64.ofNat dest.length = max := by rw [hd, UInt64.ofNat_toNat]
    rw [(listInto_passes t handler s he).outcome, hm, outcome_list h]
    rfl

-- The caller gives up or has the listing, unless its wait could not even begin.
theorem outcome_listWithin (h : ((t.platform.enumerate max).run handler s).outcome = .ok records) (timeout : Duration)
    (ht : ∀ millis, (t.listWithin handler threads max timeout s).outcome ≠ .ok (.error <| .timedOut millis)) :
    (t.listWithin handler threads max timeout s).outcome = .ok (.ok <| select max records) ↔
      threads.start s = .ok () ∧ ((threads.clock s).after? timeout).isSome := by
  cases hs : threads.start s
  case error why =>
    rw [listWithin_of_refused hs]
    exact ⟨nofun, nofun⟩
  case ok =>
    rw [listWithin_of_start hs] at ht ⊢
    simp only [outcome_list h, ending, true_and] at ht ⊢
    cases hd : (threads.clock s).after? timeout
    case none =>
      rw [Job.within_of_overflow hd]
      exact ⟨nofun, nofun⟩
    case some deadline =>
      rw [Job.within_of_deadline hd] at ht ⊢
      refine ⟨fun _ => rfl, fun _ => ?_⟩
      unfold Job.verdict at ht ⊢
      split
      case isTrue      => rfl
      case isFalse hlt => exact absurd (by rw [if_neg hlt]) <| ht timeout.millis

-- All three ways lead to these records.
structure Agreed (t : Table I) (handler : Handler I σ) (threads : Threads σ) (max : UInt64) (s : σ)
    (listed : List Record) : Prop where
  list       : ((t.list max).run handler s).outcome = .ok listed
  listInto   : ∀ dest : List Record, dest.length = max.toNat → ∃ written,
    ((t.listInto dest).run handler s).outcome = .ok (listed.length, written) ∧ Overwritten dest listed written
  listWithin : ∀ timeout : Duration,
    (∀ millis, (t.listWithin handler threads max timeout s).outcome ≠ .ok (.error <| .timedOut millis)) →
    ((t.listWithin handler threads max timeout s).outcome = .ok (.ok listed) ↔
      threads.start s = .ok () ∧ ((threads.clock s).after? timeout).isSome)

theorem listings_agree_iff_deadline (t : Table I) (handler : Handler I σ) (threads : Threads σ) (max : UInt64) (s : σ)
    (h : ((t.platform.enumerate max).run handler s).outcome = .ok records) :
    Agreed t handler threads max s ((records.filter (·.pid != 0)).take max.toNat) :=
  ⟨outcome_list h, fun _ hd => outcome_listInto hd h, outcome_listWithin h⟩

-- A platform that enumerates more than it was asked for, one record twice, and a process without identifier.
def unruly : Sim.Scripted where
  records      := [.running 0 ⟨"idle"⟩ 0, .running 10 ⟨"a"⟩ 1, .running 10 ⟨"a"⟩ 1, .running 12 ⟨"c"⟩ 3]
  memory       := []
  spawns       := []
  terminations := []
  uptime       := .sinceBoot 0
  delay        := .ofMillis 20
  crashes      := false
  clock        := ⟨0⟩

theorem listings_agree_iff_deadline_unruly :
    let table : Table Delegated.interface := ⟨Delegated.platform "scripted", 7⟩
    ((table.platform.enumerate 2).run Sim.Scripted.handler unruly).outcome = .ok unruly.records ∧
      Agreed table Sim.Scripted.handler Sim.Scripted.threads 2 unruly [.running 10 ⟨"a"⟩ 1, .running 10 ⟨"a"⟩ 1] := by
  intro table
  have h : ((table.platform.enumerate 2).run Sim.Scripted.handler unruly).outcome = .ok unruly.records := rfl
  exact ⟨h, listings_agree_iff_deadline table Sim.Scripted.handler Sim.Scripted.threads 2 unruly h⟩

-- The longest wait there is ends at once, without the listing that was made.
theorem longest_wait_loses_the_listing :
    let table : Table Delegated.interface := ⟨Delegated.platform "scripted", 7⟩
    let listing := table.listWithin Sim.Scripted.handler Sim.Scripted.threads 2 .longest unruly
    ((table.list 2).run Sim.Scripted.handler unruly).outcome = .ok [.running 10 ⟨"a"⟩ 1, .running 10 ⟨"a"⟩ 1] ∧
      (∀ millis, listing.outcome ≠ .ok (.error <| .timedOut millis)) ∧
      listing.outcome ≠ .ok (.ok [.running 10 ⟨"a"⟩ 1, .running 10 ⟨"a"⟩ 1]) := by
  intro table listing
  have ho : listing.outcome = .error .crashed := rfl
  exact ⟨rfl, fun _ => ho ▸ nofun, ho ▸ nofun⟩

end ProcessControl.Table
