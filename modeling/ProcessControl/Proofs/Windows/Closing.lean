import ProcessControl.Proofs.Table.Session
import ProcessControl.Proofs.Windows.Handles
import ProcessControl.Sim.Windows

namespace ProcessControl.Windows

-- An operation of the platform with its argument.
inductive Operation
  | enumerate (max : UInt64)
  | probeMemory (pid : Pid)
  | terminate (pid : Pid)
deriving DecidableEq, Repr

instance : DecidableEq interface.Call := instDecidableEqCall

section Runs

variable {σ : Type} (handler : Handler interface σ)

def perform : Operation → σ → Run interface σ Unit
  | .enumerate max, s   => ((platform.enumerate max).run handler s).map fun _ => ()
  | .probeMemory pid, s => ((platform.probeMemory pid).run handler s).map fun _ => ()
  | .terminate pid, s   => ((platform.terminate pid).run handler s).map fun _ => ()

def performAll : List Operation → σ → List (Run interface σ Unit)
  | [], _                       => []
  | operation :: operations, s =>
    let run := perform handler operation s
    run :: performAll operations run.state

end Runs

-- The code of a failed snapshot is read next.
def ReportsAtOnce (history : List interface.Exchange) : Prop :=
  ∀ front later, history = front ++ ⟨.createSnapshot, Handle.invalid⟩ :: later →
    ∃ code rest, later = ⟨.lastError, code⟩ :: rest

-- What is closed was opened in the same history and is still open, and it is never one of the values that stand for
-- no handle. The code of a failure is read before anything can change it.
structure Tidy (history : List interface.Exchange) : Prop where
  owned    : ∀ front h later, history = front ++ ⟨.closeHandle h, ()⟩ :: later → h ∈ held front
  real     : ∀ h, .closeHandle h ∈ history.map (·.call) → h ≠ .null ∧ h ≠ .invalid
  reported : ReportsAtOnce history

-- What is promised of the answers: each of the two ways to open something has its own value for a failure, and no
-- handle is equal to either value.
structure Documented {σ : Type} (handler : Handler interface σ) : Prop where
  openProcess    : ∀ access pid s, (handler (.openProcess access pid) s).fst ≠ Handle.invalid
  createSnapshot : ∀ s, (handler .createSnapshot s).fst ≠ Handle.null

variable {σ : Type} {handler : Handler interface σ} {operation : Operation} {s : σ}
  {history : List interface.Exchange}

theorem Documented.real_of_opened? (hd : Documented handler) (ha : Answered handler s history)
    {e : interface.Exchange} (he : e ∈ history) {h : Handle} (ho : opened? e = some h) : h ≠ .null ∧ h ≠ .invalid := by
  have ⟨s', hs⟩ := ha.exists_of_mem he
  obtain ⟨c, answer⟩ := e
  cases c <;> try cases ho
  case openProcess access pid =>
    have ⟨hn, hh⟩ := Handle.unless_eq_some_iff.mp ho
    exact ⟨hh ▸ hn, fun hi => hd.openProcess access pid s' <| hs.trans <| hh.trans hi⟩
  case createSnapshot =>
    have ⟨hn, hh⟩ := Handle.unless_eq_some_iff.mp ho
    exact ⟨fun hi => hd.createSnapshot s' <| hs.trans <| hh.trans hi, hh ▸ hn⟩

-- Closing what is held is closing what was opened.
theorem Balanced.tidy {limit : Nat} (hb : Balanced limit history) (hd : Documented handler)
    (ha : Answered handler s history) : Tidy history where
  owned front h later he := Orderly.mem_of_close <| he ▸ hb.orderly []
  real h hc := by
    have ⟨⟨c, answer⟩, he, hce⟩ := List.mem_map.mp hc
    subst hce
    have ⟨front, later, hf⟩ := List.append_of_mem he
    have hm : h ∈ held front := Orderly.mem_of_close <| hf ▸ hb.orderly []
    have ⟨e, he, ho⟩ := (mem_foldl_hold hm).resolve_left List.not_mem_nil
    exact hd.real_of_opened? ha (hf ▸ List.mem_append_left _ he) ho
  reported front later he := absurd (he ▸ List.mem_append_right _ <| .head _) hb.not_mem_failed

theorem not_tidy_refusedSnapshot (code : UInt32) : ¬Tidy (refusedSnapshot code) :=
  fun h => (h.real .invalid <| .tail _ <| .head _).right rfl

theorem perform_balanced (handler : Handler interface σ) (operation : Operation) (s : σ) :
    let history := (perform handler operation s).history
    Answered handler s history ∧ (Balanced 2 history ∨ ∃ code, history = refusedSnapshot code) := by
  cases operation
  case enumerate max =>
    have ⟨history, _, _, he, hl⟩ := enumerate_leads handler s max
    have hh : (perform handler (.enumerate max) s).history = history := hl.history
    exact hh ▸ ⟨hl.answered, he.balanced⟩
  case probeMemory pid =>
    have ⟨history, _, _, hp, hl⟩ := probeMemory_leads handler s pid
    have hh : (perform handler (.probeMemory pid) s).history = history := hl.history
    exact hh ▸ ⟨hl.answered, .inl <| hp.balanced.mono (Nat.le_succ 1)⟩
  case terminate pid =>
    have ⟨history, _, _, he, hl⟩ := terminate_leads handler s pid
    have hh : (perform handler (.terminate pid) s).history = history := hl.history
    exact hh ▸ ⟨hl.answered, .inl <| he.balanced.mono (Nat.le_succ 1)⟩

theorem exists_perform_of_mem {operations : List Operation} {run : Run interface σ Unit}
    (h : run ∈ performAll handler operations s) : ∃ operation s', run = perform handler operation s' := by
  induction operations generalizing s
  case nil => cases h
  case cons operation _ hi =>
    cases h
    case head   => exact ⟨operation, s, rfl⟩
    case tail h => exact hi h

-- A failed snapshot is all that keeps a history from being tidy, and it does so in every case.
theorem closing_is_tidy_iff (hd : Documented handler) (operations : List Operation) (s : σ) :
    ∀ run ∈ performAll handler operations s,
      (Tidy run.history ↔ ⟨.createSnapshot, Handle.invalid⟩ ∉ run.history) ∧
      (⟨.createSnapshot, Handle.invalid⟩ ∈ run.history →
        run.calls = [.createSnapshot, .closeHandle .invalid, .lastError]) := by
  intro run hr
  have ⟨operation, s', hs⟩ := exists_perform_of_mem hr
  subst hs
  have ⟨ha, hb⟩ := perform_balanced handler operation s'
  cases hb
  case inl hb =>
    have hn := hb.not_mem_failed
    exact ⟨iff_of_true (hb.tidy hd ha) hn, fun hm => absurd hm hn⟩
  case inr hb =>
    have ⟨code, hh⟩ := hb
    rw [Run.calls, hh]
    exact ⟨iff_of_false (not_tidy_refusedSnapshot code) fun hn => hn <| .head _, fun _ => rfl⟩

theorem scarce_documented : Documented scarce where
  openProcess _ _ taken := by
    show (scarce.spare? taken).getD .null ≠ Handle.invalid
    cases hs : scarce.spare? taken
    case none   => decide
    case some h => exact (mem_spare? hs).right.right
  createSnapshot taken := by
    show (scarce.spare? taken).getD .invalid ≠ Handle.null
    cases hs : scarce.spare? taken
    case none   => decide
    case some h => exact (mem_spare? hs).right.left

def rounds : List Operation := [.enumerate 2, .probeMemory 4, .terminate 8]

theorem closing_is_tidy_iff_scarce :
    Documented scarce ∧
    (∀ run ∈ performAll scarce rounds [], Tidy run.history) ∧
    ∃ run ∈ performAll scarce rounds [⟨4⟩, ⟨8⟩, ⟨12⟩],
      ¬Tidy run.history ∧ run.calls = [.createSnapshot, .closeHandle .invalid, .lastError] := by
  have hd := scarce_documented
  have hr : perform scarce (.enumerate 2) [⟨4⟩, ⟨8⟩, ⟨12⟩] ∈ performAll scarce rounds [⟨4⟩, ⟨8⟩, ⟨12⟩] := .head _
  have hf : ⟨.createSnapshot, Handle.invalid⟩ ∈ (perform scarce (.enumerate 2) [⟨4⟩, ⟨8⟩, ⟨12⟩]).history := .head _
  have ⟨ht, hc⟩ := closing_is_tidy_iff hd rounds [⟨4⟩, ⟨8⟩, ⟨12⟩] _ hr
  refine ⟨hd, fun run h => ?_, _, hr, fun h => ht.mp h hf, hc hf⟩
  have ⟨ht, hc⟩ := closing_is_tidy_iff hd rounds [] run h
  refine ht.mpr fun hm => ?_
  have hcs : run.calls ∈ (performAll scarce rounds []).map (·.calls) := List.mem_map_of_mem h
  have hn : [.createSnapshot, .closeHandle .invalid, .lastError] ∉ (performAll scarce rounds []).map (·.calls) := by
    decide
  exact hn (hc hm ▸ hcs)

-- A system with one process that refuses a snapshot with the code 5.
def locked : Sim.Windows := ⟨[⟨4, [83], some 9, none, none, none⟩], [], [], 0, some 5, 0, [], 0, []⟩

theorem refused_snapshot_is_closed : ¬∀ run ∈ performAll Sim.Windows.handler [.enumerate 10] locked, Tidy run.history :=
  fun h => ((h _ <| .head _).real .invalid <| .tail _ <| .head _).right rfl

end ProcessControl.Windows
