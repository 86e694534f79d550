import Mathlib.Data.Finset.Card
import ProcessControl.Proofs.Table.Gate
import ProcessControl.Proofs.Windows.Handles

namespace ProcessControl.Windows

variable {σ : Type}

-- What is promised of handles. One that is opened was not open before, closing closes it, closing any other value
-- changes nothing, and no other question does. What it takes to start a program is left open.
structure Accounts (handler : Handler interface σ) (handles : σ → Finset Handle) : Prop where
  real   : ∀ s, .invalid ∉ handles s
  opens  : ∀ c s h, opened? ⟨c, (handler c s).fst⟩ = some h →
    h ∉ handles s ∧ handles (handler c s).snd = insert h (handles s)
  closes : ∀ h s, handles (handler (.closeHandle h) s).snd = (handles s).erase h
  keeps  : ∀ c s, opened? ⟨c, (handler c s).fst⟩ = none → closed? c = none → c.starts = false →
    handles (handler c s).snd = handles s

-- What is open is what was open at first and, apart from it, what is held.
structure Holds (handles : σ → Finset Handle) (base : Finset Handle) (held : List Handle) (s : σ) : Prop where
  handles : handles s = base ∪ held.toFinset
  nodup   : held.Nodup
  apart   : Disjoint base held.toFinset

variable {handler : Handler interface σ} {handles : σ → Finset Handle} {base : Finset Handle} {held : List Handle}
  {history : List interface.Exchange} {limit : Nat} {s : σ}

theorem Accounts.close_invalid (ha : Accounts handler handles) (s : σ) :
    handles (handler (.closeHandle .invalid) s).snd = handles s :=
  (ha.closes .invalid s).trans <| Finset.erase_eq_of_notMem <| ha.real s

namespace Holds

theorem start : Holds handles (handles s) [] s :=
  ⟨(Finset.union_empty _).symm, .nil, Finset.disjoint_empty_right _⟩

theorem opened {h : Handle} {s' : σ} (hh : Holds handles base held s) (hn : h ∉ handles s)
    (hs : handles s' = insert h (handles s)) : Holds handles base (h :: held) s' := by
  rw [hh.handles, Finset.notMem_union, List.mem_toFinset] at hn
  refine ⟨?handles, List.nodup_cons.mpr ⟨hn.right, hh.nodup⟩, ?apart⟩
  case handles => rw [hs, hh.handles, List.toFinset_cons, Finset.union_insert]
  case apart   =>
    rw [List.toFinset_cons]
    exact Finset.disjoint_insert_right.mpr ⟨hn.left, hh.apart⟩

theorem closed {h : Handle} {s' : σ} (hh : Holds handles base held s) (hm : h ∈ held)
    (hs : handles s' = (handles s).erase h) : Holds handles base (held.erase h) s' := by
  have hb : h ∉ base := Finset.disjoint_right.mp hh.apart <| List.mem_toFinset.mpr hm
  have he : (held.erase h).toFinset = held.toFinset.erase h := by
    ext k
    simp [hh.nodup.mem_erase_iff]
  refine ⟨?handles, hh.nodup.erase h, ?apart⟩
  case handles => rw [hs, hh.handles, Finset.erase_union_distrib, Finset.erase_eq_of_notMem hb, he]
  case apart   =>
    rw [he]
    exact Finset.disjoint_of_subset_right (Finset.erase_subset _ _) hh.apart

theorem step {e : interface.Exchange} (ha : Accounts handler handles) (hh : Holds handles base held s)
    (he : (handler e.call s).fst = e.answer) (hp : Allowed held e) :
    Holds handles base (hold held e) (handler e.call s).snd := by
  obtain ⟨c, answer⟩ := e
  have he : (handler c s).fst = answer := he
  subst he
  cases ho : opened? ⟨c, (handler c s).fst⟩
  case some h =>
    have ⟨hn, hs⟩ := ha.opens c s h ho
    exact hold_of_opened? ho ▸ hh.opened hn hs
  case none =>
    cases hc : closed? c
    case some h =>
      -- What is closed is held, so it is not one of the handles that were open at first.
      have hm := hp.owned h hc
      rw [hold_of_closed? ho hc]
      cases c <;> cases hc
      exact hh.closed hm <| ha.closes h s
    case none =>
      rw [hold_of_neither ho hc]
      exact ⟨(ha.keeps c s ho hc hp.starts).trans hh.handles, hh.nodup, hh.apart⟩

-- The same of all states that a history goes through.
theorem run (ha : Accounts handler handles) (hh : Holds handles base held s) (hs : Answered handler s history)
    (ho : Orderly limit held history) :
    (∀ now ∈ (history.map (·.call)).scanl (fun s c => (handler c s).snd) s,
      ∃ held, Holds handles base held now ∧ held.length ≤ limit) ∧
    Holds handles base (history.foldl hold held) (handler.after (history.map (·.call)) s) := by
  induction history generalizing held s
  case nil => exact ⟨List.forall_mem_singleton.mpr ⟨held, hh, ho.length_le⟩, hh⟩
  case cons e later hi =>
    have ⟨hl, hp, hlater⟩ := ho
    have ⟨hm, hf⟩ := hi (hh.step ha hs.left hp) hs.right hlater
    rw [List.map_cons, List.scanl_cons]
    exact ⟨List.forall_mem_cons.mpr ⟨⟨held, hh, hl⟩, hm⟩, hf⟩

theorem subset (hh : Holds handles base held s) : base ⊆ handles s :=
  hh.handles ▸ Finset.subset_union_left

theorem card_le (hh : Holds handles base held s) : (handles s \ base).card ≤ held.length := by
  rw [hh.handles, Finset.union_sdiff_left, Finset.sdiff_eq_self_of_disjoint hh.apart.symm]
  exact List.toFinset_card_le held

end Holds

-- A run leaves open what was open, closes each handle as often as it opens it, and has no more than two handles of
-- its own at any time.
structure Sealed {α : Type} (handler : Handler interface σ) (handles : σ → Finset Handle) (s : σ)
    (run : Run interface σ α) : Prop where
  left   : handles run.state = handles s
  closed : ∀ h ≠ .invalid, run.history.countP (opened? · = some h) = run.history.countP (closed? ·.call = some h)
  few    : ∀ now ∈ run.moments handler s, handles s ⊆ handles now ∧ (handles now \ handles s).card ≤ 2

-- The same of operations one after the other, each of which finds the state that the one before it left.
def AllSealed (handler : Handler interface σ) (handles : σ → Finset Handle) :
    σ → List (Table.Request × Run interface σ Table.Reply) → Prop
  | _, []                => True
  | s, (_, run) :: later => Sealed handler handles s run ∧ AllSealed handler handles run.state later

section Sealing

variable {α : Type} {run : Run interface σ α}

theorem Sealed.of_balanced (ha : Accounts handler handles) (hb : Balanced 2 run.history)
    (hr : Answered handler s run.history) (hs : run.state = handler.after run.calls s) :
    Sealed handler handles s run := by
  have ⟨hm, hf⟩ := Holds.start.run ha hr (hb.orderly [])
  refine ⟨?_, fun h _ => ?_, fun now hn => ?_⟩
  case refine_1 =>
    rw [hb.settled] at hf
    rw [hs]
    exact hf.handles.trans <| Finset.union_empty _
  case refine_2 =>
    have hc := (hb.orderly []).count_eq h
    rwa [hb.settled, List.count_nil, Nat.zero_add] at hc
  case refine_3 =>
    have ⟨_, hh, hl⟩ := hm now hn
    exact ⟨hh.subset, hh.card_le.trans hl⟩

-- The value that is closed after a failed snapshot is no handle, so nothing changes.
theorem Accounts.unmoved_of_refused (ha : Accounts handler handles) {code : UInt32}
    (hr : run.history = refusedSnapshot code) (hh : Answered handler s run.history) :
    (∀ now ∈ run.moments handler s, handles now = handles s) ∧ handles (handler.after run.calls s) = handles s := by
  let s₁ := (handler .createSnapshot s).snd
  let s₂ := (handler (.closeHandle .invalid) s₁).snd
  have hf : (handler .createSnapshot s).fst = Handle.invalid := (hr ▸ hh).left
  have hn : opened? ⟨.createSnapshot, (handler .createSnapshot s).fst⟩ = none := by
    rw [hf]
    rfl
  have h₁ : handles s₁ = handles s := ha.keeps .createSnapshot s hn rfl rfl
  have h₂ : handles s₂ = handles s := (ha.close_invalid s₁).trans h₁
  have h₃ : handles (handler .lastError s₂).snd = handles s := (ha.keeps .lastError s₂ rfl rfl rfl).trans h₂
  have hc : run.calls = [.createSnapshot, .closeHandle .invalid, .lastError] := by
    rw [Run.calls, hr]
    rfl
  rw [Run.moments, hc]
  exact ⟨List.forall_mem_cons.mpr ⟨rfl, List.forall_mem_cons.mpr ⟨h₁, List.forall_mem_cons.mpr ⟨h₂,
    List.forall_mem_singleton.mpr h₃⟩⟩⟩, h₃⟩

theorem Sealed.of_refused (ha : Accounts handler handles) {code : UInt32} (hr : run.history = refusedSnapshot code)
    (hh : Answered handler s run.history) (hs : run.state = handler.after run.calls s) :
    Sealed handler handles s run := by
  have ⟨hm, hl⟩ := ha.unmoved_of_refused hr hh
  refine ⟨hs ▸ hl, fun h hi => ?_, fun now hn => ?_⟩
  case refine_1 =>
    have hi : Handle.invalid ≠ h := Ne.symm hi
    simp [hr, refusedSnapshot, opened?, closed?, Handle.unless, hi]
  case refine_2 =>
    rw [hm now hn, Finset.sdiff_self, Finset.card_empty]
    exact ⟨Finset.Subset.refl _, Nat.zero_le 2⟩

end Sealing

-- What the table makes of the platform's operations is what these make.
theorem serve_balanced {own : Pid} {threads : Threads σ} {request : Table.Request}
    (h : ∀ command, request ≠ .spawn command) :
    let history := (Table.serve ⟨platform, own⟩ handler threads request s).history
    Balanced 2 history ∨ ∃ code, history = refusedSnapshot code := by
  let t : Table interface := ⟨platform, own⟩
  have hlist (max : UInt64) : let history := ((t.list max).run handler s).history
      Balanced 2 history ∨ ∃ code, history = refusedSnapshot code := by
    by_cases hm : max = 0
    case pos =>
      subst hm
      exact .inl .nil
    case neg =>
      have ⟨history, _, _, he, hl⟩ := enumerate_leads handler s max
      have hh := (Table.list_passes t handler s hm).history.trans hl.history
      exact hh ▸ he.balanced
  cases request
  case spawn command => exact absurd rfl <| h command
  case terminate pid =>
    have hp := (Table.terminate_passes t handler s pid).history
    cases hv : validateTarget own pid
    case error why =>
      rw [hv] at hp
      exact .inl <| hp ▸ .nil
    case ok =>
      rw [hv] at hp
      have ⟨history, _, _, he, hl⟩ := terminate_leads handler s pid
      exact .inl <| (hp.trans hl.history) ▸ he.balanced.mono (Nat.le_succ 1)
  case list max => exact hlist max
  case listInto dest =>
    by_cases hd : dest = []
    case pos =>
      subst hd
      exact .inl .nil
    case neg => exact (Table.listInto_passes t handler s hd).history ▸ hlist _
  case listWithin max timeout =>
    cases Table.history_listWithin t handler threads max timeout s
    case inl hh => exact hh ▸ hlist max
    case inr hh => exact .inl <| hh ▸ .nil
  case memoryOf pid =>
    by_cases hp : pid = 0
    case pos =>
      subst hp
      exact .inl .nil
    case neg =>
      have ⟨history, _, _, hb, hl⟩ := probeMemory_leads handler s pid
      have hh := (Table.memoryOf_passes t handler s hp).history.trans hl.history
      exact .inl <| hh ▸ hb.balanced.mono (Nat.le_succ 1)
  case uptime => exact .inl <| .idle ⟨rfl, rfl, rfl, nofun⟩ .nil
  case yieldNow => exact .inl .nil

theorem no_handle_is_leaked (ha : Accounts handler handles) (own : Pid) (threads : Threads σ)
    {requests : List Table.Request} (h : ∀ request ∈ requests, ∀ command, request ≠ .spawn command) (s : σ) :
    AllSealed handler handles s (Table.session ⟨platform, own⟩ handler threads requests s) := by
  induction requests generalizing s
  case nil => trivial
  case cons request requests hi =>
    have ⟨hr, hrs⟩ := List.forall_mem_cons.mp h
    have ⟨hh, hs⟩ := Table.serve_answered ⟨platform, own⟩ handler threads request s
    refine ⟨?_, hi hrs _⟩
    cases serve_balanced hr
    case inl hb => exact .of_balanced ha hb hh hs
    case inr hb =>
      have ⟨_, hr⟩ := hb
      exact .of_refused ha hr hh hs

section Scarcity

-- The handles that are taken, none of which is the value for a failed snapshot.
def takenHandles (taken : List Handle) : Finset Handle :=
  taken.toFinset.erase .invalid

theorem takenHandles_cons {h : Handle} (hi : h ≠ .invalid) (taken : List Handle) :
    takenHandles (h :: taken) = insert h (takenHandles taken) := by
  rw [takenHandles, List.toFinset_cons, Finset.erase_insert_of_ne hi, takenHandles]

theorem notMem_takenHandles {h : Handle} {taken : List Handle} (hn : h ∉ taken) : h ∉ takenHandles taken :=
  fun hm => hn <| List.mem_toFinset.mp <| Finset.mem_of_mem_erase hm

theorem spare?_opens {taken : List Handle} {failure h : Handle}
    (ho : Handle.unless ((scarce.spare? taken).getD failure) failure = some h) :
    h ∉ takenHandles taken ∧
      takenHandles ((scarce.spare? taken).toList ++ taken) = insert h (takenHandles taken) := by
  have ⟨hn, he⟩ := Handle.unless_eq_some_iff.mp ho
  cases hs : scarce.spare? taken
  case none =>
    rw [hs] at hn
    exact absurd rfl hn
  case some k =>
    rw [hs] at he
    have hk : k = h := he
    have ⟨hm, _, hi⟩ := mem_spare? hs
    exact hk ▸ ⟨notMem_takenHandles hm, takenHandles_cons hi taken⟩

theorem spare?_keeps {taken : List Handle} {failure : Handle} (hf : ∀ h, scarce.spare? taken = some h → h ≠ failure)
    (ho : Handle.unless ((scarce.spare? taken).getD failure) failure = none) :
    (scarce.spare? taken).toList ++ taken = taken := by
  cases hs : scarce.spare? taken
  case none => rfl
  case some h =>
    have hn : h.unless failure = some h := Handle.unless_eq_some_iff.mpr ⟨hf h hs, rfl⟩
    rw [hs] at ho
    cases hn.symm.trans ho

theorem scarce_accounts : Accounts scarce takenHandles where
  real _ := Finset.notMem_erase _ _
  opens c taken h ho := by
    cases c <;> try cases ho
    case openProcess    => exact spare?_opens ho
    case createSnapshot => exact spare?_opens ho
  closes h taken := by
    ext k
    simp [scarce, takenHandles, and_comm, and_left_comm]
  keeps c taken ho hc hp := by
    cases c <;> first | rfl | cases hc
    case openProcess =>
      exact congrArg takenHandles <| spare?_keeps (fun h hs => (mem_spare? hs).right.left) ho
    case createSnapshot =>
      exact congrArg takenHandles <| spare?_keeps (fun h hs => (mem_spare? hs).right.right) ho

-- Requests with all that they need, with too few handles, and with none at all.
theorem no_handle_is_leaked_scarce :
    let requests := [.list 5, .memoryOf 4, .terminate 8, .listInto [.empty]]
    let runs := Table.session ⟨platform, 7⟩ scarce ⟨fun _ => ⟨0⟩, fun _ => .ok ()⟩ requests
    Accounts scarce takenHandles ∧ (∀ request ∈ requests, ∀ command, request ≠ .spawn command) ∧
      AllSealed scarce takenHandles [] (runs []) ∧
      AllSealed scarce takenHandles [⟨8⟩, ⟨4⟩] (runs [⟨8⟩, ⟨4⟩]) ∧
      AllSealed scarce takenHandles [⟨12⟩, ⟨8⟩, ⟨4⟩] (runs [⟨12⟩, ⟨8⟩, ⟨4⟩]) := by
  intro requests runs
  have h : ∀ request ∈ requests, ∀ command, request ≠ .spawn command := by simp [requests]
  have hs := no_handle_is_leaked scarce_accounts 7 ⟨fun _ => ⟨0⟩, fun _ => .ok ()⟩ h
  exact ⟨scarce_accounts, h, hs _, hs _, hs _⟩

end Scarcity

end ProcessControl.Windows
