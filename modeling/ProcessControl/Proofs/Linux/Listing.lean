import ProcessControl.Proofs.Linux.Snapshot
import ProcessControl.Proofs.Table.Listing

namespace ProcessControl.Linux

open Program Text

-- A question for the memory of some process.
def probes : interface.Call → Bool
  | .inr (.readFile [_, file]) => file == fileName "statm".toList
  | _                          => false

-- The question for the memory of the process that a record is about.
def probe (r : Record) : interface.Call :=
  .inr <| .readFile <| statmPath <| Decimal.digits r.pid.toNat

namespace Observed

variable {pageSize : Memory} {entries : List (Option FileName)} {max : UInt64} {ps : List (List Char × Pid)}
  {history : List files.Exchange} {records : List Record}

theorem pid_ne_zero (h : Observed pageSize (chosen entries max) history records) : ∀ r ∈ records, r.pid ≠ 0 := by
  intro r hr
  have hm : r.pid ∈ (chosen entries max).map (·.snd) := h.map_pid ▸ List.mem_map_of_mem hr
  have ⟨p, hp, he⟩ := List.mem_map.mp hm
  exact he ▸ (pid?_eq_some_iff.mp (of_mem_chosen hp).right).left

theorem length_le (h : Observed pageSize (chosen entries max) history records) : records.length ≤ max.toNat := by
  have hl := congrArg List.length h.map_pid
  rw [List.length_map, List.length_map] at hl
  exact hl ▸ List.length_take_le ..

theorem filter_probes (h : Observed pageSize ps history records) :
    ((history.map (Interface.Exchange.inr (J := Unix.interface))).map (·.call)).filter probes = records.map probe := by
  induction h
  case nil => rfl
  case cons dir pid _ _ _ hi =>
    have hn : probes (.inr <| .readFile <| commPath dir) = false := rfl
    have hs : probes (.inr <| .readFile <| statmPath <| Decimal.digits pid.toNat) = true := beq_self_eq_true _
    refine (List.filter_cons_of_neg <| Bool.eq_false_iff.mp hn).trans <| (List.filter_cons_of_pos hs).trans ?_
    exact congrArg (probe (.running pid _ _) :: ·) hi

end Observed

-- A root that tells the same of its entries and files whenever it is asked.
structure Still {σ : Type} (handler : Handler interface σ) (entries : Except PathFailure (List (Option FileName)))
    (contents : List FileName → Except PathFailure (List UInt8)) : Prop where
  listRoot : ∀ s, (handler (.inr .listRoot) s).fst = entries
  readFile : ∀ path s, (handler (.inr <| .readFile path) s).fst = contents path

-- The processes that the entries stand for, with their directories.
def processes (entries : Except PathFailure (List (Option FileName))) : List (List Char × Pid) :=
  (entries.toOption.getD []).filterMap process?

-- The record that is made of two files.
def recordOf (pageSize : Memory) (contents : List FileName → Except PathFailure (List UInt8))
    (p : List Char × Pid) : Record :=
  .running p.snd (nameFrom p.fst <| contents <| commPath p.fst)
    (memoryFrom pageSize <| contents <| statmPath <| Decimal.digits p.snd.toNat)

theorem Observed.eq_map {σ : Type} {handler : Handler files σ} {s : σ} {pageSize : Memory}
    {ps : List (List Char × Pid)} {history : List files.Exchange} {records : List Record}
    {contents : List FileName → Except PathFailure (List UInt8)} (h : Observed pageSize ps history records)
    (ha : Answered handler s history) (hc : ∀ path s, (handler (.readFile path) s).fst = contents path) :
    records = ps.map (recordOf pageSize contents) := by
  induction h generalizing s
  case nil => rfl
  case cons dir pid named sized _ hi =>
    have hn : contents (commPath dir) = named := (hc _ _).symm.trans ha.left
    have hs : contents (statmPath <| Decimal.digits pid.toNat) = sized := (hc _ _).symm.trans ha.right.left
    rw [List.map_cons, ← hi ha.right.right, recordOf, hn, hs]

section Listings

variable {σ : Type} (handler : Handler interface σ) (pageSize : Memory) (polls : Nat) (own : Pid) (max : UInt64) (s : σ)

theorem list_leads : ∃ front history records s', (∀ e ∈ front, e.call = .listRoot) ∧
    Observed pageSize (chosen (listed handler.right s) max) history records ∧
    (Table.list ⟨platform pageSize polls, own⟩ max).Leads handler s ((front ++ history).map .inr) records s' := by
  by_cases hm : max = 0
  case pos =>
    subst hm
    exact ⟨[], [], [], s, List.forall_mem_nil _, .nil, Table.list_zero_leads⟩
  case neg =>
    have ⟨front, history, records, s', hf, ho, h⟩ := enumerate_leads handler.right s pageSize max
    exact ⟨front, history, records, s', hf, ho, Table.list_leads hm h.inr ho.pid_ne_zero ho.length_le⟩

theorem list_probesEach : Table.ProbesEach probes probe <|
    (Table.list ⟨platform pageSize polls, own⟩ max).run handler s := by
  have ⟨front, history, records, s', hf, ho, h⟩ := list_leads handler pageSize polls own max s
  exact .of_inr h (fun e he => congrArg (fun c => probes (.inr c)) <| hf e he) ho.filter_probes

variable {handler} {entries : Except PathFailure (List (Option FileName))}
  {contents : List FileName → Except PathFailure (List UInt8)}

theorem Still.listed_eq (h : Still handler entries contents) (s : σ) :
    listed handler.right s = entries.toOption.getD [] := by
  have he : (handler.right .listRoot s).fst = entries := h.listRoot s
  rw [listed, he]
  cases entries <;> rfl

theorem Still.prefixed (h : Still handler entries contents) :
    Table.Prefixed ⟨platform pageSize polls, own⟩ handler True ((processes entries).map (·.snd)) := by
  have hp : ((processes entries).map (recordOf pageSize contents)).map (·.pid) = (processes entries).map (·.snd) :=
    List.map_map
  refine .of_take hp (fun n s _ => ?_) fun _ _ _ hn => absurd trivial hn
  have ⟨front, history, records, s', _, ho, hl⟩ := list_leads handler pageSize polls own n s
  have ha := (Answered.append_iff.mp hl.answered.of_map_inr).right
  rw [hl.outcome, ho.eq_map ha h.readFile, h.listed_eq, chosen, List.map_take]
  rfl

end Listings

section Likeness

variable {pageSize : Memory} {pid : Pid}

theorem observe_steady (h : pid ≠ 0) (dir : List Char) : Steady (probes <| .inr ·) (observe pageSize dir pid)
    (observe pageSize dir pid) Record.SameButMemory := by
  rw [observe, readName_eq, probeMemory_eq h]
  refine .bind (R := Eq) (.bind (.call rfl) fun named _ hn => .pure <| congrArg (nameFrom dir) hn) fun name _ hn => ?_
  subst hn
  refine .bind (R := fun _ _ => True) (.bind (.probe _) fun _ _ _ => .pure trivial) fun _ _ _ => ?_
  exact .pure ⟨rfl, rfl, rfl⟩

theorem enumerate_steady (pageSize : Memory) (max : UInt64) : Steady (probes <| .inr ·) (enumerate pageSize max)
    (enumerate pageSize max) (List.Forall₂ Record.SameButMemory) := by
  rw [enumerate]
  split
  case isTrue  => exact .pure .nil
  case isFalse =>
    refine .bind (.call rfl) fun listed _ hl => ?_
    subst hl
    cases listed
    case error why => exact .bind (.log _ _) fun _ _ _ => .pure .nil
    case ok entries =>
      simp only [walk_nil_eq]
      refine .mapM fun p hp => observe_steady ?_ p.fst
      exact (pid?_eq_some_iff.mp (of_mem_chosen hp).right).left

end Likeness

end ProcessControl.Linux
