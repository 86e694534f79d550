import ProcessControl.Proofs.Program.History
import ProcessControl.Windows.Platform

namespace ProcessControl.Windows

open Program

-- How the memory of a process is asked for, and what is told of it.
inductive Probed (pid : Pid) : List interface.Exchange → Memory → Prop
  | refused (code : UInt32) : Probed pid [⟨.openProcess .query pid, Handle.null⟩, ⟨.lastError, code⟩] 0
  | told {process : Handle} (memory? : Option UInt64) : process ≠ .null → Probed pid
    [⟨.openProcess .query pid, process⟩, ⟨.memoryInfo process, memory?⟩, ⟨.closeHandle process, ()⟩] (memory?.getD 0)

inductive Ended (pid : Pid) : List interface.Exchange → Except Failure Unit → Prop
  | refused (code : UInt32) :
    Ended pid [⟨.openProcess .terminate pid, Handle.null⟩, ⟨.lastError, code⟩] (.error <| failureOf pid code)
  | spared {process : Handle} (code : UInt32) : process ≠ .null → Ended pid
    [⟨.openProcess .terminate pid, process⟩, ⟨.terminateProcess process forcedExitCode, false⟩, ⟨.lastError, code⟩,
      ⟨.closeHandle process, ()⟩] (.error <| failureOf pid code)
  | ended {process : Handle} (waited : UInt32) : process ≠ .null → Ended pid
    [⟨.openProcess .terminate pid, process⟩, ⟨.terminateProcess process forcedExitCode, true⟩,
      ⟨.waitFor process settleMillis, waited⟩, ⟨.closeHandle process, ()⟩] (.ok ())

-- What becomes of an entry. The idle process is not looked at and makes no record.
inductive Visited (entry : Entry) : List interface.Exchange → List Record → Prop
  | idle : entry.pid = 0 → Visited entry [] []
  | taken {history : List interface.Exchange} {memory : Memory} : entry.pid ≠ 0 → Probed entry.pid history memory →
    Visited entry history [.running entry.pid (imageName entry.image) memory]

-- How a snapshot is walked from the entry that was handed out, while so many are left behind it and there is room for
-- so many records. After each entry the next one is asked for, also where there is no room for it.
inductive Walked (snapshot : Handle) : Nat → Nat → Option Entry → List interface.Exchange → List Record → Prop
  | exhausted {left room : Nat} : Walked snapshot left room none [] []
  | full {left : Nat} {entry : Entry} : Walked snapshot left 0 (some entry) [] []
  | last {room : Nat} {entry : Entry} {front : List interface.Exchange} {records : List Record} :
    Visited entry front records →
    Walked snapshot 0 (room + 1) (some entry) (front ++ [⟨.nextEntry snapshot 0, ()⟩]) records
  | next {left room : Nat} {entry : Entry} {next? : Option Entry} {front later : List interface.Exchange}
    {new records : List Record} :
    Visited entry front new → Walked snapshot left (room + 1 - new.length) next? later records →
    Walked snapshot (left + 1) (room + 1) (some entry) (front ++ ⟨.nextEntry snapshot (left + 1), next?⟩ :: later)
      (new ++ records)

-- A snapshot that could not be made is closed all the same, before the code of the failure is read.
def refusedSnapshot (code : UInt32) : List interface.Exchange :=
  [⟨.createSnapshot, Handle.invalid⟩, ⟨.closeHandle .invalid, ()⟩, ⟨.lastError, code⟩]

inductive Enumerated (max : UInt64) : List interface.Exchange → List Record → Prop
  | nothing : max = 0 → Enumerated max [] []
  | refused (code : UInt32) : max ≠ 0 → Enumerated max (refusedSnapshot code) []
  | walked {snapshot : Handle} {first? : Option Entry} {left : Nat} {walk : List interface.Exchange}
    {records : List Record} : max ≠ 0 → snapshot ≠ .invalid → Walked snapshot left max.toNat first? walk records →
    Enumerated max (⟨.createSnapshot, snapshot⟩ :: ⟨.firstEntry snapshot, (first?, left)⟩ :: walk ++
      [⟨.closeHandle snapshot, ()⟩]) records

-- The walk after an entry: the next one is asked for, and the last one has none behind it.
def walkBehind (snapshot : Handle) (max : UInt64) : Nat → List Record → Program interface (List Record)
  | 0, records        => do readPastEnd snapshot; return records
  | left + 1, records => do walk snapshot max left (← readNextEntry snapshot left) records

theorem walk_none (snapshot : Handle) (max : UInt64) (left : Nat) (records : List Record) :
    walk snapshot max left none records = return records := by
  cases left <;> rfl

theorem walk_some (snapshot : Handle) (max : UInt64) (left : Nat) (entry : Entry) (records : List Record) :
    walk snapshot max left (some entry) records =
      if max.toNat ≤ records.length then return records
      else (do walkBehind snapshot max left (← visit entry records)) := by
  cases left <;> rfl

variable {σ : Type} (handler : Handler interface σ) (s : σ)

theorem probeMemory_leads (pid : Pid) : ∃ history memory s',
    Probed pid history memory ∧ (probeMemory pid).Leads handler s history memory s' := by
  by_cases h : (handler (.openProcess .query pid) s).fst = Handle.null
  case pos => exact ⟨_, _, _, .refused _, (Leads.asked h).bind <| .of_pos rfl <| (Leads.asked rfl).bind <| .done 0⟩
  case neg =>
    exact ⟨_, _, _, .told _ h, (Leads.asked rfl).bind <| .of_neg h <|
      (Leads.asked rfl).bind <| (Leads.asked rfl).bind <| .done _⟩

theorem terminate_leads (pid : Pid) : ∃ history result s',
    Ended pid history result ∧ (terminate pid).Leads handler s history result s' := by
  by_cases h : (handler (.openProcess .terminate pid) s).fst = Handle.null
  case pos => exact ⟨_, _, _, .refused _, (Leads.asked h).bind <| .of_pos rfl <| (Leads.asked rfl).bind <| .done _⟩
  case neg =>
    let process : Handle := (handler (.openProcess .terminate pid) s).fst
    let s₁ := (handler (.openProcess .terminate pid) s).snd
    cases ht : (handler (.terminateProcess process forcedExitCode) s₁).fst
    case false =>
      exact ⟨_, _, _, .spared _ h, (Leads.asked rfl).bind <| .of_neg h <| (Leads.asked ht).bind <|
        (Leads.asked rfl).bind <| (Leads.asked rfl).bind <| .done _⟩
    case true =>
      exact ⟨_, _, _, .ended _ h, (Leads.asked rfl).bind <| .of_neg h <| (Leads.asked ht).bind <|
        (Leads.asked rfl).bind <| (Leads.asked rfl).bind <| .done _⟩

theorem visit_leads (entry : Entry) (records : List Record) : ∃ history new s',
    Visited entry history new ∧ (visit entry records).Leads handler s history (records ++ new) s' := by
  by_cases h : entry.pid = 0
  case pos => exact ⟨[], [], s, .idle h, .of_pos h <| (List.append_nil records).symm ▸ .done records⟩
  case neg =>
    have ⟨history, memory, s', hp, hl⟩ := probeMemory_leads handler s entry.pid
    refine ⟨history, _, s', .taken h hp, .of_neg h ?_⟩
    exact List.append_nil history ▸ hl.bind (.done _)

variable (snapshot : Handle) (max : UInt64) (left : Nat) (next? : Option Entry) (records : List Record)

theorem walk_stops (h : next? = none ∨ max.toNat ≤ records.length) :
    Walked snapshot left (max.toNat - records.length) next? [] [] ∧
      (walk snapshot max left next? records).Leads handler s [] (records ++ []) s := by
  rw [List.append_nil]
  cases next?
  case none => exact ⟨.exhausted, walk_none .. ▸ .done records⟩
  case some entry =>
    have hm := h.resolve_left nofun
    rw [Nat.sub_eq_zero_of_le hm, walk_some]
    exact ⟨.full, .of_pos hm <| .done records⟩

theorem walk_goes_on (h : ¬(next? = none ∨ max.toNat ≤ records.length)) :
    ∃ entry room front new s₁, next? = some entry ∧ max.toNat - records.length = room + 1 ∧
      Visited entry front new ∧ ∀ later all s',
        (walkBehind snapshot max left (records ++ new)).Leads handler s₁ later all s' →
        (walk snapshot max left next? records).Leads handler s (front ++ later) all s' := by
  have ⟨hn, hm⟩ := not_or.mp h
  have ⟨entry, he⟩ := Option.ne_none_iff_exists'.mp hn
  have ⟨room, hr⟩ : ∃ room, max.toNat - records.length = room + 1 := Nat.exists_eq_add_one.mpr <| by omega
  have ⟨front, new, s₁, hv, hl⟩ := visit_leads handler s entry records
  refine ⟨entry, room, front, new, s₁, he, hr, hv, fun _ _ _ h' => ?_⟩
  rw [he, walk_some]
  exact .of_neg hm <| hl.bind h'

-- The records that a walk adds are those for which the ones it began with have left room.
theorem walk_leads : ∃ history new s', Walked snapshot left (max.toNat - records.length) next? history new ∧
    (walk snapshot max left next? records).Leads handler s history (records ++ new) s' := by
  induction left generalizing s next? records
  case zero =>
    by_cases h : next? = none ∨ max.toNat ≤ records.length
    case pos => exact ⟨[], [], s, walk_stops handler s snapshot max 0 next? records h⟩
    case neg =>
      have ⟨entry, room, front, new, s₁, he, hr, hv, hl⟩ := walk_goes_on handler s snapshot max 0 next? records h
      subst he
      rw [hr]
      exact ⟨_, new, _, .last hv, hl _ _ _ <| (Leads.asked rfl).bind <| .done _⟩
  case succ left hi =>
    by_cases h : next? = none ∨ max.toNat ≤ records.length
    case pos => exact ⟨[], [], s, walk_stops handler s snapshot max (left + 1) next? records h⟩
    case neg =>
      have ⟨entry, room, front, new, s₁, he, hr, hv, hl⟩ :=
        walk_goes_on handler s snapshot max (left + 1) next? records h
      have ⟨later, added, s', hw, h'⟩ := hi (handler (.nextEntry snapshot (left + 1)) s₁).snd
        (handler (.nextEntry snapshot (left + 1)) s₁).fst (records ++ new)
      rw [List.length_append, ← Nat.sub_sub, hr] at hw
      subst he
      rw [hr]
      refine ⟨_, new ++ added, s', .next hv hw, hl _ _ _ <| (Leads.asked rfl).bind ?_⟩
      exact List.append_assoc records new added ▸ h'

theorem enumerate_leads (max : UInt64) : ∃ history records s',
    Enumerated max history records ∧ (enumerate max).Leads handler s history records s' := by
  by_cases hm : max = 0
  case pos => exact ⟨[], [], s, .nothing hm, .of_pos hm <| .done []⟩
  case neg =>
    by_cases h : (handler .createSnapshot s).fst = Handle.invalid
    case pos =>
      exact ⟨_, _, _, .refused _ hm, .of_neg hm <| (Leads.asked h).bind <| .of_pos rfl <|
        (Leads.asked rfl).bind <| (Leads.asked rfl).bind <| (Leads.noticed _).bind <| .done []⟩
    case neg =>
      let snapshot : Handle := (handler .createSnapshot s).fst
      let s₁ := (handler .createSnapshot s).snd
      let first : Option Entry × Nat := (handler (.firstEntry snapshot) s₁).fst
      have ⟨history, records, s', hw, hl⟩ :=
        walk_leads handler (handler (.firstEntry snapshot) s₁).snd snapshot max first.snd first.fst []
      exact ⟨_, records, _, .walked hm h hw, .of_neg hm <| (Leads.asked rfl).bind <| .of_neg h <|
        (Leads.asked rfl).bind <| hl.bind <| (Leads.asked rfl).bind <| .done records⟩

end ProcessControl.Windows
