import ProcessControl.Macos.Platform
import ProcessControl.Proofs.Table.Listing
import ProcessControl.Proofs.Unix.Kill

namespace ProcessControl.Macos

open Program

-- A question for the memory of some process.
def probes : interface.Call → Bool
  | .inr (.taskInfo _) => true
  | _                  => false

-- The question for the memory of the process that a record is about.
def probe (r : Record) : interface.Call :=
  .inr <| .taskInfo <| Int32.ofNat r.pid.toNat

-- A table of this size has a buffer, and so has a size that cannot be told.
def Fits (size : Except Errno Nat) : Prop :=
  ∀ bytes, size = .ok bytes → roomFor (bytes / entrySize) * entrySize ≤ largestBuffer

-- What is copied out of the table, or nothing if it cannot be.
def copied (size : Except Errno Nat) (copy : Nat → Except Errno Copied) : List Entry :=
  match size with
  | .error _  => []
  | .ok bytes =>
    match copy <| roomFor <| bytes / entrySize with
    | .error _ => []
    | .ok told => told.entries.take (told.bytes / entrySize)

-- The processes that a listing takes.
def chosen (entries : List Entry) (max : UInt64) : List (Pid × Name) :=
  (entries.filterMap process?).take max.toNat

-- The memory that a fact tells.
def memoryFrom (fact : Fact) : Memory :=
  if fact.written = taskSize then fact.value else 0

-- How a process becomes a record.
def Looked (p : Pid × Name) (history : List kernel.Exchange) (r : Record) : Prop :=
  ∃ fact, history = [⟨.taskInfo <| Int32.ofNat p.fst.toNat, fact⟩] ∧ r = .running p.fst p.snd (memoryFrom fact)

section Identifiers

variable {entry : Entry} {entries : List Entry} {max : UInt64} {p : Pid × Name} {pid : Pid}

-- Exactly the entries with a positive identifier stand for processes.
theorem process?_eq_some_iff : process? entry = some p ↔
    0 < entry.pid.toInt ∧ (p.fst.toNat : Int) = entry.pid.toInt ∧ p.snd = Name.ofBytes entry.command := by
  have hl : entry.pid.toInt < 2 ^ 31 := entry.pid.toInt_lt
  have hn (hp : 0 < entry.pid.toInt) : (UInt32.ofNat entry.pid.toInt.toNat).toNat = entry.pid.toInt.toNat :=
    UInt32.toNat_ofNat_of_lt' (by unfold UInt32.size; omega)
  rw [process?]
  split
  case isFalse h => exact iff_of_false nofun fun ⟨hp, _⟩ => h hp
  case isTrue hp =>
    rw [Option.some.injEq]
    constructor
    case mp =>
      rintro rfl
      refine ⟨hp, ?_, rfl⟩
      rw [hn hp]
      omega
    case mpr =>
      rintro ⟨_, he, hc⟩
      refine Prod.ext (UInt32.toNat_inj.mp ?_) hc.symm
      rw [hn hp]
      omega

-- A positive signed word is an identifier in the range of targets.
theorem target?_of_process? (h : process? entry = some p) : p.fst.target? = some (Int32.ofNat p.fst.toNat) := by
  have ⟨hp, he, _⟩ := process?_eq_some_iff.mp h
  have hl : entry.pid.toInt < 2 ^ 31 := entry.pid.toInt_lt
  refine Pid.target?_eq_some_iff.mpr ⟨by omega, ?_, rfl⟩
  unfold Pid.greatestTarget
  omega

theorem target?_of_mem_chosen (h : p ∈ chosen entries max) : p.fst.target? = some (Int32.ofNat p.fst.toNat) :=
  have ⟨_, _, he⟩ := List.mem_filterMap.mp <| List.mem_of_mem_take h
  target?_of_process? he

theorem probeMemory_eq (h : pid.target? = some (Int32.ofNat pid.toNat)) :
    probeMemory pid = (do return memoryFrom (← readTaskInfo <| Int32.ofNat pid.toNat)) := by
  rw [probeMemory, h]
  rfl

end Identifiers

section Surveys

variable {entries : List Entry} {max : UInt64} {ps : List (Pid × Name)} {history : List kernel.Exchange}
  {records : List Record}

theorem pid_ne_zero_of_surveyed (h : Surveyed Looked (chosen entries max) history records) :
    ∀ r ∈ records, r.pid ≠ 0 := by
  refine h.forall_mem fun p hp _ r ⟨_, _, hr⟩ hz => ?_
  have ⟨hn, _⟩ := Pid.target?_eq_some_iff.mp <| target?_of_mem_chosen hp
  rw [hr] at hz
  exact Nat.ne_of_gt hn <| congrArg UInt32.toNat hz

theorem length_le_of_surveyed (h : Surveyed Looked (chosen entries max) history records) :
    records.length ≤ max.toNat :=
  h.length_eq ▸ List.length_take_le ..

theorem filter_probes_of_surveyed (h : Surveyed Looked ps history records) :
    ((history.map (Interface.Exchange.inr (J := Unix.interface))).map (·.call)).filter probes =
      records.map probe := by
  induction h
  case nil => rfl
  case cons hl _ hi =>
    obtain ⟨fact, rfl, rfl⟩ := hl
    exact congrArg (probe (.running _ _ <| memoryFrom fact) :: ·) hi

end Surveys

section Runs

variable {σ : Type} {handler : Handler kernel σ} {s s₁ : σ} {max : UInt64} {entries : List Entry}
  {front : List kernel.Exchange}

-- The entries that a listing finds.
def listed (handler : Handler kernel σ) (s : σ) : List Entry :=
  copied (handler .tableSize s).fst fun room => (handler (.tableCopy room) (handler .tableSize s).snd).fst

theorem table_outcome (h : Fits (handler .tableSize s).fst) :
    (table.run handler s).outcome = .ok (listed handler s) := by
  have ho : (readTableSize.run handler s).outcome = .ok (handler .tableSize s).fst := rfl
  rw [table, outcome_bind ho, listed]
  cases hs : (handler .tableSize s).fst
  case error => rfl
  case ok bytes =>
    let s₁ := (handler .tableSize s).snd
    let room := roomFor (bytes / entrySize)
    have hc : ((copyTable room).run handler s₁).outcome = .ok (handler (.tableCopy room) s₁).fst := rfl
    simp only [if_neg <| Nat.not_lt.mpr <| h bytes hs, copied]
    refine (outcome_bind hc).trans ?_
    cases (handler (.tableCopy room) s₁).fst <;> rfl

theorem table_crashes (h : ¬Fits (handler .tableSize s).fst) : (table.run handler s).outcome = .error .crashed := by
  have ⟨bytes, h⟩ := not_forall.mp h
  have ⟨hs, hf⟩ := Classical.not_imp.mp h
  have ho : (readTableSize.run handler s).outcome = .ok (.ok bytes) := congrArg Except.ok hs
  rw [table, outcome_bind ho]
  simp only [if_pos <| Nat.not_le.mp hf]
  rfl

theorem table_asks : table.Asks fun c => probes (.inr c) = false := by
  refine .bind (.call rfl) fun size => ?_
  cases size
  case error => exact .bind (.log _) fun _ => .pure []
  case ok bytes =>
    dsimp only
    split
    case isTrue => exact trivial
    case isFalse =>
      refine .bind (.call rfl) fun told => ?_
      cases told
      case error => exact .bind (.log _) fun _ => .pure []
      case ok    => exact .pure _

theorem enumerate_leads (hm : max ≠ 0) (h : table.Leads handler s front entries s₁) : ∃ history records s',
    Surveyed Looked (chosen entries max) history records ∧
      (enumerate max).Leads handler s (front ++ history) records s' := by
  have hl : ∀ p ∈ chosen entries max, ∀ s, ∃ history r s', Looked p history r ∧
      (probeMemory p.fst >>= fun memory => pure <| Record.running p.fst p.snd memory).Leads handler s history r s' := by
    intro p hp s
    rw [probeMemory_eq <| target?_of_mem_chosen hp]
    exact ⟨_, _, _, ⟨_, rfl, rfl⟩, ((Leads.asked rfl).bind <| .done _).bind <| .done _⟩
  have ⟨history, records, s', hs, hp⟩ := mapM_leads hl s₁
  exact ⟨history, records, s', hs, .of_neg hm <| h.bind hp⟩

theorem enumerate_crashes (hm : max ≠ 0) {why : Halt} (h : (table.run handler s).outcome = .error why) :
    ((enumerate max).run handler s).outcome = .error why ∧
      ((enumerate max).run handler s).calls = (table.run handler s).calls := by
  rw [enumerate, if_neg hm, run_bind, Run.andThen, h]
  exact ⟨rfl, rfl⟩

end Runs

-- A kernel that tells the same of its table and of each process whenever it is asked.
structure Still {σ : Type} (handler : Handler interface σ) (size : Except Errno Nat)
    (copy : Nat → Except Errno Copied) (fact : Int32 → Fact) : Prop where
  tableSize : ∀ s, (handler (.inr .tableSize) s).fst = size
  tableCopy : ∀ room s, (handler (.inr <| .tableCopy room) s).fst = copy room
  taskInfo  : ∀ target s, (handler (.inr <| .taskInfo target) s).fst = fact target

-- The processes in a table, with their names.
def processes (size : Except Errno Nat) (copy : Nat → Except Errno Copied) : List (Pid × Name) :=
  (copied size copy).filterMap process?

-- The record that is made of a fact.
def recordOf (fact : Int32 → Fact) (p : Pid × Name) : Record :=
  .running p.fst p.snd (memoryFrom <| fact <| Int32.ofNat p.fst.toNat)

section Listings

variable {σ : Type} {handler : Handler interface σ} (polls : Nat) (own : Pid) {max : UInt64} {s : σ}

theorem list_leads (h : max = 0 ∨ Fits (handler (.inr .tableSize) s).fst) : ∃ front history records s',
    (∀ e ∈ front, probes (.inr e.call) = false) ∧
    Surveyed Looked (chosen (listed handler.right s) max) history records ∧
    (Table.list ⟨platform polls, own⟩ max).Leads handler s ((front ++ history).map .inr) records s' := by
  by_cases hm : max = 0
  case pos =>
    subst hm
    exact ⟨[], [], [], s, List.forall_mem_nil _, .nil, Table.list_zero_leads⟩
  case neg =>
    have ht : (table.run handler.right s).outcome = .ok (listed handler.right s) := table_outcome <| h.resolve_left hm
    have ⟨history, records, s', hs, hl⟩ := enumerate_leads hm <| .of_outcome ht
    refine ⟨_, history, records, s', fun e he => ?_, hs,
      Table.list_leads hm hl.inr (pid_ne_zero_of_surveyed hs) (length_le_of_surveyed hs)⟩
    exact table_asks.of_mem_calls <| List.mem_map_of_mem he

theorem list_crashes (hm : max ≠ 0) (h : ¬Fits (handler (.inr .tableSize) s).fst) :
    let run := (Table.list ⟨platform polls, own⟩ max).run handler s
    run.outcome = .error .crashed ∧ ∀ c ∈ run.calls, probes c = false := by
  intro run
  have hp := Table.list_passes ⟨platform polls, own⟩ handler s hm
  have hr := run_inr handler (enumerate max) s
  have ht : (table.run handler.right s).outcome = .error .crashed := table_crashes h
  have ⟨ho, hc⟩ := enumerate_crashes hm ht
  constructor
  case left => exact hp.outcome.trans <| congrArg (Except.map _) <| (congrArg Run.outcome hr).trans ho
  case right =>
    have hcs : run.calls = (table.run handler.right s).calls.map .inr := by
      refine hp.calls.trans <| (congrArg Run.calls hr).trans ?_
      exact (Interface.Exchange.map_inr_call _).trans <| congrArg (List.map Sum.inr) hc
    intro c hm
    have ⟨_, hm, he⟩ := List.mem_map.mp (hcs ▸ hm)
    exact he ▸ table_asks.of_mem_calls hm

theorem list_probesEach (max : UInt64) (s : σ) : Table.ProbesEach probes probe <|
    (Table.list ⟨platform polls, own⟩ max).run handler s := by
  by_cases h : max = 0 ∨ Fits (handler (.inr .tableSize) s).fst
  case pos =>
    have ⟨_, _, _, _, hf, hs, hl⟩ := list_leads polls own h
    exact .of_inr hl hf <| filter_probes_of_surveyed hs
  case neg =>
    have ⟨hm, hf⟩ := not_or.mp h
    have ⟨ho, hc⟩ := list_crashes polls own hm hf
    exact .of_error ho hc

theorem Looked.eq_recordOf {handler : Handler kernel σ} {s : σ} {fact : Int32 → Fact} {p : Pid × Name}
    {history : List kernel.Exchange} {r : Record} (hf : ∀ target s, (handler (.taskInfo target) s).fst = fact target)
    (h : Looked p history r) (ha : Answered handler s history) : r = recordOf fact p := by
  obtain ⟨told, rfl, rfl⟩ := h
  have ht : fact (Int32.ofNat p.fst.toNat) = told := (hf _ _).symm.trans ha.left
  rw [recordOf, ht]

variable {size : Except Errno Nat} {copy : Nat → Except Errno Copied} {fact : Int32 → Fact}

theorem Still.listed_eq (h : Still handler size copy fact) (s : σ) : listed handler.right s = copied size copy := by
  have hs : (handler.right .tableSize s).fst = size := h.tableSize s
  have hc : (fun room => (handler.right (.tableCopy room) (handler.right .tableSize s).snd).fst) = copy :=
    funext fun room => h.tableCopy room _
  rw [listed, hs, hc]

theorem Still.prefixed (h : Still handler size copy fact) :
    Table.Prefixed ⟨platform polls, own⟩ handler (Fits size) ((processes size copy).map (·.fst)) := by
  have hp : ((processes size copy).map (recordOf fact)).map (·.pid) = (processes size copy).map (·.fst) :=
    List.map_map
  refine .of_take hp (fun n s hf => ?told) fun n s hz hf => ?crashed
  case told =>
    rw [← h.tableSize s] at hf
    have ⟨front, history, records, s', _, hs, hl⟩ := list_leads polls own hf
    have ha := (Answered.append_iff.mp hl.answered.of_map_inr).right
    rw [hl.outcome, hs.eq_map ha fun _ _ _ _ _ hr => hr.eq_recordOf h.taskInfo, h.listed_eq, chosen, List.map_take]
    rfl
  case crashed =>
    rw [← h.tableSize s] at hf
    exact ⟨.crashed, (list_crashes polls own hz hf).left⟩

end Listings

section Likeness

theorem observe_steady {pid : Pid} (h : pid.target? = some (Int32.ofNat pid.toNat)) (name : Name) :
    let observe := probeMemory pid >>= fun memory => pure <| Record.running pid name memory
    Steady (probes <| .inr ·) observe observe Record.SameButMemory := by
  rw [probeMemory_eq h]
  refine .bind (R := fun _ _ => True) (.bind (.probe _) fun _ _ _ => .pure trivial) fun _ _ _ => ?_
  exact .pure ⟨rfl, rfl, rfl⟩

theorem enumerate_steady (max : UInt64) : Steady (probes <| .inr ·) (enumerate max) (enumerate max)
    (List.Forall₂ Record.SameButMemory) := by
  rw [enumerate]
  split
  case isTrue  => exact .pure .nil
  case isFalse =>
    refine .bind (.of_asks table_asks) fun entries _ he => ?_
    subst he
    exact .mapM fun p hp => observe_steady (target?_of_mem_chosen hp) p.snd

end Likeness

end ProcessControl.Macos
