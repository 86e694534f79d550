import ProcessControl.Proofs.Table.Listing
import ProcessControl.Proofs.Windows.Handles

namespace ProcessControl.Windows

open Program

section Questions

variable {σ : Type} (handler : Handler interface σ) (s : σ)

-- The entry that is handed out next, if one is left.
def next? (snapshot : Handle) : Nat → Option Entry
  | 0        => none
  | left + 1 => (handler (.nextEntry snapshot (left + 1)) s).fst

-- The working set of a process that is opened now, if it can be opened and read.
def workingSet? (pid : Pid) : Option UInt64 :=
  let process : Handle := (handler (.openProcess .query pid) s).fst
  if process = .null then none
  else (handler (.memoryInfo process) (handler (.openProcess .query pid) s).snd).fst

end Questions

-- What may be asked between two entries: nothing, or the memory of a process.
def Between (history : List interface.Exchange) : Prop :=
  history = [] ∨ ∃ pid memory, Probed pid history memory

-- These are the entries from one on, whether or not a process is looked at before the next one is asked for.
def Hands {σ : Type} (handler : Handler interface σ) (snapshot : Handle) : List Entry → Option Entry → Nat → σ → Prop
  | [], first?, _, _                  => first? = none
  | entry :: entries, first?, left, s => first? = some entry ∧
    ∀ between, Between between → Answered handler s between →
      let s' := handler.after (between.map (·.call)) s
      Hands handler snapshot entries (next? handler s' snapshot left) (left - 1)
        (handler (.nextEntry snapshot left) s').snd

-- A snapshot that is made now has these entries, or none can be made.
def Snapped {σ : Type} (handler : Handler interface σ) (s : σ) (entries? : Option (List Entry)) : Prop :=
  let snapshot : Handle := (handler .createSnapshot s).fst
  let s' := (handler .createSnapshot s).snd
  let first : Option Entry × Nat := (handler (.firstEntry snapshot) s').fst
  match entries? with
  | none         => snapshot = .invalid
  | some entries =>
    snapshot ≠ .invalid ∧ Hands handler snapshot entries first.fst first.snd (handler (.firstEntry snapshot) s').snd

def probes : interface.Call → Bool
  | .openProcess _ _ => true
  | _                => false

def probe (r : Record) : interface.Call :=
  .openProcess .query r.pid

def read? : interface.Call → Option Handle
  | .memoryInfo process => some process
  | _                   => none

def process? : interface.Exchange → Option Handle
  | ⟨.openProcess _ _, process⟩ => Handle.unless process .null
  | _                           => none

-- These processes are asked for one after the other, and the working set is read of those that could be opened.
structure AsksOnly (asked : List interface.Call) (history : List interface.Exchange) : Prop where
  opens : (history.map (·.call)).filter probes = asked
  reads : (history.map (·.call)).filterMap read? = history.filterMap process?

namespace AsksOnly

variable {asked asked' : List interface.Call} {front later : List interface.Exchange}

theorem append (h : AsksOnly asked front) (h' : AsksOnly asked' later) :
    AsksOnly (asked ++ asked') (front ++ later) where
  opens := by rw [List.map_append, List.filter_append, h.opens, h'.opens]
  reads := by rw [List.map_append, List.filterMap_append, List.filterMap_append, h.reads, h'.reads]

theorem append_none (h : AsksOnly asked front) (h' : AsksOnly [] later) : AsksOnly asked (front ++ later) :=
  List.append_nil asked ▸ h.append h'

end AsksOnly

section Probing

variable {σ : Type} {handler : Handler interface σ} {s : σ} {pid : Pid} {history : List interface.Exchange}
  {memory : Memory} {entries : List Entry} {entry : Entry} {records : List Record} {r : Record} {max : UInt64}

theorem Probed.asksOnly (h : Probed pid history memory) : AsksOnly [.openProcess .query pid] history := by
  cases h
  case refused => exact ⟨rfl, rfl⟩
  case told process memory? hp =>
    have ho : process? ⟨.openProcess .query pid, process⟩ = some process := Handle.unless_eq_some_iff.mpr ⟨hp, rfl⟩
    refine ⟨rfl, Eq.trans ?_ (List.filterMap_cons_some ho).symm⟩
    rfl

theorem Visited.asksOnly (h : Visited entry history records) : AsksOnly (records.map probe) history := by
  cases h
  case idle       => exact ⟨rfl, rfl⟩
  case taken _ hp => exact hp.asksOnly

theorem Walked.asksOnly {snapshot : Handle} {left room : Nat} {next? : Option Entry}
    (h : Walked snapshot left room next? history records) : AsksOnly (records.map probe) history := by
  induction h
  case exhausted => exact ⟨rfl, rfl⟩
  case full      => exact ⟨rfl, rfl⟩
  case last hv   => exact hv.asksOnly.append_none ⟨rfl, rfl⟩
  case next hv _ hi =>
    rw [List.map_append]
    exact hv.asksOnly.append ⟨hi.opens, hi.reads⟩

theorem Probed.eq_getD (h : Probed pid history memory) (ha : Answered handler s history) :
    memory = (workingSet? handler s pid).getD 0 := by
  cases h
  case refused code =>
    rw [workingSet?, ha.left]
    rfl
  case told process memory? hp =>
    obtain ⟨rfl, rfl, _⟩ := ha
    exact congrArg (Option.getD · 0) (if_neg hp).symm

-- A listing asks for the processes of its records one after the other, and for no other process.
theorem Enumerated.asksOnly (h : Enumerated max history records) : AsksOnly (records.map probe) history := by
  cases h
  case nothing => exact ⟨rfl, rfl⟩
  case refused => exact ⟨rfl, rfl⟩
  case walked snapshot _ _ _ _ _ hw =>
    have hc : AsksOnly [] [⟨.closeHandle snapshot, ()⟩] := ⟨rfl, rfl⟩
    have ha := hw.asksOnly.append_none hc
    exact ⟨ha.opens, ha.reads⟩

theorem Visited.forall_mem {P : Record → Prop} (h : Visited entry history records)
    (hp : ∀ (entry : Entry) memory, entry.pid ≠ 0 → P (.running entry.pid (imageName entry.image) memory)) :
    ∀ r ∈ records, P r := by
  cases h
  case idle       => exact List.forall_mem_nil _
  case taken hz _ => exact List.forall_mem_singleton.mpr <| hp entry _ hz

-- All records are made of entries in the same way, none of them of the idle process.
theorem Walked.forall_mem {P : Record → Prop} {snapshot : Handle} {left room : Nat} {next? : Option Entry}
    (h : Walked snapshot left room next? history records)
    (hp : ∀ (entry : Entry) memory, entry.pid ≠ 0 → P (.running entry.pid (imageName entry.image) memory)) :
    ∀ r ∈ records, P r := by
  induction h
  case exhausted    => exact List.forall_mem_nil _
  case full         => exact List.forall_mem_nil _
  case last hv      => exact hv.forall_mem hp
  case next hv _ hi => exact List.forall_mem_append.mpr ⟨hv.forall_mem hp, hi⟩

theorem Enumerated.forall_mem {P : Record → Prop} (h : Enumerated max history records)
    (hp : ∀ (entry : Entry) memory, entry.pid ≠ 0 → P (.running entry.pid (imageName entry.image) memory)) :
    ∀ r ∈ records, P r := by
  cases h
  case nothing => exact List.forall_mem_nil _
  case refused => exact List.forall_mem_nil _
  case walked hw => exact hw.forall_mem hp

theorem Visited.length_le (h : Visited entry history records) : records.length ≤ 1 := by
  cases h
  case idle  => exact Nat.zero_le 1
  case taken => exact Nat.le_refl 1

theorem Walked.length_le {snapshot : Handle} {left room : Nat} {next? : Option Entry}
    (h : Walked snapshot left room next? history records) : records.length ≤ room := by
  induction h
  case exhausted => exact Nat.zero_le _
  case full      => exact Nat.zero_le _
  case last hv   => exact Nat.le_trans hv.length_le <| Nat.le_add_left 1 _
  case next hv _ hi =>
    have hn := hv.length_le
    rw [List.length_append]
    omega

theorem Enumerated.length_le (h : Enumerated max history records) : records.length ≤ max.toNat := by
  cases h
  case nothing   => exact Nat.zero_le _
  case refused   => exact Nat.zero_le _
  case walked hw => exact hw.length_le

end Probing

def processes (entries? : Option (List Entry)) : List Entry :=
  (entries?.getD []).filter (·.pid != 0)

-- That a record is made of an entry, with the memory that was told in some state.
def Shows {σ : Type} (handler : Handler interface σ) (entry : Entry) (r : Record) : Prop :=
  ∃ s history memory, Probed entry.pid history memory ∧ Answered handler s history ∧
    r = .running entry.pid (imageName entry.image) memory

section Showing

variable {σ τ : Type} {handler : Handler interface σ} {g : Handler interface τ} {s : σ}
  {history : List interface.Exchange} {entry : Entry} {entries : List Entry} {new records records' : List Record}
  {max : UInt64}

theorem shows_nil (room : Nat) : List.Forall₂ (Shows handler) ((processes <| some []).take room) [] :=
  List.take_nil.symm ▸ .nil

theorem Visited.between (h : Visited entry history records) : Between history := by
  cases h
  case idle       => exact .inl rfl
  case taken _ hp => exact .inr ⟨_, _, hp⟩

-- An entry takes as much room as it makes records.
theorem Visited.shows {room : Nat} (h : Visited entry history new) (ha : Answered handler s history)
    (hs : List.Forall₂ (Shows handler) ((processes (some entries)).take (room + 1 - new.length)) records) :
    List.Forall₂ (Shows handler) ((processes (some (entry :: entries))).take (room + 1)) (new ++ records) := by
  cases h
  case idle hz =>
    have hf : processes (some (entry :: entries)) = processes (some entries) := List.filter_cons_of_neg (by simp [hz])
    exact hf ▸ hs
  case taken hz hp =>
    have hf : processes (some (entry :: entries)) = entry :: processes (some entries) :=
      List.filter_cons_of_pos (by simp [hz])
    rw [hf, List.take_succ_cons]
    exact .cons ⟨s, _, _, hp, ha, rfl⟩ hs

-- A walk makes records of the first entries that stand for processes, as many as there is room for.
theorem Walked.shows {snapshot : Handle} {left room : Nat} {first? : Option Entry}
    (h : Walked snapshot left room first? history records) (ha : Answered handler s history)
    (hh : Hands handler snapshot entries first? left s) :
    List.Forall₂ (Shows handler) ((processes <| some entries).take room) records := by
  induction h generalizing s entries <;> cases entries
  case full.nil  => exact .nil
  case full.cons => exact .nil
  case exhausted.nil  => exact shows_nil _
  case exhausted.cons => cases hh.left
  case last.nil  => cases hh
  case next.nil  => cases hh
  case last.cons room _ _ _ hv entry entries =>
    obtain ⟨he, hh⟩ := hh
    cases he
    have hf := (Answered.append_iff.mp ha).left
    have hb := hh _ hv.between hf
    -- No entry is left, so none is handed out.
    have hn : entries = [] := by
      cases entries
      case nil  => rfl
      case cons => cases hb.left
    subst hn
    have hs := hv.shows hf <| shows_nil (room + 1 - _)
    rwa [List.append_nil] at hs
  case next.cons hv _ hi entry entries =>
    obtain ⟨he, hh⟩ := hh
    cases he
    have ⟨hf, hn, hl⟩ := Answered.append_iff.mp ha
    exact hv.shows hf <| hi hl <| hn ▸ hh _ hv.between hf

theorem Enumerated.shows {entries? : Option (List Entry)} (h : Enumerated max history records)
    (ha : Answered handler s history) (hs : Snapped handler s entries?) :
    List.Forall₂ (Shows handler) ((processes entries?).take max.toNat) records := by
  cases h
  case nothing hm =>
    subst hm
    exact .nil
  case refused =>
    cases entries?
    case none         => exact shows_nil _
    case some entries => exact absurd ha.left hs.left
  case walked hn hw =>
    obtain ⟨rfl, hf, ha⟩ := ha
    cases entries?
    case none => exact absurd hs hn
    case some entries =>
      have hh := hs.right
      rw [hf] at hh
      exact hw.shows (Answered.append_iff.mp ha).left hh

-- Two records of one entry differ in nothing but memory, whichever systems they were made on.
theorem sameButMemory_of_shows {es : List Entry} (h : List.Forall₂ (Shows handler) es records)
    (h' : List.Forall₂ (Shows g) es records') : List.Forall₂ Record.SameButMemory records records' := by
  induction h generalizing records' <;> cases h'
  case nil.nil => exact .nil
  case cons.cons hr _ hi _ _ hr' h' =>
    obtain ⟨_, _, _, _, _, rfl⟩ := hr
    obtain ⟨_, _, _, _, _, rfl⟩ := hr'
    exact .cons ⟨rfl, rfl, rfl⟩ (hi h')

end Showing

-- A system that makes the same snapshot, and tells the same working set of each process, whenever it is asked.
structure Still {σ : Type} (handler : Handler interface σ) (entries? : Option (List Entry))
    (memory? : Pid → Option UInt64) : Prop where
  snapshot   : ∀ s, Snapped handler s entries?
  workingSet : ∀ pid s, workingSet? handler s pid = memory? pid

def recordOf (memory? : Pid → Option UInt64) (entry : Entry) : Record :=
  .running entry.pid (imageName entry.image) ((memory? entry.pid).getD 0)

section Listings

variable {σ τ : Type} (handler : Handler interface σ) (own : Pid) (max : UInt64) (s : σ)

theorem list_leads : ∃ history records s', Enumerated max history records ∧
    (Table.list ⟨platform, own⟩ max).Leads handler s history records s' := by
  by_cases hm : max = 0
  case pos =>
    subst hm
    exact ⟨[], [], s, .nothing rfl, Table.list_zero_leads⟩
  case neg =>
    have ⟨history, records, s', he, h⟩ := enumerate_leads handler s max
    have hz : ∀ r ∈ records, r.pid ≠ 0 := he.forall_mem fun _ _ hz => hz
    exact ⟨history, records, s', he, Table.list_leads hm h hz he.length_le⟩

theorem list_probesEach : let run := (Table.list ⟨platform, own⟩ max).run handler s
    Table.ProbesEach probes probe run ∧ run.calls.filterMap read? = run.history.filterMap process? := by
  intro run
  have ⟨history, records, s', he, h⟩ := list_leads handler own max s
  have ha := he.asksOnly
  have ho : run.outcome = .ok records := h.outcome
  have hh : run.history = history := h.history
  rw [Table.ProbesEach, Run.calls, ho, hh]
  exact ⟨ha.opens, ha.reads⟩

theorem list_undisturbed {f : Handler interface σ} {g : Handler interface τ} {s : σ} {t : τ}
    {entries? : Option (List Entry)} (hf : Snapped f s entries?) (hg : Snapped g t entries?) :
    Table.Undisturbed ((Table.list ⟨platform, own⟩ max).run f s) ((Table.list ⟨platform, own⟩ max).run g t) := by
  have ⟨_, records, _, he, hl⟩ := list_leads f own max s
  have ⟨_, records', _, he', hl'⟩ := list_leads g own max t
  exact ⟨records, records', hl.outcome, hl'.outcome,
    sameButMemory_of_shows (he.shows hl.answered hf) (he'.shows hl'.answered hg)⟩

variable {handler}

theorem Shows.eq_recordOf {memory? : Pid → Option UInt64} {entry : Entry} {r : Record}
    (hm : ∀ pid s, workingSet? handler s pid = memory? pid) (h : Shows handler entry r) :
    recordOf memory? entry = r := by
  obtain ⟨s, history, memory, hp, ha, rfl⟩ := h
  rw [recordOf, ← hm entry.pid s, hp.eq_getD ha]

theorem Still.prefixed {entries? : Option (List Entry)} {memory? : Pid → Option UInt64}
    (h : Still handler entries? memory?) :
    Table.Prefixed ⟨platform, own⟩ handler True ((processes entries?).map (·.pid)) := by
  have hp : ((processes entries?).map (recordOf memory?)).map (·.pid) = (processes entries?).map (·.pid) :=
    List.map_map
  refine .of_take hp (fun n s _ => ?_) fun _ _ _ hn => absurd trivial hn
  have ⟨_, records, _, he, hl⟩ := list_leads handler own n s
  have hr := (he.shows hl.answered <| h.snapshot s).imp fun _ _ => Shows.eq_recordOf h.workingSet
  rw [← List.forall₂_map_left_iff, List.forall₂_eq_eq_eq] at hr
  rw [hl.outcome, ← hr, List.map_take]

end Listings

end ProcessControl.Windows
