import Mathlib.Data.List.Nodup
import ProcessControl.Linux.Platform
import ProcessControl.Proofs.Program
import ProcessControl.Proofs.Text.Decimal
import ProcessControl.Proofs.Text.Utf8

namespace ProcessControl.Linux

open Text

section Identifiers

variable {dir : List Char} {pid : Pid}

theorem toNat_ne_zero (h : pid ≠ 0) : pid.toNat ≠ 0 :=
  fun hz => h <| UInt32.toNat_inj.mp hz

theorem pid?_eq_some_iff_value : pid? dir = some pid ↔
    dir ≠ [] ∧ (∀ c ∈ dir, Decimal.isDigit c = true) ∧ Decimal.value dir = pid.toNat ∧ 0 < pid.toNat := by
  simp only [pid?, Option.map_eq_some_iff, Option.filter_eq_some_iff, decide_eq_true_eq, Decimal.readPlain?_eq_some_iff]
  constructor
  case mp =>
    rintro ⟨n, ⟨⟨hn, hd, hv, hl⟩, hp⟩, he⟩
    have hw : pid.toNat = n := he ▸ UInt32.toNat_ofNat_of_lt' hl
    exact ⟨hn, hd, hv.trans hw.symm, hw ▸ hp⟩
  case mpr =>
    rintro ⟨hn, hd, hv, hp⟩
    exact ⟨pid.toNat, ⟨⟨hn, hd, hv, pid.toNat_lt⟩, hp⟩, UInt32.ofNat_toNat⟩

-- Zeros at the front of a name do not change what it is read as.
theorem pid?_eq_some_iff :
    pid? dir = some pid ↔ pid ≠ 0 ∧ ∃ zeros, dir = List.replicate zeros '0' ++ Decimal.digits pid.toNat := by
  rw [pid?_eq_some_iff_value]
  constructor
  case mp =>
    rintro ⟨_, hd, hv, hp⟩
    have hz := Decimal.exists_zeros_of_value hd <| hv ▸ Nat.ne_of_gt hp
    refine ⟨?_, hv ▸ hz⟩
    rintro rfl
    exact absurd hp (Nat.lt_irrefl 0)
  case mpr =>
    rintro ⟨hz, zeros, rfl⟩
    refine ⟨fun h => ?_, fun c hc => ?_, ?_, Nat.pos_of_ne_zero <| toNat_ne_zero hz⟩
    case refine_1 => exact Nat.toDigits_ne_nil (List.append_eq_nil_iff.mp h).right
    case refine_2 =>
      cases List.mem_append.mp hc
      case inl h => rw [List.eq_of_mem_replicate h]; rfl
      case inr h => exact Decimal.isDigit_of_mem_digits h
    case refine_3 => rw [Decimal.value_replicate_zero_append, Decimal.value_digits]

theorem pid?_digits (h : pid ≠ 0) : pid? (Decimal.digits pid.toNat) = some pid :=
  pid?_eq_some_iff.mpr ⟨h, 0, rfl⟩

theorem eq_digits_iff (h : pid? dir = some pid) :
    dir = Decimal.digits pid.toNat ↔ dir.head? ≠ some '0' := by
  have ⟨hz, zeros, he⟩ := pid?_eq_some_iff.mp h
  constructor
  case mp  => exact fun hd => hd ▸ Decimal.head?_digits_ne_zero (toNat_ne_zero hz)
  case mpr =>
    intro hn
    cases zeros
    case zero => exact he
    case succ => exact absurd (he ▸ rfl) hn

theorem process?_eq_some_iff {entry : Option FileName} :
    process? entry = some (dir, pid) ↔ entry = some (fileName dir) ∧ pid? dir = some pid := by
  simp only [process?, Option.bind_eq_bind, Option.bind_eq_some_iff, Utf8.decode?_eq_some_iff, Option.pure_def,
    Option.some.injEq, Prod.mk.injEq, fileName]
  constructor
  case mp  => exact fun ⟨_, he, _, hd, _, hp, hdir, hpid⟩ => ⟨by rw [he, ← hd, hdir], by rw [← hdir, ← hpid, hp]⟩
  case mpr => exact fun ⟨he, hp⟩ => ⟨_, he, dir, rfl, pid, hp, rfl, rfl⟩

end Identifiers

section Listing

variable {σ : Type} {entries : List (Option FileName)} {max : UInt64} {p : List Char × Pid}

-- What the system lists in the root, or nothing if it cannot.
def listed (handler : Handler files σ) (s : σ) : List (Option FileName) :=
  match (handler .listRoot s).fst with
  | .ok entries => entries
  | .error _    => []

-- The directories that a snapshot takes, with the identifiers that their names are read as.
def chosen (entries : List (Option FileName)) (max : UInt64) : List (List Char × Pid) :=
  (entries.filterMap process?).take max.toNat

theorem of_mem_chosen (h : p ∈ chosen entries max) : some (fileName p.fst) ∈ entries ∧ pid? p.fst = some p.snd := by
  have ⟨entry, hm, he⟩ := List.mem_filterMap.mp <| List.mem_of_mem_take h
  have ⟨hn, hp⟩ := process?_eq_some_iff.mp he
  exact ⟨hn ▸ hm, hp⟩

-- Different entries have different names, so no directory is taken twice.
theorem chosen_pairwise (max : UInt64) (h : (entries.filterMap id).Nodup) :
    (chosen entries max).Pairwise (·.fst ≠ ·.fst) := by
  refine List.Pairwise.sublist (List.take_sublist _ _) <| List.pairwise_filterMap.mpr ?_
  refine List.pairwise_filterMap.mp h |>.imp fun {a b} hab p hp q hq he => ?_
  have ⟨ha, _⟩ := process?_eq_some_iff.mp hp
  have ⟨hb, _⟩ := process?_eq_some_iff.mp hq
  exact hab _ ha _ hb <| congrArg fileName he

end Listing

def commPath (dir : List Char) : List FileName := [fileName dir, fileName "comm".toList]

def statmPath (dir : List Char) : List FileName := [fileName dir, fileName "statm".toList]

theorem fileName_inj {xs ys : List Char} (h : fileName xs = fileName ys) : xs = ys :=
  Option.some.inj <| (Utf8.decode?_encode xs).symm.trans <| (congrArg _ h).trans <| Utf8.decode?_encode ys

theorem commPath_inj {xs ys : List Char} (h : commPath xs = commPath ys) : xs = ys :=
  fileName_inj (List.cons.inj h).left

theorem commPath_ne_statmPath (xs ys : List Char) : commPath xs ≠ statmPath ys := fun h =>
  absurd (fileName_inj (List.cons.inj (List.cons.inj h).right).left) (by decide)

-- The name that the one file tells: the text of the directory if it is missing or empty.
def nameFrom (dir : List Char) : Except PathFailure (List UInt8) → Name
  | .ok (b :: bytes) => Name.ofBytes (b :: bytes)
  | _                => ⟨String.ofList dir⟩

def memoryFrom (pageSize : Memory) : Except PathFailure (List UInt8) → Memory
  | .ok bytes => (((Utf8.decode? bytes).bind pages?).map <| memoryOfPages pageSize).getD 0
  | .error _  => 0

-- That directories were observed one after the other, by which questions, and to which records.
inductive Observed (pageSize : Memory) : List (List Char × Pid) → List files.Exchange → List Record → Prop
  | nil : Observed pageSize [] [] []
  | cons {ps history records} (dir : List Char) (pid : Pid) (named sized : Except PathFailure (List UInt8)) :
    Observed pageSize ps history records → Observed pageSize ((dir, pid) :: ps)
    (⟨.readFile <| commPath dir, named⟩ :: ⟨.readFile <| statmPath <| Decimal.digits pid.toNat, sized⟩ :: history)
    (.running pid (nameFrom dir named) (memoryFrom pageSize sized) :: records)

section Observing

variable {σ : Type} {handler : Handler files σ} {s : σ} {pageSize : Memory} {dir : List Char} {pid : Pid}
  {ps : List (List Char × Pid)}

theorem readName_eq (dir : List Char) :
    readName dir = (do return nameFrom dir (← readFile <| commPath dir)) := by
  refine congrArg (Program.ask _) <| funext fun named => ?_
  rcases named with why | _ | ⟨b, bytes⟩ <;> rfl

theorem probeMemory_eq (h : pid ≠ 0) (pageSize : Memory) : probeMemory pageSize pid = (do
    return memoryFrom pageSize (← readFile <| statmPath <| Decimal.digits pid.toNat)) := by
  rw [probeMemory, if_neg h]
  refine congrArg (Program.ask _) <| funext fun sized => ?_
  cases sized <;> rfl

-- Two files are read: the one is found by the name that was listed, the other by the identifier.
theorem observe_leads (h : pid ≠ 0) (handler : Handler files σ) (s : σ) (pageSize : Memory) (dir : List Char) :
    ∃ named sized s', (observe pageSize dir pid).Leads handler s
      [⟨.readFile <| commPath dir, named⟩, ⟨.readFile <| statmPath <| Decimal.digits pid.toNat, sized⟩]
      (.running pid (nameFrom dir named) (memoryFrom pageSize sized)) s' := by
  refine ⟨(handler (.readFile <| commPath dir) s).fst, ?_⟩
  rw [observe, readName_eq, probeMemory_eq h]
  exact ⟨_, _, rfl, rfl, rfl⟩

-- An entry is passed over, ends the walk, or adds one record to those that are there.
theorem walk_cons (pageSize : Memory) (max : UInt64) (entry : Option FileName) (entries : List (Option FileName))
    (records : List Record) : walk pageSize max (entry :: entries) records =
      if max.toNat ≤ records.length then return records else
      match process? entry with
      | none     => walk pageSize max entries records
      | some dir => (do walk pageSize max entries (records ++ [← observe pageSize dir.fst dir.snd])) := by
  rw [walk]
  split
  case isTrue  => rfl
  case isFalse => cases process? entry <;> rfl

-- From any records on, the walk observes the first processes among the entries for which there is still room.
theorem walk_eq (pageSize : Memory) (max : UInt64) (entries : List (Option FileName)) (records : List Record) :
    walk pageSize max entries records = (do
      let rest ← ((entries.filterMap process?).take (max.toNat - records.length)).mapM fun (dir, pid) =>
        observe pageSize dir pid
      return records ++ rest) := by
  induction entries generalizing records
  case nil => simp [walk]
  case cons entry entries hi =>
    rw [walk_cons]
    split
    case isTrue hm => simp [Nat.sub_eq_zero_of_le hm]
    case isFalse hm =>
      have hs : max.toNat - records.length = max.toNat - (records.length + 1) + 1 := by omega
      cases hp : process? entry
      case none => rw [List.filterMap_cons_none hp]; exact hi records
      case some dir =>
        rw [List.filterMap_cons_some hp, hs, List.take_succ_cons, List.mapM_cons]
        simp [hi]

theorem walk_nil_eq (pageSize : Memory) (max : UInt64) (entries : List (Option FileName)) :
    walk pageSize max entries [] = (chosen entries max).mapM fun (dir, pid) => observe pageSize dir pid := by
  rw [walk_eq, chosen]
  exact bind_pure _

theorem mapM_observe_leads (h : ∀ p ∈ ps, p.snd ≠ 0) (handler : Handler files σ) (s : σ) (pageSize : Memory) :
    ∃ history records s', Observed pageSize ps history records ∧
      (ps.mapM fun (dir, pid) => observe pageSize dir pid).Leads handler s history records s' := by
  induction ps generalizing s
  case nil => exact ⟨_, _, _, .nil, Program.Leads.pure_iff.mpr ⟨rfl, rfl, rfl⟩⟩
  case cons p ps hi =>
    have ⟨hp, hps⟩ := List.forall_mem_cons.mp h
    have ⟨named, sized, s₁, h₁⟩ := observe_leads hp handler s pageSize p.fst
    have ⟨history, records, s₂, ho, h₂⟩ := hi hps s₁
    refine ⟨_, _, s₂, .cons p.fst p.snd named sized ho, ?_⟩
    rw [List.mapM_cons]
    refine Program.Leads.bind_iff.mpr ⟨_, _, _, _, h₁, ?_, rfl⟩
    refine Program.Leads.bind_iff.mpr ⟨_, _, _, [], h₂, Program.Leads.pure_iff.mpr ⟨rfl, rfl, rfl⟩, ?_⟩
    exact (List.append_nil _).symm

-- What is read comes from the directories that are chosen, after the root was listed.
theorem enumerate_leads (handler : Handler files σ) (s : σ) (pageSize : Memory) (max : UInt64) :
    ∃ front history records s', (∀ e ∈ front, e.call = .listRoot) ∧
      Observed pageSize (chosen (listed handler s) max) history records ∧
      (enumerate pageSize max).Leads handler s (front ++ history) records s' := by
  by_cases hm : max = 0
  case pos =>
    have hc : chosen (listed handler s) max = [] := by rw [hm, chosen, UInt64.toNat_zero, List.take_zero]
    refine ⟨[], [], [], s, by simp, hc ▸ .nil, ?_⟩
    rw [enumerate, if_pos hm]
    exact Program.Leads.pure_iff.mpr ⟨rfl, rfl, rfl⟩
  case neg =>
    rw [enumerate, if_neg hm]
    cases hl : (handler .listRoot s).fst
    case error why =>
      have hc : chosen (listed handler s) max = [] := by
        rw [listed, hl]
        exact List.take_nil
      refine ⟨[⟨.listRoot, .error why⟩], [], [], (handler .listRoot s).snd, List.forall_mem_singleton.mpr rfl,
        hc ▸ .nil, Program.Leads.bind_iff.mpr ⟨_, _, _, [], Program.Leads.call_iff.mpr ⟨hl, rfl, rfl⟩, ?_, rfl⟩⟩
      exact ⟨rfl, rfl, rfl⟩
    case ok entries =>
      have hp : ∀ p ∈ chosen entries max, p.snd ≠ 0 := fun p hp =>
        pid?_eq_some_iff.mp (of_mem_chosen hp).right |>.left
      have ⟨history, records, s', ho, h⟩ := mapM_observe_leads hp handler (handler .listRoot s).snd pageSize
      have he : listed handler s = entries := by rw [listed, hl]
      rw [← walk_nil_eq] at h
      exact ⟨[⟨.listRoot, .ok entries⟩], history, records, s', List.forall_mem_singleton.mpr rfl, he ▸ ho,
        Program.Leads.bind_iff.mpr ⟨_, _, _, _, Program.Leads.call_iff.mpr ⟨hl, rfl, rfl⟩, h, rfl⟩⟩

end Observing

-- The record has its name from the one directory and its memory from the other.
def TakenFrom (pageSize : Memory) (history : List files.Exchange) (dir dir' : List Char) (r : Record) : Prop :=
  ∃ named sized, ⟨.readFile <| commPath dir, named⟩ ∈ history ∧ ⟨.readFile <| statmPath dir', sized⟩ ∈ history ∧
    r = .running r.pid (nameFrom dir named) (memoryFrom pageSize sized)

-- One record for each process, all of it taken from the directory that is listed under the text of its identifier.
structure Faithful (pageSize : Memory) (entries : List (Option FileName)) (history : List files.Exchange)
    (records : List Record) : Prop where
  distinct : (records.map (·.pid)).Nodup
  listed   : ∀ r ∈ records, some (directory r.pid) ∈ entries
  taken    : ∀ r ∈ records,
    TakenFrom pageSize history (Decimal.digits r.pid.toNat) (Decimal.digits r.pid.toNat) r

namespace Observed

variable {pageSize : Memory} {dir : List Char} {ps : List (List Char × Pid)} {history : List files.Exchange}
  {records : List Record} {r : Record} {named : Except PathFailure (List UInt8)}

theorem map_pid (h : Observed pageSize ps history records) : records.map (·.pid) = ps.map (·.snd) := by
  induction h
  case nil             => rfl
  case cons dir pid hi => rw [List.map_cons, List.map_cons, hi]; rfl

-- A record has its name from the directory that was observed, and its memory from the one that its identifier names.
theorem of_mem_records (h : Observed pageSize ps history records) (hr : r ∈ records) :
    ∃ dir, (dir, r.pid) ∈ ps ∧ TakenFrom pageSize history dir (Decimal.digits r.pid.toNat) r := by
  induction h
  case nil => cases hr
  case cons ho hi =>
    cases hr
    case head => exact ⟨_, .head _, _, _, .head _, .tail _ <| .head _, rfl⟩
    case tail hr =>
      have ⟨dir, hp, named, sized, hn, hs, he⟩ := hi hr
      exact ⟨dir, .tail _ hp, named, sized, .tail _ <| .tail _ hn, .tail _ <| .tail _ hs, he⟩

-- No name is read but in the directories that were observed.
theorem of_mem_history (h : Observed pageSize ps history records)
    (hm : ⟨.readFile <| commPath dir, named⟩ ∈ history) : ∃ pid, (dir, pid) ∈ ps := by
  induction h
  case nil => cases hm
  case cons dir' pid _ _ _ hi =>
    cases List.mem_cons.mp hm
    case inl he =>
      have hd : dir = dir' := commPath_inj <| Call.readFile.inj <| congrArg (·.call) he
      exact ⟨pid, hd ▸ .head _⟩
    case inr hm =>
      cases List.mem_cons.mp hm
      case inl he => exact absurd (Call.readFile.inj <| congrArg (·.call) he) <| commPath_ne_statmPath _ _
      case inr hm =>
        have ⟨pid, hp⟩ := hi hm
        exact ⟨pid, .tail _ hp⟩

end Observed

section Faithfulness

variable {pageSize : Memory} {entries : List (Option FileName)} {max : UInt64} {front history : List files.Exchange}
  {records : List Record}

theorem Faithful.of_observed (hd : (entries.filterMap id).Nodup)
    (ho : Observed pageSize (chosen entries max) history records)
    (hz : ∀ p ∈ chosen entries max, p.fst.head? ≠ some '0') :
    Faithful pageSize entries (front ++ history) records := by
  have hp : ∀ p ∈ chosen entries max, p.fst = Decimal.digits p.snd.toNat := fun p hp =>
    eq_digits_iff (of_mem_chosen hp).right |>.mpr <| hz p hp
  refine ⟨?_, fun r hr => ?_, fun r hr => ?_⟩
  case refine_1 =>
    rw [ho.map_pid]
    refine List.pairwise_map.mpr <| (chosen_pairwise max hd).imp_of_mem fun ha hb hne he => hne ?_
    rw [hp _ ha, hp _ hb, he]
  case refine_2 =>
    have ⟨dir, hm, _⟩ := ho.of_mem_records hr
    have hdir : dir = Decimal.digits r.pid.toNat := hp _ hm
    rw [directory, ← hdir]
    exact (of_mem_chosen hm).left
  case refine_3 =>
    have ⟨dir, hm, ht⟩ := ho.of_mem_records hr
    have hdir : dir = Decimal.digits r.pid.toNat := hp _ hm
    have ⟨named, sized, hn, hs, he⟩ := hdir ▸ ht
    exact ⟨named, sized, List.mem_append_right _ hn, List.mem_append_right _ hs, he⟩

-- The name of a process was read in the directory that its identifier names, so this directory was chosen as well;
-- a second directory of the same process would make a second record.
theorem Faithful.head?_ne_zero (hf : ∀ e ∈ front, e.call = .listRoot)
    (ho : Observed pageSize (chosen entries max) history records)
    (hr : Faithful pageSize entries (front ++ history) records) :
    ∀ p ∈ chosen entries max, p.fst.head? ≠ some '0' := by
  intro p hp
  have ⟨_, hpid⟩ := of_mem_chosen hp
  have ⟨r, hm, he⟩ := List.mem_map.mp <| ho.map_pid ▸ List.mem_map_of_mem hp
  have ⟨named, _, hc, _⟩ := hr.taken r hm
  rw [he] at hc
  cases List.mem_append.mp hc
  case inl hc => cases hf _ hc
  case inr hc =>
    have ⟨pid, hq⟩ := ho.of_mem_history hc
    have hpid' := pid?_digits (pid?_eq_some_iff.mp hpid).left ▸ (of_mem_chosen hq).right
    have hd : ((chosen entries max).map (·.snd)).Nodup := ho.map_pid ▸ hr.distinct
    have hpq := List.inj_on_of_nodup_map hd hp hq <| Option.some.inj hpid'
    exact eq_digits_iff hpid |>.mp <| congrArg (·.fst) hpq

end Faithfulness

-- A snapshot has a record for every directory that it takes. It tells of each process once and from one place exactly
-- where none of these directories has a name with a zero at its front. Such names are accepted, so a root that holds
-- them is not seen as it is.
theorem snapshot_is_faithful_iff {σ : Type} (pageSize : Memory) (max : UInt64) (handler : Handler files σ) (s : σ)
    (hd : ((listed handler s).filterMap id).Nodup) :
    let run := (enumerate pageSize max).run handler s
    ∃ records, run.outcome = .ok records ∧
      records.map (·.pid) = (chosen (listed handler s) max).map (·.snd) ∧
      (Faithful pageSize (listed handler s) run.history records ↔
        ∀ p ∈ chosen (listed handler s) max, p.fst.head? ≠ some '0') := by
  have ⟨front, history, records, s', hf, ho, h⟩ := enumerate_leads handler s pageSize max
  refine ⟨records, h.outcome, ho.map_pid, ?_⟩
  rw [h.history]
  exact ⟨Faithful.head?_ne_zero hf ho, Faithful.of_observed hd ho⟩

-- A root that lists some names and holds some files, while nothing in it changes.
def root {σ : Type} (entries : List (Option FileName)) (contents : List (List FileName × List UInt8)) : Handler files σ
  | .listRoot, s      => (.ok entries, s)
  | .readFile path, s =>
    (match contents.lookup path with
      | some bytes => .ok bytes
      | none       => .error <| .system .noSuchEntry, s)
  | .bootClock, s     => (.ok 0, s)
  | .pageSize, s      => (.ok none, s)

def tidyRoot : Handler files Unit :=
  root (["1", "self", "77"].map (some <| fileName ·.toList) ++ [none])
    [(commPath ['1'], fileName "init\n".toList), (statmPath ['1'], fileName "3 1".toList)]

theorem tidyRoot_is_seen_faithfully :
    let run := (enumerate 4096 10).run tidyRoot ()
    run.outcome = .ok [.running 1 ⟨"init"⟩ 12288, .running 77 ⟨"77"⟩ 0] ∧
      Faithful 4096 (listed tidyRoot ()) run.history [.running 1 ⟨"init"⟩ 12288, .running 77 ⟨"77"⟩ 0] := by
  intro run
  have ho : run.outcome = .ok [.running 1 ⟨"init"⟩ 12288, .running 77 ⟨"77"⟩ 0] := rfl
  have ⟨records, hr, _, h⟩ := snapshot_is_faithful_iff 4096 10 tidyRoot () (by decide)
  have he := Except.ok.inj <| hr.symm.trans ho
  exact ⟨ho, he ▸ h.mpr (by decide)⟩

def twinRoot : Handler files Unit :=
  root (["7", "007"].map (some <| fileName ·.toList))
    [(commPath "7".toList, fileName ['a']), (statmPath "7".toList, fileName ['1']),
      (commPath "007".toList, fileName ['b']), (statmPath "007".toList, fileName ['9'])]

theorem twinRoot_is_seen_twice :
    let run := (enumerate 4096 10).run twinRoot ()
    ((listed twinRoot ()).filterMap id).Nodup ∧
      run.outcome = .ok [.running 7 ⟨"a"⟩ 4096, .running 7 ⟨"b"⟩ 4096] ∧
      ¬Faithful 4096 (listed twinRoot ()) run.history [.running 7 ⟨"a"⟩ 4096, .running 7 ⟨"b"⟩ 4096] :=
  ⟨by decide, rfl, fun h => absurd h.distinct (by decide)⟩

end ProcessControl.Linux
