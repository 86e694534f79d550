import ProcessControl.Proofs.Linux.Listing

namespace ProcessControl.Linux

open Program Text

def number (name : FileName) : Nat :=
  name.foldl (fun n b => 10 * n + (b.toNat - 0x30)) 0

-- A name that is made of ASCII digits and denotes a number of 32 bits that is not zero.
def IsIdentifier (name : FileName) : Prop :=
  name ≠ [] ∧ (∀ b ∈ name, 0x30 ≤ b.toNat ∧ b.toNat ≤ 0x39) ∧ 1 ≤ number name ∧ number name ≤ 0xFFFFFFFF

-- This runs through the bytes of the name; the quantifier alone would be decided over all bytes that there are.
instance : DecidablePred IsIdentifier := fun name =>
  let digit (b : UInt8) : Bool := decide (0x30 ≤ b.toNat ∧ b.toNat ≤ 0x39)
  decidable_of_iff (name ≠ [] ∧ name.all digit = true ∧ 1 ≤ number name ∧ number name ≤ 0xFFFFFFFF) <| by
    simp only [IsIdentifier, digit, List.all_eq_true, decide_eq_true_eq]

def identifier? (entry : Option FileName) : Option Nat :=
  (entry.filter (IsIdentifier ·)).map number

section Names

variable {name : FileName} {dir : List Char} {pid : Pid}

theorem fileName_eq_map (h : ∀ c ∈ dir, Decimal.isDigit c = true) :
    fileName dir = dir.map fun c => UInt8.ofNat c.toNat := by
  refine Utf8.encode_eq_map fun c hc => ?_
  have ⟨_, _⟩ := Decimal.isDigit_iff.mp <| h c hc
  omega

theorem toNat_ofNat_digit {c : Char} (h : Decimal.isDigit c = true) : (UInt8.ofNat c.toNat).toNat = c.toNat := by
  have ⟨_, _⟩ := Decimal.isDigit_iff.mp h
  exact UInt8.toNat_ofNat_of_lt' <| by unfold UInt8.size; omega

-- The bytes of a name denote the same as its characters.
theorem number_fileName (h : ∀ c ∈ dir, Decimal.isDigit c = true) : number (fileName dir) = Decimal.value dir := by
  rw [fileName_eq_map h, number, List.foldl_map, Decimal.value]
  refine List.foldl_ext _ _ 0 fun n c hc => ?_
  rw [toNat_ofNat_digit <| h c hc]
  rfl

theorem exists_fileName (h : ∀ b ∈ name, 0x30 ≤ b.toNat ∧ b.toNat ≤ 0x39) :
    ∃ dir, name = fileName dir ∧ ∀ c ∈ dir, Decimal.isDigit c = true := by
  have ha : ∀ b ∈ name, b.toNat < 0x80 := fun b hb => Nat.lt_of_le_of_lt (h b hb).right (by decide)
  refine ⟨_, (Utf8.encode_map_ofNat ha).symm, fun c hc => ?_⟩
  have ⟨b, hb, he⟩ := List.mem_map.mp hc
  have hv : (Char.ofNat b.toNat).toNat = b.toNat := (Utf8.Sequence.one (ha b hb) rfl).toNat_ofNat
  rw [← he, Decimal.isDigit_iff, hv]
  exact h b hb

theorem isIdentifier_iff :
    IsIdentifier name ∧ number name = pid.toNat ↔ ∃ dir, process? (some name) = some (dir, pid) := by
  simp only [process?_eq_some_iff, Option.some.injEq]
  constructor
  case mp =>
    rintro ⟨⟨hn, hb, hp, _⟩, he⟩
    obtain ⟨dir, rfl, hd⟩ := exists_fileName hb
    have hv := (number_fileName hd).symm.trans he
    refine ⟨dir, rfl, pid?_eq_some_iff_value.mpr ⟨?_, hd, hv, he ▸ hp⟩⟩
    rintro rfl
    exact hn rfl
  case mpr =>
    rintro ⟨dir, rfl, hp⟩
    obtain ⟨hn, hd, hv, hp⟩ := pid?_eq_some_iff_value.mp hp
    have he := (number_fileName hd).trans hv
    refine ⟨⟨fun h => hn ?_, fun b hb => ?_, he ▸ hp, ?_⟩, he⟩
    case refine_1 => exact fileName_inj h
    case refine_2 =>
      rw [fileName_eq_map hd] at hb
      have ⟨c, hc, hcb⟩ := List.mem_map.mp hb
      rw [← hcb, toNat_ofNat_digit <| hd c hc]
      exact Decimal.isDigit_iff.mp <| hd c hc
    case refine_3 => exact he ▸ Nat.le_of_lt_succ pid.toNat_lt

-- Exactly the names of identifiers stand for processes.
theorem map_process? (entry : Option FileName) : (process? entry).map (·.snd.toNat) = identifier? entry := by
  ext n
  simp only [identifier?, Option.map_eq_some_iff, Option.filter_eq_some_iff, decide_eq_true_eq]
  constructor
  case mp =>
    rintro ⟨⟨dir, pid⟩, hp, rfl⟩
    have ⟨he, _⟩ := process?_eq_some_iff.mp hp
    have ⟨hn, hv⟩ := isIdentifier_iff.mpr ⟨dir, he ▸ hp⟩
    exact ⟨_, ⟨he, hn⟩, hv⟩
  case mpr =>
    rintro ⟨name, ⟨rfl, hn⟩, rfl⟩
    have hl : number name < UInt32.size := Nat.lt_succ_of_le hn.right.right.right
    have hp : number name = (UInt32.ofNat (number name)).toNat := (UInt32.toNat_ofNat_of_lt' hl).symm
    have ⟨dir, hd⟩ := isIdentifier_iff.mp ⟨hn, hp⟩
    exact ⟨_, hd, hp.symm⟩

end Names

section Listing

variable {entries : List (Option FileName)} {max : UInt64} {pageSize : Memory} {front history : List files.Exchange}
  {records : List Record}

theorem map_chosen (entries : List (Option FileName)) (max : UInt64) :
    (chosen entries max).map (·.snd.toNat) = (entries.filterMap identifier?).take max.toNat := by
  rw [chosen, List.map_take, List.map_filterMap]
  simp only [map_process?]

-- A file that is read for a snapshot lies in the directory of a process.
def OfProcess (entries : List (Option FileName)) (path : List FileName) : Prop :=
  ∃ name, some name ∈ entries ∧ IsIdentifier name ∧
    (path = [name, fileName "comm".toList] ∨ path = statmPath (Decimal.digits (number name)))

theorem ofProcess_of_mem_chosen {p : List Char × Pid} (h : p ∈ chosen entries max) :
    OfProcess entries (commPath p.fst) ∧ OfProcess entries (statmPath <| Decimal.digits p.snd.toNat) := by
  have ⟨hm, hp⟩ := of_mem_chosen h
  have ⟨hn, hv⟩ := isIdentifier_iff.mpr ⟨p.fst, process?_eq_some_iff.mpr ⟨rfl, hp⟩⟩
  exact ⟨⟨_, hm, hn, .inl rfl⟩, ⟨_, hm, hn, .inr <| hv ▸ rfl⟩⟩

theorem Observed.ofProcess {ps : List (List Char × Pid)} (h : Observed pageSize ps history records)
    (hp : ∀ p ∈ ps, p ∈ chosen entries max) : ∀ e ∈ history, ∀ path, e.call = .readFile path →
      OfProcess entries path := by
  induction h
  case nil => exact List.forall_mem_nil _
  case cons dir pid named sized _ hi =>
    have ⟨hd, hp⟩ := List.forall_mem_cons.mp hp
    have ⟨hc, hs⟩ := ofProcess_of_mem_chosen hd
    refine List.forall_mem_cons.mpr ⟨?_, List.forall_mem_cons.mpr ⟨?_, hi hp⟩⟩
    case refine_1 => rintro path ⟨⟩; exact hc
    case refine_2 => rintro path ⟨⟩; exact hs

-- Nothing is asked but for the root and for the files of processes.
theorem ofProcess_of_mem_calls {path : List FileName} (hf : ∀ e ∈ front, e.call = .listRoot)
    (ho : Observed pageSize (chosen entries max) history records)
    (hc : .readFile path ∈ (front ++ history).map (·.call)) : OfProcess entries path := by
  have ⟨e, hm, hc⟩ := List.mem_map.mp hc
  cases List.mem_append.mp hm
  case inl hm => cases (hf e hm).symm.trans hc
  case inr hm => exact ho.ofProcess (fun _ hp => hp) e hm path hc

-- An unreadable root has no entries, so that nothing is chosen from it.
theorem chosen_of_unreadable {σ : Type} {handler : Handler files σ} {s : σ} {why : PathFailure}
    (h : (handler .listRoot s).fst = .error why) : chosen (listed handler s) max = [] := by
  rw [listed, h]
  exact List.take_nil

theorem Observed.map_toNat {ps : List (List Char × Pid)} (h : Observed pageSize ps history records) :
    records.map (·.pid.toNat) = ps.map (·.snd.toNat) := by
  have hm := congrArg (List.map UInt32.toNat) h.map_pid
  rwa [List.map_map, List.map_map] at hm

theorem Observed.eq_nil (h : Observed pageSize [] history records) : records = [] := by
  cases h
  rfl

end Listing

-- A listing has the identifiers among the names in the order of the entries, and all of them if it may be as long. What
-- is no identifier gives no record, and the files that lie under it are not read.
theorem listing_is_complete {σ : Type} (pageSize : Memory) (handler : Handler files σ) (s : σ) :
    (∀ max why, (handler .listRoot s).fst = .error why →
      ((enumerate pageSize max).run handler s).outcome = .ok []) ∧
    ∀ entries, (handler .listRoot s).fst = .ok entries → ∀ max,
      let run := (enumerate pageSize max).run handler s
      ∃ records, run.outcome = .ok records ∧
        records.map (·.pid.toNat) = (entries.filterMap identifier?).take max.toNat ∧
        ((entries.filterMap identifier?).length ≤ max.toNat →
          records.map (·.pid.toNat) = entries.filterMap identifier?) ∧
        ∀ path, .readFile path ∈ run.calls → OfProcess entries path := by
  constructor
  case left =>
    intro max why hl
    have ⟨_, _, records, _, _, ho, h⟩ := enumerate_leads handler s pageSize max
    rw [chosen_of_unreadable hl] at ho
    exact ho.eq_nil ▸ h.outcome
  case right =>
    intro entries hl max
    have ⟨front, history, records, _, hf, ho, h⟩ := enumerate_leads handler s pageSize max
    have he : listed handler s = entries := by rw [listed, hl]
    rw [he] at ho
    have hp := ho.map_toNat.trans <| map_chosen entries max
    refine ⟨records, h.outcome, hp, fun hm => hp.trans <| List.take_of_length_le hm, fun path hc => ?_⟩
    rw [Run.calls, h.history] at hc
    exact ofProcess_of_mem_calls hf ho hc

-- Zeros at the front and the greatest number of 32 bits are accepted. A sign, a space, a digit of another script, bytes
-- that are no text, an empty name, zero and the next greater number are not, whatever lies there.
def motleyRoot : Handler files Unit :=
  root ([[], [0xFF, 0x31], [0xD9, 0xA1]].map some ++ [none] ++
      ["007", "+5", " 5", "0", "4294967295", "4294967296", "self", "1"].map (some <| fileName ·.toList))
    [(commPath "+5".toList, fileName "five".toList), (commPath ['1'], fileName "init\n".toList)]

def lostRoot : Handler files Unit
  | .listRoot, s => (.error <| .system .noSuchEntry, s)
  | call, s      => motleyRoot call s

theorem listing_is_complete_motley :
    (∃ records, ((enumerate 4096 Table.everything).run motleyRoot ()).outcome = .ok records ∧
      records.map (·.pid.toNat) = [7, 4294967295, 1] ∧ OfProcess (listed motleyRoot ()) (commPath "007".toList)) ∧
    ((enumerate 4096 Table.everything).run lostRoot ()).outcome = .ok [] := by
  constructor
  case left =>
    have ⟨records, ho, _, hr, hc⟩ :=
      (listing_is_complete 4096 motleyRoot ()).right (listed motleyRoot ()) rfl Table.everything
    exact ⟨records, ho, hr (by decide), hc _ <| List.mem_of_getElem? (i := 1) rfl⟩
  case right => exact (listing_is_complete 4096 lostRoot ()).left Table.everything _ rfl

end ProcessControl.Linux
