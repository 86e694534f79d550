import ProcessControl.Proofs.Macos.Listing

namespace ProcessControl.Macos

open Program

-- The whole entries in so many bytes.
def entriesOf (size : UInt64) : UInt64 :=
  size / UInt64.ofNat entrySize

-- The room for a table of this size, reckoned in words.
def roomOf (size : UInt64) : UInt64 :=
  entriesOf size + entriesOf size / 8 + 16

-- That each step from a size to a buffer comes to the same in words as in numbers.
structure Reckoned (size : UInt64) : Prop where
  entries : (entriesOf size).toNat = size.toNat / entrySize
  sum     : (entriesOf size + entriesOf size / 8).toNat = size.toNat / entrySize + size.toNat / entrySize / 8
  room    : (roomOf size).toNat = roomFor (size.toNat / entrySize)
  bytes   : (roomOf size * UInt64.ofNat entrySize).toNat = roomFor (size.toNat / entrySize) * entrySize

-- The answer of a kernel whose table has these entries to a buffer for so many. It copies all of them and tells their
-- bytes, or it refuses.
structure Copies (found : List Entry) (room : Nat) (told : Except Errno Copied) : Prop where
  whole   : found.length ≤ room → told = .ok ⟨found.length * entrySize, found⟩
  refused : room < found.length → ∃ why, told = .error why

-- The record of a process that an entry stands for.
structure Shows (entry : Entry) (r : Record) : Prop where
  pid    : (r.pid.toNat : Int) = entry.pid.toInt
  name   : r.name? = some (Name.ofBytes entry.command)
  status : r.status = .running

-- What an answer to the copy comes to: the entries that are taken, and their records. A kernel that tells no more
-- bytes than the buffer has is enough for the entries to stay within it.
structure Lists (room : Nat) (told : Except Errno Copied) (entries : List Entry) (records : List Record) : Prop where
  failed : ∀ why, told = .error why → records = []
  taken  : ∀ copied, told = .ok copied → copied.bytes ≤ room * entrySize →
    copied.bytes / entrySize ≤ room ∧ entries.length ≤ room
  whole  : ∀ found, Copies found room told → found.length ≤ room →
    entries = found ∧ List.Forall₂ Shows (found.filter (0 < ·.pid.toInt)) records
  grown  : ∀ found, Copies found room told → room < found.length → records = []

section Reckoning

variable {size : UInt64}

theorem toNat_add_of_lt {a b : UInt64} (h : a.toNat + b.toNat < UInt64.size) : (a + b).toNat = a.toNat + b.toNat :=
  UInt64.toNat_add a b ▸ Nat.mod_eq_of_lt h

theorem toNat_entriesOf (size : UInt64) : (entriesOf size).toNat = size.toNat / entrySize :=
  UInt64.toNat_div ..

-- There are so few entries in any size that there is room in a word for some more.
theorem entries_lt (size : UInt64) : 2 * (size.toNat / entrySize) + 16 < UInt64.size := by
  have hl : size.toNat < UInt64.size := size.toNat_lt
  unfold entrySize UInt64.size at *
  omega

theorem toNat_sum (size : UInt64) :
    (entriesOf size + entriesOf size / 8).toNat = size.toNat / entrySize + size.toNat / entrySize / 8 := by
  have he : (entriesOf size / 8).toNat = size.toNat / entrySize / 8 :=
    (UInt64.toNat_div ..).trans <| congrArg (· / 8) <| toNat_entriesOf size
  have hl := entries_lt size
  rw [toNat_add_of_lt, he, toNat_entriesOf]
  rw [he, toNat_entriesOf]
  omega

theorem toNat_roomOf (size : UInt64) : (roomOf size).toNat = roomFor (size.toNat / entrySize) := by
  have hl := entries_lt size
  have hn : (16 : UInt64).toNat = 16 := rfl
  rw [roomOf, toNat_add_of_lt, toNat_sum, hn, roomFor]
  rw [toNat_sum, hn]
  omega

theorem fits_ok_iff {bytes : Nat} : Fits (.ok bytes) ↔ roomFor (bytes / entrySize) * entrySize ≤ largestBuffer :=
  ⟨fun h => h bytes rfl, fun h _ he => Except.ok.inj he ▸ h⟩

-- Only the product needs a buffer that can be had.
theorem reckoned_of_fits (h : Fits (.ok size.toNat)) : Reckoned size := by
  refine ⟨toNat_entriesOf size, toNat_sum size, toNat_roomOf size, ?_⟩
  rw [UInt64.toNat_mul, toNat_roomOf]
  exact Nat.mod_eq_of_lt <| Nat.lt_of_le_of_lt (fits_ok_iff.mp h) (by decide)

end Reckoning

section Entries

variable {entry : Entry} {entries : List Entry} {max : UInt64} {history : List kernel.Exchange} {records : List Record}
  {r : Record}

theorem shows_of_looked {p : Pid × Name} (hp : process? entry = some p) (h : Looked p history r) : Shows entry r := by
  have ⟨_, hpid, hname⟩ := process?_eq_some_iff.mp hp
  obtain ⟨_, _, rfl⟩ := h
  exact ⟨hpid, congrArg some hname, rfl⟩

-- Entry by entry: one that stands for no process is passed over on both sides.
theorem forall₂_shows (h : Surveyed Looked (entries.filterMap process?) history records) :
    List.Forall₂ Shows (entries.filter (0 < ·.pid.toInt)) records := by
  induction entries generalizing history records
  case nil =>
    cases h
    exact .nil
  case cons entry entries hi =>
    cases hp : process? entry
    case none =>
      rw [List.filterMap_cons_none hp] at h
      have hn : ¬0 < entry.pid.toInt := fun hn => nomatch hp.symm.trans (if_pos hn)
      rw [List.filter_cons_of_neg (by simpa using hn)]
      exact hi h
    case some p =>
      rw [List.filterMap_cons_some hp] at h
      have hn := (process?_eq_some_iff.mp hp).left
      rw [List.filter_cons_of_pos (by simpa using hn)]
      cases h
      case cons hl hs => exact .cons (shows_of_looked hp hl) (hi hs)

theorem chosen_eq_self (h : entries.length ≤ max.toNat) : chosen entries max = entries.filterMap process? :=
  List.take_of_length_le <| Nat.le_trans (List.length_filterMap_le ..) h

theorem eq_nil_of_surveyed (h : Surveyed Looked (chosen [] max) history records) : records = [] :=
  List.eq_nil_of_length_eq_zero <| Nat.le_zero.mp <| h.length_eq ▸ List.length_take_le' ..

end Entries

section Runs

variable {σ : Type} {handler : Handler kernel σ} {s : σ} {max : UInt64} {why : Errno} {bytes : Nat}

theorem listed_of_untold (h : (handler .tableSize s).fst = .error why) : listed handler s = [] := by
  rw [listed, h]
  rfl

theorem listed_of_ok (h : (handler .tableSize s).fst = .ok bytes) :
    listed handler s = copied (.ok bytes) fun room => (handler (.tableCopy room) (handler .tableSize s).snd).fst := by
  rw [listed, h]

theorem table_leads (hs : (handler .tableSize s).fst = .ok bytes) (hf : Fits (.ok bytes)) :
    let room := roomFor (bytes / entrySize)
    let copy := handler (.tableCopy room) (handler .tableSize s).snd
    table.Leads handler s [⟨.tableSize, .ok bytes⟩, ⟨.tableCopy room, copy.fst⟩] (listed handler s) copy.snd := by
  intro room copy
  rw [listed_of_ok hs]
  have hn := Nat.not_lt.mpr <| fits_ok_iff.mp hf
  refine Leads.bind_iff.mpr ⟨_, _, _, [_], .asked hs, .of_neg hn ?_, rfl⟩
  refine Leads.bind_iff.mpr ⟨_, _, _, [], .asked rfl, ?_, rfl⟩
  dsimp only [copied]
  cases copy.fst
  case error => exact (Leads.noticed _).bind <| .done _
  case ok    => exact .done _

-- A listing whose table has been copied goes on with it.
theorem enumerate_leads_of_ok (hm : max ≠ 0) (hs : (handler .tableSize s).fst = .ok bytes) (hf : Fits (.ok bytes)) :
    let run := (enumerate max).run handler s
    ∃ history records, Surveyed Looked (chosen (listed handler s) max) history records ∧ run.outcome = .ok records ∧
      [.tableSize, .tableCopy <| roomFor <| bytes / entrySize] <+: run.calls := by
  have ⟨history, records, _, hv, hl⟩ := enumerate_leads hm <| table_leads hs hf
  refine ⟨history, records, hv, hl.outcome, ?_⟩
  rw [Run.calls, hl.history, List.map_append]
  exact List.prefix_append ..

end Runs

section Copies

variable {bytes : Nat} {copy : Nat → Except Errno Copied}

theorem copied_of_error {why : Errno} (h : copy (roomFor <| bytes / entrySize) = .error why) :
    copied (.ok bytes) copy = [] := by
  rw [copied, h]

theorem copied_of_ok {told : Copied} (h : copy (roomFor <| bytes / entrySize) = .ok told) :
    copied (.ok bytes) copy = told.entries.take (told.bytes / entrySize) := by
  rw [copied, h]

theorem lists_of_surveyed {max : UInt64} {history : List kernel.Exchange} {records : List Record}
    (hm : roomFor (bytes / entrySize) ≤ max.toNat)
    (h : Surveyed Looked (chosen (copied (.ok bytes) copy) max) history records) :
    let room := roomFor (bytes / entrySize)
    Lists room (copy room) (copied (.ok bytes) copy) records where
  failed why ht := by
    rw [copied_of_error ht] at h
    exact eq_nil_of_surveyed h
  taken told ht hb := by
    have hq : told.bytes / entrySize ≤ roomFor (bytes / entrySize) := Nat.div_le_of_le_mul <| Nat.mul_comm .. ▸ hb
    exact ⟨hq, copied_of_ok ht ▸ Nat.le_trans (List.length_take_le ..) hq⟩
  whole found hc hl := by
    have hq : found.length * entrySize / entrySize = found.length := Nat.mul_div_cancel _ (by decide)
    have he : copied (.ok bytes) copy = found := by
      rw [copied_of_ok <| hc.whole hl, hq, List.take_length]
    rw [he, chosen_eq_self <| Nat.le_trans hl hm] at h
    exact ⟨he, forall₂_shows h⟩
  grown found hc hl := by
    have ⟨_, ht⟩ := hc.refused hl
    rw [copied_of_error ht] at h
    exact eq_nil_of_surveyed h

end Copies

-- Whatever the kernel tells of the size and of the copy, a listing without a bound has the entries of a table that fits
-- into the room for the size, and otherwise none.
theorem growing_table_is_listed {σ : Type} (handler : Handler kernel σ) (s : σ) :
    let run := (enumerate Table.everything).run handler s
    (∀ why, (handler .tableSize s).fst = .error why → run.outcome = .ok []) ∧
    ∀ size : UInt64, (handler .tableSize s).fst = .ok size.toNat → Fits (.ok size.toNat) →
      let room := roomFor (size.toNat / entrySize)
      let told := (handler (.tableCopy room) (handler .tableSize s).snd).fst
      Reckoned size ∧ [.tableSize, .tableCopy room] <+: run.calls ∧
        ∃ entries records, (table.run handler s).outcome = .ok entries ∧ run.outcome = .ok records ∧
          Lists room told entries records := by
  have hm : Table.everything ≠ 0 := by decide
  constructor
  case left =>
    intro why hs
    have ht : (table.run handler s).outcome = .ok [] := by
      rw [table_outcome (hs ▸ nofun), listed_of_untold hs]
    have ⟨_, _, _, hv, hl⟩ := enumerate_leads hm <| .of_outcome ht
    exact eq_nil_of_surveyed hv ▸ hl.outcome
  case right =>
    intro size hs hf room told
    have ⟨history, records, hv, ho, hc⟩ := enumerate_leads_of_ok hm hs hf
    have hr := reckoned_of_fits hf
    have hl : (roomOf size).toNat ≤ Table.everything.toNat := Nat.le_of_lt_succ (roomOf size).toNat_lt
    rw [hr.room] at hl
    rw [listed_of_ok hs] at hv
    exact ⟨hr, hc, _, records, (table_leads hs hf).outcome, ho, listed_of_ok hs ▸ lists_of_surveyed hl hv⟩

-- A kernel that told of so many bytes before its table had these entries.
def grownTo (bytes : Nat) (found : List Entry) : Handler kernel Unit
  | .tableSize, s      => (.ok bytes, s)
  | .tableCopy room, s =>
    if found.length ≤ room then (.ok ⟨found.length * entrySize, found⟩, s) else (.error .outOfMemory, s)
  | .taskInfo _, s     => (⟨taskSize, 4096⟩, s)
  | .bsdInfo _, s      => (⟨0, 0⟩, s)
  | .bootTime, s       => ((0, none), s)

theorem copies_grownTo (bytes : Nat) (found : List Entry) (room : Nat) :
    Copies found room (grownTo bytes found (.tableCopy room) ()).fst where
  whole h   := by rw [grownTo, if_pos h]
  refused h := ⟨.outOfMemory, by rw [grownTo, if_neg (Nat.not_le.mpr h)]⟩

-- One process among entries that stand for none, the last of which is there as often as said.
def crowd (idle : Nat) : List Entry :=
  [⟨0, []⟩, ⟨7, [0x61, 0x0, 0x62]⟩] ++ List.replicate idle ⟨-1, []⟩

-- Too few bytes for one entry leave room for sixteen. So many are listed, and one more is too much.
theorem growing_table_is_listed_crowd :
    let listing (idle : Nat) := ((enumerate Table.everything).run (grownTo 647 <| crowd idle) ()).outcome
    (∃ r, listing 14 = .ok [r] ∧ r.pid = 7 ∧ r.name? = some ⟨"a"⟩) ∧ listing 15 = .ok [] := by
  intro listing
  have hf : Fits (.ok (647 : UInt64).toNat) := fits_ok_iff.mpr (by decide)
  constructor
  case left =>
    have ⟨_, _, _, records, _, ho, hl⟩ := (growing_table_is_listed (grownTo 647 <| crowd 14) ()).right 647 rfl hf
    have ⟨_, hs⟩ := hl.whole (crowd 14) (copies_grownTo ..) (by decide)
    obtain ⟨r, _, hr, hn, rfl⟩ := List.forall₂_cons_left_iff.mp (show List.Forall₂ Shows [_] records from hs)
    cases hn
    exact ⟨r, ho, UInt32.toNat_inj.mp <| Int.ofNat.inj hr.pid, hr.name⟩
  case right =>
    have ⟨_, _, _, _, _, ho, hl⟩ := (growing_table_is_listed (grownTo 647 <| crowd 15) ()).right 647 rfl hf
    rw [hl.grown (crowd 15) (copies_grownTo ..) (by decide)] at ho
    exact ho

end ProcessControl.Macos
