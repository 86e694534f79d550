import ProcessControl.Proofs.Json.Members
import ProcessControl.Proofs.Record

namespace ProcessControl

open Json Json.Reader Json.Grammar Text

namespace Name

theorem skipsBlanks_read : read.SkipsBlanks :=
  (skipsBlanks_peek? _ : Json.Reader.text.SkipsBlanks).bind _

theorem answersValues_read : read.AnswersValues :=
  answersValues_text.map mk

end Name

namespace Record

def names : List String :=
  ["pid", "display_name", "memory_usage", "status"]

theorem orderly_members : Orderly members where
  answers := by
    intro m hm d
    simp only [members, List.mem_cons, List.not_mem_nil, or_false] at hm
    rcases hm with rfl | rfl | rfl | rfl
    case inl         => exact (answersValues_natural _ _).map fun n => { d with pid? := some (UInt32.ofNat n) }
    case inr.inl     =>
      have hn := answersValues_optional Name.skipsBlanks_read Name.answersValues_read
      exact hn.map fun n => { d with name? := some n }
    case inr.inr.inl => exact (answersValues_natural _ _).map fun n => { d with memory? := some (UInt64.ofNat n) }
    case inr.inr.inr => exact (answersValues_oneOf _).map fun s => { d with status? := some s }
  given := by
    intro m hm d bytes d' left h
    simp only [members, List.mem_cons, List.not_mem_nil, or_false] at hm
    rcases hm with rfl | rfl | rfl | rfl
    all_goals
      obtain ⟨a, middle, _, hp⟩ := gives_bind_iff.mp h
      obtain ⟨rfl, _⟩ := (Gives.pure _ middle).iff.mp hp
      simp [members]

variable {r : Record} {d d' : Draft} {p : Part} {parts : List Part} {given given' : List String} {k : String}
  {v : Json.Value}

-- What a member of an object holds, if the object says of it what the record says.
def Tells (r : Record) (p : Part) : Prop :=
  ∀ v, r.toJson.get? p.name = some v →
    ∃ before after, Blank before ∧ Blank after ∧ p.value = before ++ (Utf8.encode v.chars ++ after)

-- The members of a record that an object gives, in their order.
def told (parts : List Part) : List String :=
  (parts.map Part.name).filter (· ∈ names)

-- What is known of a record when some of its members have been read.
def draft (r : Record) (given : List String) : Draft where
  pid?    := if "pid" ∈ given then some r.pid else none
  name?   := if "display_name" ∈ given then some r.name? else none
  memory? := if "memory_usage" ∈ given then some r.memory else none
  status? := if "status" ∈ given then some r.status else none

theorem draft_congr (h : ∀ k, k ∈ given ↔ k ∈ given') : r.draft given = r.draft given' := by
  simp only [draft, h]

theorem gives_padded {α : Type} {reader : Reader α} {a : α} {before after : List UInt8} (hs : reader.SkipsBlanks)
    (h : reader.Reads v a) (hb : Blank before) (ha : Blank after) :
    reader.Gives (before ++ (Utf8.encode v.chars ++ after)) a after := by
  have hc : Closes after := List.append_nil after ▸ closes_blank ha nofun
  exact (hs _ _ hb).trans <| h after hc

theorem isSome_given {α : Type} (a : α) (k : String) (given : List String) :
    (if k ∈ given then some a else none).isSome = decide (k ∈ given) := by
  split
  case isTrue h  => exact (decide_eq_true h).symm
  case isFalse h => exact (decide_eq_false h).symm

-- Each member of a record is read into its own place.
theorem exists_member (r : Record) (h : k ∈ names) : ∃ m v, members.find? (·.name == k) = some m ∧
    r.toJson.get? k = some v ∧ ∀ given, m.given (r.draft given) = decide (k ∈ given) ∧
      (m.read (r.draft given)).SkipsBlanks ∧ (m.read (r.draft given)).Reads v (r.draft (k :: given)) := by
  simp only [names, List.mem_cons, List.not_mem_nil, or_false] at h
  rcases h with rfl | rfl | rfl | rfl
  case inl =>
    refine ⟨_, _, rfl, rfl, fun given => ⟨isSome_given r.pid _ given, (skipsBlanks_natural _ _).bind _, ?_⟩⟩
    have hp : r.pid.toNat < UInt64.size := Nat.lt_trans r.pid.toNat_lt_size (by decide)
    have hr := (reads_natural "u32" hp r.pid.toNat_lt_size).map
      fun n => { r.draft given with pid? := some (UInt32.ofNat n) }
    have hd : { r.draft given with pid? := some (UInt32.ofNat r.pid.toNat) } = r.draft ("pid" :: given) := by
      simp [draft]
    exact hd ▸ hr
  case inr.inl =>
    refine ⟨_, _, rfl, rfl, fun given => ⟨isSome_given r.name? _ given, (skipsBlanks_optional _).bind _, ?_⟩⟩
    have hr := (Name.reads_toJson? r.name?).map fun n => { r.draft given with name? := some n }
    have hd : { r.draft given with name? := some r.name? } = r.draft ("display_name" :: given) := by
      simp [draft]
    exact hd ▸ hr
  case inr.inr.inl =>
    refine ⟨_, _, rfl, rfl, fun given => ⟨isSome_given r.memory _ given, (skipsBlanks_natural _ _).bind _, ?_⟩⟩
    have hr := (reads_natural "usize" r.memory.toNat_lt_size r.memory.toNat_lt_size).map
      fun n => { r.draft given with memory? := some (UInt64.ofNat n) }
    have hd : { r.draft given with memory? := some (UInt64.ofNat r.memory.toNat) } =
        r.draft ("memory_usage" :: given) := by
      simp [draft]
    exact hd ▸ hr
  case inr.inr.inr =>
    refine ⟨_, _, rfl, rfl, fun given => ⟨isSome_given r.status _ given, (skipsBlanks_oneOf _).bind _, ?_⟩⟩
    have hr := r.status.reads_toJson.map fun s => { r.draft given with status? := some s }
    have hd : { r.draft given with status? := some r.status } = r.draft ("status" :: given) := by
      simp [draft]
    exact hd ▸ hr

theorem taken_of_mem (ht : r.Tells p) (hk : p.name ∈ names) (hg : p.name ∉ given) :
    Taken members (r.draft given) p (r.draft (p.name :: given)) := by
  obtain ⟨m, v, hf, hv, hm⟩ := exists_member r hk
  obtain ⟨hg', hs, hr⟩ := hm given
  obtain ⟨before, after, hb, ha, hw⟩ := ht v hv
  rw [Taken, hf, hw]
  exact ⟨hg'.trans <| decide_eq_false hg, after, gives_padded hs hr hb ha⟩

theorem taken_of_not_mem (hk : p.name ∉ names) : Taken members d p d := by
  have hf : members.find? (·.name == p.name) = none := by
    refine List.find?_eq_none.mpr fun m hm he => hk ?_
    have hn : m.name ∈ members.map (·.name) := List.mem_map_of_mem hm
    exact beq_iff_eq.mp he ▸ hn
  rw [Taken, hf]

theorem told_cons_of_mem (hk : p.name ∈ names) (parts : List Part) : told (p :: parts) = p.name :: told parts :=
  List.filter_cons_of_pos <| decide_eq_true hk

theorem told_cons_of_not_mem (hk : p.name ∉ names) (parts : List Part) : told (p :: parts) = told parts :=
  List.filter_cons_of_neg <| Bool.eq_false_iff.mp <| decide_eq_false hk

theorem mem_told_iff (hk : k ∈ names) : k ∈ told parts ↔ k ∈ parts.map Part.name := by
  rw [told, List.mem_filter, decide_eq_true_eq, and_iff_left hk]

theorem count_told (hk : k ∈ names) (parts : List Part) : (told parts).count k = (parts.map Part.name).count k :=
  List.count_filter <| decide_eq_true hk

-- The members that an object gives are known of the record in the end.
theorem takes_of_tells (ht : ∀ p ∈ parts, r.Tells p) (hn : (told parts).Nodup) (hd : ∀ k ∈ told parts, k ∉ given) :
    Takes members (r.draft given) parts (r.draft ((told parts).reverse ++ given)) := by
  induction parts generalizing given
  case nil => exact .nil _
  case cons p parts hi =>
    have ⟨hp, ht⟩ := List.forall_mem_cons.mp ht
    by_cases hk : p.name ∈ names
    case pos =>
      rw [told_cons_of_mem hk] at hn hd ⊢
      have ⟨hpn, hn⟩ := List.nodup_cons.mp hn
      have ⟨hpg, hd⟩ := List.forall_mem_cons.mp hd
      have hg : ∀ k ∈ told parts, k ∉ p.name :: given := by
        intro k hk hm
        cases List.mem_cons.mp hm
        case inl he => exact hpn (he ▸ hk)
        case inr hm => exact hd k hk hm
      rw [List.reverse_cons, List.append_assoc]
      exact .cons (taken_of_mem hp hk hpg) <| hi ht hn hg
    case neg =>
      rw [told_cons_of_not_mem hk] at hn hd ⊢
      exact .cons (taken_of_not_mem hk) <| hi ht hn hd

theorem complete_draft (r : Record) : (r.draft names).complete = .ok r :=
  rfl

theorem complete_draft_unnamed (r : Record) :
    (r.draft (names.erase "display_name")).complete = .ok { r with name? := none } :=
  rfl

theorem given_of_complete {m : Member Draft} (hd : d.complete = .ok r) (hk : k ∈ names) (hn : k ≠ "display_name")
    (hf : members.find? (·.name == k) = some m) : m.given d = true := by
  obtain ⟨pid?, name?, memory?, status?⟩ := d
  cases pid?
  case none => cases hd
  case some =>
    cases memory?
    case none => cases hd
    case some =>
      cases status?
      case none => cases hd
      case some =>
        simp only [names, List.mem_cons, List.not_mem_nil, or_false] at hk
        rcases hk with rfl | rfl | rfl | rfl
        case inr.inl => contradiction
        all_goals
          cases hf
          rfl

section Texts

variable {before after : List UInt8} (hb : Blank before) (ha : Blank after)

include hb ha

theorem readAll_of_tells (ht : ∀ p ∈ parts, r.Tells p) (hg : (told parts).Perm given) (hn : given.Nodup) {r' : Record}
    (hr : (r.draft given).complete = .ok r') : read.readAll (before ++ (object parts ++ after)) = .ok r' := by
  refine (readAll_aggregate_iff orderly_members _ _ _ hb ha).mpr ⟨r.draft given, ?_, hr⟩
  have hd : r.draft ((told parts).reverse ++ []) = r.draft given :=
    draft_congr fun k => by rw [List.append_nil, List.mem_reverse, hg.mem_iff]
  have he : Draft.empty = r.draft [] := rfl
  rw [he, ← hd]
  exact takes_of_tells ht (hg.nodup_iff.mpr hn) fun _ _ => List.not_mem_nil

theorem told_of_readAll (hr : read.readAll (before ++ (object parts ++ after)) = .ok r) (hk : k ∈ names) :
    (k ≠ "display_name" → k ∈ told parts) ∧ (told parts).count k ≤ 1 := by
  have ⟨d, ht, hd⟩ := (readAll_aggregate_iff orderly_members _ _ _ hb ha).mp hr
  have ⟨m, _, hf, _, hm⟩ := exists_member r hk
  have he : m.given Draft.empty = false := (hm []).left
  have hc := ht.count_le orderly_members hf
  rw [he, ← count_told hk] at hc
  refine ⟨fun hn => ?_, hc⟩
  have hg := (ht.given_iff orderly_members hf).mp <| given_of_complete hd hk hn hf
  rw [he, or_iff_right Bool.false_ne_true] at hg
  exact (mem_told_iff hk).mpr hg

end Texts

theorem refused_of_not_read {bytes : List UInt8} (h : ∀ r, read.readAll bytes ≠ .ok r) :
    ∃ fault, read.readAll bytes = .error fault := by
  cases hr : read.readAll bytes
  case error fault => exact ⟨fault, rfl⟩
  case ok r        => exact absurd hr <| h r

theorem members_come_in_any_order (before after : List UInt8) (parts : List Part) (hb : Blank before)
    (ha : Blank after) :
    (∀ r : Record, (∀ p ∈ parts, r.Tells p) →
      ((told parts).Perm names → read.readAll (before ++ (object parts ++ after)) = .ok r) ∧
      ((told parts).Perm (names.erase "display_name") →
        read.readAll (before ++ (object parts ++ after)) = .ok { r with name? := none })) ∧
    (∀ k ∈ names, k ≠ "display_name" → k ∉ told parts →
      ∃ fault, read.readAll (before ++ (object parts ++ after)) = .error fault) ∧
    ∀ k ∈ names, 2 ≤ (told parts).count k →
      ∃ fault, read.readAll (before ++ (object parts ++ after)) = .error fault := by
  refine ⟨fun r ht => ⟨fun hg => ?_, fun hg => ?_⟩, fun k hk hn hg => ?_, fun k hk hg => ?_⟩
  case refine_1 => exact readAll_of_tells hb ha ht hg (by decide) <| complete_draft r
  case refine_2 => exact readAll_of_tells hb ha ht hg (by decide) <| complete_draft_unnamed r
  case refine_3 => exact refused_of_not_read fun r hr => hg <| (told_of_readAll hb ha hr hk).left hn
  case refine_4 =>
    refine refused_of_not_read fun r hr => ?_
    exact absurd (told_of_readAll hb ha hr hk).right <| Nat.not_le.mpr hg

section Written

theorem value_name? (name? : Option Name) :
    Grammar.Value 0 (Utf8.encode ((name?.map Name.toJson).getD .null).chars) := by
  cases name?
  case none      => exact .null
  case some name => exact value_str name.text

-- The members of a record in the order in which they are written.
def written (r : Record) : List Part := [
  .written "pid" (.nat r.pid.toNat) ⟨0, value_nat _⟩,
  .written "display_name" ((r.name?.map Name.toJson).getD .null) ⟨0, value_name? r.name?⟩,
  .written "memory_usage" (.nat r.memory.toNat) ⟨0, value_nat _⟩,
  .written "status" r.status.toJson ⟨0, value_str _⟩]

theorem tells_written {hv : ∃ depth, Grammar.Value depth (Utf8.encode v.chars)} (h : r.toJson.get? k = some v) :
    r.Tells (.written k v hv) := by
  intro v' hv'
  obtain rfl : v = v' := Option.some.inj <| h.symm.trans hv'
  exact ⟨[], [], blank_nil, blank_nil, (List.append_nil _).symm⟩

theorem tells_all_written (r : Record) : ∀ p ∈ r.written, r.Tells p :=
  List.forall_mem_cons.mpr ⟨tells_written rfl, List.forall_mem_cons.mpr ⟨tells_written rfl,
    List.forall_mem_cons.mpr ⟨tells_written rfl, List.forall_mem_singleton.mpr <| tells_written rfl⟩⟩⟩

end Written

-- A member that nobody asked for: its name is an escape, and in its value there is half a character.
def stray : Part where
  name       := "x"
  label      := quoted (Utf8.encode "\\u0078".toList) ++ [0x20]
  value      := byte '[' :: ([byte ','].intercalate [quoted (Utf8.encode "\\ud800".toList), [byte '[', byte ']']] ++
    [byte ']'])
  spelled    := ⟨[], _, [0x20], blank_nil, .code (n := 0x78) rfl (by decide) .nil, List.forall_mem_singleton.mpr rfl,
    rfl⟩
  wellFormed := ⟨2, .items <| List.forall_mem_cons.mpr ⟨.text <| .code rfl .nil,
    List.forall_mem_singleton.mpr <| .noItems blank_nil⟩⟩

-- A record that is written backwards among strangers, one that is written twice, and one without its identifier.
theorem members_come_in_any_order_crowded : Blank [0x20] ∧ Blank [0x0A] ∧
    read.readAll ([0x20] ++ (object (stray :: (foreignRecord.written.reverse ++ [stray])) ++ [0x0A])) =
      .ok foreignRecord ∧
    (∃ fault, read.readAll ([0x20] ++ (object (foreignRecord.written ++ foreignRecord.written) ++ [0x0A])) =
      .error fault) ∧
    ∃ fault, read.readAll ([0x20] ++ (object (foreignRecord.written.tail ++ [stray]) ++ [0x0A])) = .error fault := by
  have hb : Blank [0x20] := List.forall_mem_singleton.mpr rfl
  have ha : Blank [0x0A] := List.forall_mem_singleton.mpr rfl
  have hs : foreignRecord.Tells stray := fun v h => nomatch h
  have ht : ∀ p ∈ stray :: (foreignRecord.written.reverse ++ [stray]), foreignRecord.Tells p := by
    refine List.forall_mem_cons.mpr ⟨hs, List.forall_mem_append.mpr ⟨fun p hp => ?_, List.forall_mem_singleton.mpr hs⟩⟩
    exact tells_all_written _ p <| List.mem_reverse.mp hp
  have hp : (told (stray :: (foreignRecord.written.reverse ++ [stray]))).Perm names := List.reverse_perm names
  refine ⟨hb, ha, ?_, ?_, ?_⟩
  case refine_1 => exact ((members_come_in_any_order _ _ _ hb ha).left _ ht).left hp
  case refine_2 => exact (members_come_in_any_order _ _ _ hb ha).right.right "pid" (.head _) (by decide)
  case refine_3 => exact (members_come_in_any_order _ _ _ hb ha).right.left "pid" (.head _) (by decide) (by decide)

end Record

end ProcessControl
