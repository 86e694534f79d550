import ProcessControl.Proofs.Json.Answers

namespace ProcessControl.Json

open Reader Text

namespace Grammar

-- A member of an object: the text in front of the colon is a name between quotes, with blanks around it, and the one
-- after it is any value.
structure Part where
  name : String
  label : List UInt8
  value : List UInt8
  spelled : ∃ before w after, Blank before ∧ Spells w name.toList ∧ Blank after ∧ label = before ++ (quoted w ++ after)
  wellFormed : ∃ depth, Grammar.Value depth value

def Part.text (p : Part) : List UInt8 :=
  p.label ++ byte ':' :: p.value

-- The same with what stands before the value apart.
def Part.item (p : Part) : List UInt8 × List UInt8 :=
  (p.label ++ [byte ':'], p.value)

-- A member as it is written.
def Part.written (k : String) (v : Json.Value) (h : ∃ depth, Grammar.Value depth (Utf8.encode v.chars)) : Part where
  name       := k
  label      := quoted (Utf8.encode (k.toList.flatMap Json.escape))
  value      := Utf8.encode v.chars
  spelled    := ⟨[], _, [], blank_nil, spells_escaped k.toList, blank_nil, (List.append_nil _).symm⟩
  wellFormed := h

def object (parts : List Part) : List UInt8 :=
  byte '\x7b' :: ([byte ','].intercalate (parts.map Part.text) ++ [byte '\x7d'])

end Grammar

namespace Reader

open Grammar

section Objects

variable {σ : Type} {known : List (Member σ)} {most fuel : Nat} {p : Part} {parts : List Part} {d d' : σ}
  {before after rest bytes : List UInt8}

theorem object_eq (parts : List Part) :
    object parts = byte '\x7b' :: (row false (parts.map Part.item) ++ [byte '\x7d']) := by
  rw [object, ← intercalate_eq_row, List.map_map]
  simp only [Function.comp_def, Part.item, List.append_assoc, List.cons_append, List.nil_append]
  rfl

theorem gives_nextName?_part (p : Part) (first : Bool) : ∃ after, Blank after ∧ ∀ rest,
    (nextName? first).Gives (comma (!first) ++ (p.label ++ rest)) (some p.name) (after ++ rest) := by
  have ⟨before, w, after, hb, hw, ha, hl⟩ := p.spelled
  have hs (rest : List UInt8) : string.Gives (w ++ byte '"' :: rest) p.name rest :=
    p.name.ofList_toList ▸ gives_spelled hw rest
  have hn (rest : List UInt8) : (nextName?.name '"').Gives (quoted w ++ rest) (some p.name) rest := by
    rw [quoted, List.cons_append, List.append_assoc]
    exact (gives_advance _ _).bind <| (hs _).bind <| .pure _ _
  have hp (rest : List UInt8) : peek?.Gives (quoted w ++ rest) (some '"') (quoted w ++ rest) :=
    gives_peek? (by decide) _
  refine ⟨after, ha, fun rest => ?_⟩
  rw [hl, List.append_assoc, List.append_assoc]
  cases first
  case false => exact gives_token (by decide) rfl <| (skipsBlanks_peek? _ _ _ hb).trans <| (hp _).bind <| hn _
  case true  => exact (skipsBlanks_nextName? true _ _ hb).trans <| (hp _).bind <| hn _

-- What a member makes of a draft. One that is not known makes nothing of it, and one that is known is not given twice.
def Taken (known : List (Member σ)) (d : σ) (p : Part) (d' : σ) : Prop :=
  match known.find? (·.name == p.name) with
  | none   => d' = d
  | some m => m.given d = false ∧ ∃ left, (m.read d).Gives p.value d' left

-- What members make of a draft, one after the other.
inductive Takes (known : List (Member σ)) : σ → List Part → σ → Prop
  | nil (d : σ) : Takes known d [] d
  | cons {d d' d'' : σ} {p : Part} {parts : List Part} :
    Taken known d p d' → Takes known d' parts d'' → Takes known d (p :: parts) d''

theorem takes_nil_iff : Takes known d [] d' ↔ d' = d := by
  constructor
  case mp =>
    rintro ⟨⟩
    rfl
  case mpr =>
    rintro rfl
    exact .nil _

theorem takes_cons_iff : Takes known d (p :: parts) d' ↔ ∃ d₁, Taken known d p d₁ ∧ Takes known d₁ parts d' := by
  constructor
  case mp =>
    intro h
    cases h
    case cons d₁ hp hps => exact ⟨d₁, hp, hps⟩
  case mpr =>
    intro ⟨d₁, hp, hps⟩
    exact .cons hp hps

-- Every item has a byte of its own in front of its value.
theorem length_le_row (parts : List Part) (afterItem : Bool) :
    parts.length ≤ (row afterItem (parts.map Part.item)).length ∧
      ∀ p ∈ parts, p.value.length ≤ (row afterItem (parts.map Part.item)).length := by
  induction parts generalizing afterItem
  case nil => exact ⟨Nat.zero_le _, nofun⟩
  case cons p parts hi =>
    have ⟨hl, hv⟩ := hi true
    have hr : (row afterItem ((p :: parts).map Part.item)).length = (comma afterItem).length +
        (p.label.length + 1 + (p.value.length + (row true (parts.map Part.item)).length)) := by
      simp only [List.map_cons, row, Part.item, List.length_append, List.length_singleton]
    rw [hr]
    refine ⟨?_, List.forall_mem_cons.mpr ⟨?_, fun q hq => ?_⟩⟩
    case refine_1 =>
      rw [List.length_cons]
      omega
    case refine_2 => omega
    case refine_3 =>
      have hq := hv q hq
      omega

theorem name_of_find? {m : Member σ} {k : String} (h : known.find? (·.name == k) = some m) : m.name = k := by
  have hn := List.find?_some h
  exact eq_of_beq hn

-- Members that are told apart by their names: each is read to the end of its value, whatever this is, and then the
-- draft has it, and is as it was in all other members.
structure Orderly (known : List (Member σ)) : Prop where
  answers : ∀ m ∈ known, ∀ d, (m.read d).AnswersValues
  given   : ∀ m ∈ known, ∀ d bytes d' left, (m.read d).Gives bytes d' left →
    ∀ m' ∈ known, m'.given d' = (m'.given d || m'.name == m.name)

section Orderly

variable (hk : Orderly known)

include hk

theorem entry_iff (d : σ) (hm : p.value.length ≤ most) (ha : Blank after) : ∃ left, Blank left ∧
    ∀ rest, Closes rest → ∀ d' bytes,
      (entry known most d p.name).Gives (after ++ byte ':' :: (p.value ++ rest)) d' bytes ↔
        Taken known d p d' ∧ bytes = left ++ rest := by
  have ⟨depth, hv⟩ := p.wellFormed
  have hc (bytes : List UInt8) : colon.Gives (after ++ byte ':' :: bytes) () bytes :=
    ((skipsBlanks_peek? _ : colon.SkipsBlanks) _ _ ha).trans <| gives_colon _
  unfold entry Taken
  cases hf : known.find? (·.name == p.name)
  case none =>
    have ⟨left, hl, hs⟩ := gives_skip hv
    refine ⟨left, hl, fun rest hr d' bytes => ?_⟩
    dsimp only
    rw [(hc _).bind_iff, (hs most rest hm hr).bind_iff, (Gives.pure d _).iff]
    exact and_congr eq_comm eq_comm
  case some m =>
    dsimp only
    cases m.given d
    case true  => exact ⟨[], nofun, fun rest _ d' bytes => iff_of_false nofun nofun⟩
    case false =>
      have ⟨left, hl, answer?, hr⟩ := hk.answers m (List.mem_of_find?_eq_some hf) d _ _ hv
      have hw (d' : σ) : (∃ left, (m.read d).Gives p.value d' left) ↔ answer? = some d' := by
        have hg (bytes : List UInt8) := hr [] nofun d' bytes
        simp only [List.append_nil] at hg
        simp only [hg, exists_and_left, exists_eq, and_true]
      refine ⟨left, hl, fun rest hr' d' bytes => ?_⟩
      rw [hw, if_neg Bool.false_ne_true, (hc _).bind_iff, hr rest hr']
      simp only [true_and]

theorem loop_iff (hm : ∀ p ∈ parts, p.value.length ≤ most) (hf : parts.length < fuel) (first : Bool)
    (hb : Blank before) : (members.loop (entry known most) fuel first d).Gives
      (before ++ (row (!first) (parts.map Part.item) ++ byte '\x7d' :: rest)) d' bytes ↔
        Takes known d parts d' ∧ bytes = rest := by
  induction parts generalizing fuel first before d
  case nil =>
    cases fuel
    case zero => cases hf
    case succ fuel =>
      have hn : (nextName? first).Gives (before ++ byte '\x7d' :: rest) none rest :=
        (skipsBlanks_nextName? first _ _ hb).trans <| gives_noName first rest
      rw [List.map_nil, row, List.nil_append, members.loop, hn.bind_iff, (Gives.pure d rest).iff, takes_nil_iff]
      exact and_congr eq_comm eq_comm
  case cons p parts hi =>
    cases fuel
    case zero => cases hf
    case succ fuel =>
      obtain ⟨hp, hm⟩ := List.forall_mem_cons.mp hm
      obtain ⟨after, ha, hn⟩ := gives_nextName?_part p first
      obtain ⟨left, hl, he⟩ := entry_iff hk d hp ha
      generalize hs : row true (parts.map Part.item) ++ byte '\x7d' :: rest = more
      have hr : Closes more := hs ▸ closes_row .object _ rest
      have hw : row (!first) ((p :: parts).map Part.item) ++ byte '\x7d' :: rest =
          comma (!first) ++ (p.label ++ byte ':' :: (p.value ++ more)) := by
        rw [← hs, List.map_cons, row]
        simp only [Part.item, List.append_assoc, List.cons_append, List.nil_append]
      have hn := (skipsBlanks_nextName? first _ _ hb).trans <| hn (byte ':' :: (p.value ++ more))
      have hi (d₁ : σ) : (members.loop (entry known most) fuel false d₁).Gives (left ++ more) d' bytes ↔
          Takes known d₁ parts d' ∧ bytes = rest := hs ▸ hi hm (Nat.lt_of_succ_lt_succ hf) false hl
      rw [hw, members.loop, Gives.bind_iff hn, gives_bind_iff, takes_cons_iff]
      constructor
      case mp =>
        rintro ⟨d₁, middle, hg, hl⟩
        obtain ⟨ht, rfl⟩ := (he more hr d₁ middle).mp hg
        obtain ⟨hts, hb⟩ := (hi d₁).mp hl
        exact ⟨⟨d₁, ht, hts⟩, hb⟩
      case mpr =>
        rintro ⟨⟨d₁, ht, hts⟩, hb⟩
        exact ⟨d₁, _, (he more hr d₁ _).mpr ⟨ht, rfl⟩, (hi d₁).mpr ⟨hts, hb⟩⟩

theorem fromMembers_iff (empty : σ) : (fromMembers known empty).Gives
    (row false (parts.map Part.item) ++ byte '\x7d' :: rest) d' bytes ↔ Takes known empty parts d' ∧ bytes = rest := by
  have ⟨hl, hv⟩ := length_le_row parts false
  have hb : bound.Gives (row false (parts.map Part.item) ++ byte '\x7d' :: rest)
    ((row false (parts.map Part.item) ++ byte '\x7d' :: rest).length + 1) _ := gives_bound _
  rw [fromMembers, hb.bind_iff, List.length_append, List.length_cons]
  refine loop_iff hk (fun p hp => ?_) ?_ true blank_nil
  case refine_1 =>
    have hp := hv p hp
    omega
  case refine_2 => omega

-- What an object is read to is told by its members, and there is nothing else that a reading of it could fail at.
theorem readAll_aggregate_iff {α : Type} {a : α} (title : String) (empty : σ) (full : σ → Except Mismatch α)
    (hb : Blank before) (ha : Blank after) :
    (aggregate title known empty full).readAll (before ++ (object parts ++ after)) = .ok a ↔
      ∃ d, Takes known empty parts d ∧ full d = .ok a := by
  have hs : (aggregate title known empty full).SkipsBlanks := skipsBlanks_peek? _
  have ho : object parts ++ after = byte '\x7b' :: (row false (parts.map Part.item) ++ byte '\x7d' :: after) := by
    rw [object_eq, List.cons_append, List.append_assoc]
    rfl
  have hr (bytes : List UInt8) : (aggregate title known empty full).run (byte '\x7b' :: bytes) =
      (do accept (full (← fromMembers known empty)) : Reader α).run bytes := run_token (by decide) rfl bytes
  have hf : finish.Gives after () [] := by
    have hf := (skipsBlanks_peek? _ : finish.SkipsBlanks) after [] ha
    rw [List.append_nil] at hf
    exact hf.trans gives_finish
  rw [readAll_eq_ok_iff]
  simp only [Gives, hs _ _ hb, ho, hr]
  constructor
  case mp =>
    rintro ⟨rest, left, hg, _⟩
    obtain ⟨d, middle, hd, hg⟩ := gives_bind_iff.mp hg
    exact ⟨d, ((fromMembers_iff hk empty).mp hd).left, (gives_accept_iff.mp hg).left⟩
  case mpr =>
    rintro ⟨d, ht, hd⟩
    have hg : (accept (full d)).Gives after a after := gives_accept_iff.mpr ⟨hd, rfl⟩
    exact ⟨after, [], ((fromMembers_iff hk empty).mpr ⟨ht, rfl⟩).bind hg, hf⟩

variable {m : Member σ} {k : String} (hf : known.find? (·.name == k) = some m)

include hf

theorem given_of_taken (ht : Taken known d p d') :
    (p.name = k → m.given d = false) ∧ m.given d' = (m.given d || p.name == k) := by
  have hn := name_of_find? hf
  unfold Taken at ht
  cases hp : known.find? (·.name == p.name)
  case none =>
    rw [hp] at ht
    have hne : p.name ≠ k := by
      rintro rfl
      rw [hf] at hp
      contradiction
    exact ⟨fun he => absurd he hne, by rw [ht, beq_eq_false_iff_ne.mpr hne, Bool.or_false]⟩
  case some m' =>
    rw [hp] at ht
    have ⟨hg, _, hr⟩ := ht
    have hn' := name_of_find? hp
    have hd := hk.given m' (List.mem_of_find?_eq_some hp) _ _ _ _ hr m (List.mem_of_find?_eq_some hf)
    refine ⟨fun he => ?_, by rw [hd, hn, hn', BEq.comm]⟩
    rw [he, hf] at hp
    exact Option.some.inj hp ▸ hg

theorem Takes.given_iff (h : Takes known d parts d') :
    m.given d' = true ↔ m.given d = true ∨ k ∈ parts.map Part.name := by
  induction h
  case nil => exact (or_iff_left List.not_mem_nil).symm
  case cons p parts ht _ hi =>
    rw [hi, (given_of_taken hk hf ht).right, Bool.or_eq_true, beq_iff_eq, List.map_cons, List.mem_cons, or_assoc,
      eq_comm (a := k)]

-- No member is given twice.
theorem Takes.count_le (h : Takes known d parts d') : (parts.map Part.name).count k + (m.given d).toNat ≤ 1 := by
  induction h
  case nil d => exact (Nat.zero_add _).symm ▸ Bool.toNat_le _
  case cons d d' d'' p parts ht _ hi =>
    have ⟨hg, hd⟩ := given_of_taken hk hf ht
    rw [List.map_cons, List.count_cons]
    by_cases he : p.name = k
    case pos =>
      rw [hd, beq_iff_eq.mpr he, Bool.or_true] at hi
      rw [hg he, beq_iff_eq.mpr he]
      exact hi
    case neg =>
      rw [hd, beq_eq_false_iff_ne.mpr he, Bool.or_false] at hi
      rw [beq_eq_false_iff_ne.mpr he]
      exact hi

end Orderly

end Objects

end Reader

end ProcessControl.Json
