import Mathlib.Data.List.TakeWhile
import ProcessControl.Text.Blank

namespace ProcessControl.Text

section Front

variable {α : Type} {p : α → Bool} {as rest : List α}

theorem dropWhile_eq_self_of_head? (h : ∀ a, as.head? = some a → p a = false) : as.dropWhile p = as := by
  cases as
  case nil  => rfl
  case cons => exact List.dropWhile_cons_of_neg <| Bool.eq_false_iff.mp <| h _ rfl

-- A part that ends where something else begins is taken, and dropped, as a whole.
theorem takeWhile_append_of_head? (h : ∀ a ∈ as, p a = true) (hr : ∀ a, rest.head? = some a → p a = false) :
    (as ++ rest).takeWhile p = as := by
  have hn : rest.takeWhile p = [] := by
    cases rest
    case nil  => rfl
    case cons => exact List.takeWhile_cons_of_neg <| Bool.eq_false_iff.mp <| hr _ rfl
  rw [List.takeWhile_append_of_pos h, hn, List.append_nil]

theorem dropWhile_append_of_head? (h : ∀ a ∈ as, p a = true) (hr : ∀ a, rest.head? = some a → p a = false) :
    (as ++ rest).dropWhile p = rest := by
  rw [List.dropWhile_append_of_pos h, dropWhile_eq_self_of_head? hr]

theorem of_head?_dropWhile {a : α} (h : (as.dropWhile p).head? = some a) : p a = false := by
  have hn := List.head?_dropWhile_not p as
  rwa [h] at hn

end Front

section End

variable {α : Type} {p : α → Bool} {as inner after : List α} {a : α}

theorem exists_dropEndWhile (p : α → Bool) (as : List α) :
    ∃ after, (∀ a ∈ after, p a = true) ∧ as = dropEndWhile p as ++ after := by
  refine ⟨(as.reverse.takeWhile p).reverse, fun a ha => ?_, ?_⟩
  case refine_1 => exact List.mem_takeWhile_imp <| List.mem_reverse.mp ha
  case refine_2 => rw [dropEndWhile, ← List.reverse_append, List.takeWhile_append_dropWhile, List.reverse_reverse]

theorem dropEndWhile_append (ha : ∀ a ∈ after, p a = true) : dropEndWhile p (as ++ after) = dropEndWhile p as := by
  have hr : ∀ a ∈ after.reverse, p a = true := fun a hm => ha a <| List.mem_reverse.mp hm
  rw [dropEndWhile, List.reverse_append, List.dropWhile_append_of_pos hr, dropEndWhile]

theorem mem_of_mem_dropEndWhile (h : a ∈ dropEndWhile p as) : a ∈ as :=
  List.mem_reverse.mp <| (List.dropWhile_suffix p).subset <| List.mem_reverse.mp h

theorem of_getLast?_dropEndWhile (h : (dropEndWhile p as).getLast? = some a) : p a = false := by
  rw [dropEndWhile, List.getLast?_reverse] at h
  exact of_head?_dropWhile h

theorem dropEndWhile_eq_self (h : ∀ a, as.getLast? = some a → p a = false) : dropEndWhile p as = as := by
  have ⟨after, ha, hs⟩ := exists_dropEndWhile p as
  cases hl : after.getLast?
  case none => rw [List.getLast?_eq_none_iff.mp hl, List.append_nil] at hs; exact hs.symm
  case some a =>
    have hp : p a = false := h a <| by rw [hs, List.getLast?_append, hl, Option.some_or]
    rw [ha a <| List.mem_of_getLast? hl] at hp
    cases hp

-- What is left is the one part that ends otherwise and is followed by nothing else than what is dropped.
theorem dropEndWhile_eq_iff : dropEndWhile p as = inner ↔
    (∃ after, (∀ a ∈ after, p a = true) ∧ as = inner ++ after) ∧ ∀ a, inner.getLast? = some a → p a = false := by
  constructor
  case mp =>
    rintro rfl
    exact ⟨exists_dropEndWhile p as, fun _ => of_getLast?_dropEndWhile⟩
  case mpr =>
    rintro ⟨⟨after, ha, rfl⟩, hi⟩
    rw [dropEndWhile_append ha, dropEndWhile_eq_self hi]

end End

variable {cs inner before after : List Char}

-- The text is the inner one with white space around it.
def Padded (inner cs : List Char) : Prop :=
  ∃ before after, (∀ c ∈ before, isBlank c = true) ∧ (∀ c ∈ after, isBlank c = true) ∧ cs = before ++ (inner ++ after)

theorem padded_trim (cs : List Char) : Padded (trim cs) cs := by
  have ⟨after, ha, hs⟩ := exists_dropEndWhile isBlank (cs.dropWhile isBlank)
  refine ⟨cs.takeWhile isBlank, after, fun c hc => List.mem_takeWhile_imp hc, ha, ?_⟩
  rw [trim, ← hs, List.takeWhile_append_dropWhile]

-- White space around a text does not change what is left of it.
theorem Padded.trim_eq (h : Padded inner cs) : trim cs = trim inner := by
  obtain ⟨before, after, hb, ha, rfl⟩ := h
  rw [trim, trim, List.dropWhile_append_of_pos hb, List.dropWhile_append]
  split
  case isTrue hi =>
    rw [List.isEmpty_iff.mp hi, List.dropWhile_eq_nil_iff.mpr ha]
  case isFalse => exact dropEndWhile_append ha

theorem trim_eq_self (h : ∀ c ∈ cs, isBlank c = false) : trim cs = cs := by
  rw [trim, dropWhile_eq_self_of_head? fun c hc => h c <| List.mem_of_head? hc]
  exact dropEndWhile_eq_self fun c hc => h c <| List.mem_of_getLast? hc

-- A text without white space in it is what a text comes to when it is trimmed, exactly if this text is padded with
-- white space.
theorem trim_eq_iff (h : ∀ c ∈ inner, isBlank c = false) : trim cs = inner ↔ Padded inner cs where
  mp he  := he ▸ padded_trim cs
  mpr hp := hp.trim_eq.trans <| trim_eq_self h

section Fields

variable {field : List Char}

-- The line begins with separators, and then with the field, which is not empty and holds none of them. It goes on until
-- the next separator or the end of the line.
inductive FirstField (field : List Char) : List Char → Prop
  | intro (before after : List Char) : (∀ c ∈ before, isFieldBlank c = true) → field ≠ [] →
    (∀ c ∈ field, isFieldBlank c = false) → (∀ c, after.head? = some c → isFieldBlank c = true) →
    FirstField field (before ++ (field ++ after))

theorem firstField?_eq_some_iff_takeWhile : firstField? cs = some field ↔
    field ≠ [] ∧ (cs.dropWhile isFieldBlank).takeWhile (fun c => !isFieldBlank c) = field := by
  rw [firstField?]
  split
  case h_1 he => exact iff_of_false nofun fun ⟨hn, hf⟩ => hn <| hf.symm.trans he
  case h_2 hn =>
    rw [Option.some.injEq]
    exact ⟨fun hf => ⟨hf ▸ hn, hf⟩, And.right⟩

theorem firstField?_eq_some_iff : firstField? cs = some field ↔ FirstField field cs := by
  let inner : Char → Bool := fun c => !isFieldBlank c
  have hb {c : Char} : inner c = true ↔ isFieldBlank c = false := iff_of_eq <| Bool.not_eq_true' _
  rw [firstField?_eq_some_iff_takeWhile]
  constructor
  case mp =>
    rintro ⟨hn, hf⟩
    let rest := cs.dropWhile isFieldBlank
    have hc : cs.takeWhile isFieldBlank ++ (field ++ rest.dropWhile inner) = cs := by
      rw [← hf, List.takeWhile_append_dropWhile, List.takeWhile_append_dropWhile]
    rw [← hc]
    refine .intro _ _ (fun c => List.mem_takeWhile_imp) hn
      (fun c hm => hb.mp <| List.mem_takeWhile_imp (hf.symm ▸ hm)) fun c hm => ?_
    have hf : inner c = false := of_head?_dropWhile hm
    exact Bool.not_eq_false' _ |>.mp hf
  case mpr =>
    rintro ⟨before, after, hs, hn, hi, ha⟩
    have hf : ∀ c, (field ++ after).head? = some c → isFieldBlank c = false := by
      obtain ⟨c, rest, rfl⟩ := List.exists_cons_of_ne_nil hn
      rintro _ ⟨⟩
      exact hi c <| .head _
    have hz : ∀ c, after.head? = some c → inner c = false := fun c hc => congrArg not <| ha c hc
    rw [dropWhile_append_of_head? hs hf]
    exact ⟨hn, takeWhile_append_of_head? (fun c hc => hb.mpr <| hi c hc) hz⟩

-- A line without a field is one of separators alone.
theorem firstField?_eq_none_iff : firstField? cs = none ↔ ∀ c ∈ cs, isFieldBlank c = true := by
  rw [← List.dropWhile_eq_nil_iff]
  constructor
  case mp =>
    intro h
    cases hr : cs.dropWhile isFieldBlank
    case nil => rfl
    case cons c rest =>
      have hc : isFieldBlank c = false := of_head?_dropWhile <| congrArg List.head? hr
      rw [firstField?, hr, List.takeWhile_cons_of_pos (by rw [hc]; rfl)] at h
      cases h
  case mpr =>
    intro h
    rw [firstField?, h]
    rfl

end Fields

end ProcessControl.Text
