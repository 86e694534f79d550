import ProcessControl.Linux.Procfs
import ProcessControl.Proofs.Text.Padding
import ProcessControl.Proofs.Text.Place

namespace ProcessControl.Linux

open Text

section Letter

variable {text front rest : List Char} {letter? : Option Char}

-- What stands behind a name tells a letter, with which its first field begins, or none when it has no field.
inductive TellsState (rest : List Char) : Option Char → Prop
  | letter {c : Char} {field : List Char} : FirstField (c :: field) rest → TellsState rest (some c)
  | nothing : (∀ c ∈ rest, isFieldBlank c = true) → TellsState rest none

theorem tellsState_iff : TellsState rest letter? ↔ (firstField? rest).bind List.head? = letter? := by
  constructor
  case mp =>
    rintro (hf | hb)
    case letter  => rw [firstField?_eq_some_iff.mpr hf]; rfl
    case nothing => rw [firstField?_eq_none_iff.mpr hb]; rfl
  case mpr =>
    rintro rfl
    cases hf : firstField? rest
    case none => exact .nothing <| firstField?_eq_none_iff.mp hf
    case some field =>
      cases field
      case nil  => exact absurd rfl (firstField?_eq_some_iff_takeWhile.mp hf).left
      case cons => exact .letter <| firstField?_eq_some_iff.mp hf

-- The parenthesis is one byte long, so the place behind it is one where the text can be cut.
theorem readState_append (front : List Char) (h : ')' ∉ rest) :
    readState (front ++ ')' :: rest) = .ok ((firstField? rest).bind List.head?) := by
  have hc : Char.utf8Size ')' = 1 := rfl
  simp only [readState, lastPlace?_append front h, fromPlace?_behind front rest hc]

theorem readState_of_not_mem (h : ')' ∉ text) : readState text = .ok none := by
  simp only [readState, lastPlace?_eq_none h]

end Letter

section Characters

variable {text rest : List Char}

theorem afterName?_append (front : List Char) (h : ')' ∉ rest) : afterName? (front ++ ')' :: rest) = some rest := by
  have hc : (front ++ ')' :: rest).contains ')' := by simp
  have hr : ∀ c ∈ rest.reverse, (c != ')') = true := by
    intro c hm
    simp only [bne_iff_ne, ne_eq]
    exact fun he => h <| he ▸ List.mem_reverse.mp hm
  have ht : (front ++ ')' :: rest).reverse = rest.reverse ++ ')' :: front.reverse := by simp
  rw [afterName?, if_pos hc, ht, List.takeWhile_append_of_pos hr, List.takeWhile_cons_of_neg (by simp)]
  simp

theorem afterName?_of_not_mem (h : ')' ∉ text) : afterName? text = none := by
  rw [afterName?, if_neg]
  simpa using h

-- To find the letter by places in bytes comes to the same as to find it among the characters.
theorem readState_eq (text : List Char) : readState text = .ok (state? text) := by
  by_cases h : ')' ∈ text
  case pos =>
    obtain ⟨front, rest, rfl, hn⟩ := exists_last_of_mem h
    rw [readState_append front hn, state?, afterName?_append front hn]
    rfl
  case neg =>
    rw [readState_of_not_mem h, state?, afterName?_of_not_mem h]
    rfl

end Characters

-- Every text is read without a crash. One without a closing parenthesis tells no state, and otherwise the letter is
-- what the text behind the last one tells, whatever stands before it.
theorem state_is_read_behind_the_name (text : List Char) :
    (∃ letter?, readState text = .ok letter?) ∧
    (')' ∉ text → readState text = .ok none) ∧
    ∀ front rest, text = front ++ ')' :: rest → ')' ∉ rest →
      (∀ front', readState (front' ++ ')' :: rest) = readState text) ∧
      ∀ letter?, readState text = .ok letter? ↔ TellsState rest letter? := by
  refine ⟨⟨_, readState_eq text⟩, readState_of_not_mem, ?_⟩
  rintro front rest rfl h
  rw [readState_append front h]
  refine ⟨fun front' => readState_append front' h, fun letter? => ?_⟩
  rw [Except.ok.injEq, tellsState_iff]

-- A name with a parenthesis and letters of its own in it, and characters of several bytes on both sides of the last.
theorem state_is_read_behind_the_name_hostile :
    let rest := "é\tR 1".toList
    let text := "300 (a) Z 猫".toList ++ ')' :: rest
    ')' ∉ rest ∧ TellsState rest (some 'é') ∧ readState text = .ok (some 'é') ∧
      readState (')' :: rest) = .ok (some 'é') ∧
      ')' ∉ "300 (猫 Z".toList ∧ readState "300 (猫 Z".toList = .ok none := by
  intro rest text
  have hr : ')' ∉ rest := by decide
  have hn : ')' ∉ "300 (猫 Z".toList := by decide
  have ⟨_, _, h⟩ := state_is_read_behind_the_name text
  have ⟨_, hl, _⟩ := state_is_read_behind_the_name "300 (猫 Z".toList
  have ⟨hs, ht⟩ := h _ rest rfl hr
  have ho : readState text = .ok (some 'é') := rfl
  exact ⟨hr, (ht _).mp ho, ho, (hs []).trans ho, hn, hl hn⟩

end ProcessControl.Linux
