import ProcessControl.Proofs.Text.Utf8
import ProcessControl.Text.Place

namespace ProcessControl.Text

section Occurrence

variable {α : Type} {a : α} {as : List α}

-- Whatever occurs in a list occurs in it for the last time.
theorem exists_last_of_mem (h : a ∈ as) : ∃ front rest, as = front ++ a :: rest ∧ a ∉ rest := by
  have ⟨after, before, hr, hn⟩ := List.eq_append_cons_of_mem <| List.mem_reverse.mpr h
  refine ⟨before.reverse, after.reverse, ?_, mt List.mem_reverse.mp hn⟩
  rw [← List.reverse_reverse as, hr]
  simp

end Occurrence

section Places

variable {c : Char} {cs front rest : List Char} {place : Nat}

theorem lastPlace?_eq_none (h : c ∉ cs) : lastPlace? c cs = none := by
  induction cs
  case nil => rfl
  case cons d cs hi =>
    have ⟨hd, hc⟩ := List.ne_and_not_mem_of_not_mem_cons h
    simp only [lastPlace?, hi hc, if_neg hd.symm]

theorem lastPlace?_append (front : List Char) (h : c ∉ rest) :
    lastPlace? c (front ++ c :: rest) = some (Utf8.encode front).length := by
  induction front
  case nil => simp only [List.nil_append, lastPlace?, lastPlace?_eq_none h, if_true]; rfl
  case cons d front hi => simp only [List.cons_append, lastPlace?, hi, Utf8.length_encode_cons]

theorem fromPlace?_cons (c : Char) (cs : List Char) (place : Nat) :
    fromPlace? (c :: cs) (c.utf8Size + place) = fromPlace? cs place := by
  have ⟨n, hn⟩ := Nat.exists_eq_add_one.mpr <| Nat.add_pos_left c.utf8Size_pos place
  rw [hn, fromPlace?, ← hn, if_pos (Nat.le_add_right ..), Nat.add_sub_cancel_left]

theorem fromPlace?_append (front rest : List Char) :
    fromPlace? (front ++ rest) (Utf8.encode front).length = some rest := by
  induction front
  case nil => cases rest <;> rfl
  case cons c front hi => rw [List.cons_append, Utf8.length_encode_cons, fromPlace?_cons, hi]

-- Behind a character of one byte a text can be cut, whatever stands next to it.
theorem fromPlace?_behind (front rest : List Char) (h : c.utf8Size = 1) :
    fromPlace? (front ++ c :: rest) ((Utf8.encode front).length + 1) = some rest := by
  have hl : (Utf8.encode (front ++ [c])).length = (Utf8.encode front).length + 1 := by
    rw [Utf8.encode_append, List.length_append, Utf8.length_encode_cons, h]
    rfl
  rw [List.append_cons, ← hl, fromPlace?_append]

end Places

-- A place inside a character is none.
example : fromPlace? ['é', ')'] 1 = none ∧ fromPlace? ['é', ')'] 2 = some [')'] := by decide

end ProcessControl.Text
