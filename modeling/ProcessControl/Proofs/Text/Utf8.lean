import ProcessControl.Text.Utf8

namespace ProcessControl.Text.Utf8

-- What a byte opens, told by its number alone: in the ranges for three and four bytes only the bounds
-- on the second byte differ from byte to byte.
section Opening

variable {b : UInt8}

theorem openWith_one (h : b.toNat < 0x80) : openWith b = .char (Char.ofNat b.toNat) := by
  simp only [openWith, if_pos h]

theorem openWith_two (h : 0xC2 ≤ b.toNat) (h' : b.toNat < 0xE0) :
    openWith b = .lead ⟨1, 0x80, 0xBF, b.toNat - 0xC0⟩ := by
  simp only [openWith]
  rw [if_neg (by omega), if_neg (by omega), if_pos h']

theorem openWith_three (h : 0xE0 ≤ b.toNat) (h' : b.toNat < 0xF0) :
    openWith b = .lead ⟨2, if b.toNat = 0xE0 then 0xA0 else 0x80, if b.toNat = 0xED then 0x9F else 0xBF,
      b.toNat - 0xE0⟩ := by
  simp only [openWith]
  rw [if_neg (by omega), if_neg (by omega), if_neg (by omega)]
  by_cases hl : b.toNat = 0xE0
  case pos => simp [hl]
  case neg =>
    rw [if_neg hl, if_neg hl]
    by_cases hh : b.toNat = 0xED
    case pos => simp [hh]
    case neg => rw [if_neg hh, if_neg hh, if_pos h']

theorem openWith_four (h : 0xF0 ≤ b.toNat) (h' : b.toNat < 0xF5) :
    openWith b = .lead ⟨3, if b.toNat = 0xF0 then 0x90 else 0x80, if b.toNat = 0xF4 then 0x8F else 0xBF,
      b.toNat - 0xF0⟩ := by
  simp only [openWith]
  rw [if_neg (by omega), if_neg (by omega), if_neg (by omega), if_neg (by omega), if_neg (by omega),
    if_neg (by omega)]
  by_cases hl : b.toNat = 0xF0
  case pos => simp [hl]
  case neg =>
    rw [if_neg hl, if_neg hl]
    by_cases hh : b.toNat = 0xF4
    case pos => simp [hh]
    case neg => rw [if_pos (by omega : b.toNat < 0xF4), if_neg hh]

theorem openWith_fault (h : 0x80 ≤ b.toNat) (h' : b.toNat < 0xC2 ∨ 0xF5 ≤ b.toNat) : openWith b = .fault := by
  simp only [openWith]
  rw [if_neg (by omega)]
  by_cases hl : b.toNat < 0xC2
  case pos => rw [if_pos hl]
  case neg =>
    rw [if_neg hl, if_neg (by omega), if_neg (by omega), if_neg (by omega), if_neg (by omega), if_neg (by omega),
      if_neg (by omega), if_neg (by omega)]

end Opening

-- The bytes of the scalar value `v`. Each form is taken by the values that need it, so no value has two.
inductive Sequence (v : Nat) : List UInt8 → Prop
  | one {b : UInt8} :
    v < 0x80 → b.toNat = v → Sequence v [b]
  | two {b₀ b₁ : UInt8} :
    0x80 ≤ v → v < 0x800 → b₀.toNat = 0xC0 + v / 64 → b₁.toNat = 0x80 + v % 64 → Sequence v [b₀, b₁]
  | three {b₀ b₁ b₂ : UInt8} :
    0x800 ≤ v → v < 0x10000 → v < 0xD800 ∨ 0xDFFF < v → b₀.toNat = 0xE0 + v / 4096 →
    b₁.toNat = 0x80 + v / 64 % 64 → b₂.toNat = 0x80 + v % 64 → Sequence v [b₀, b₁, b₂]
  | four {b₀ b₁ b₂ b₃ : UInt8} :
    0x10000 ≤ v → v < 0x110000 → b₀.toNat = 0xF0 + v / 262144 → b₁.toNat = 0x80 + v / 4096 % 64 →
    b₂.toNat = 0x80 + v / 64 % 64 → b₃.toNat = 0x80 + v % 64 → Sequence v [b₀, b₁, b₂, b₃]

namespace Sequence

theorem encodeChar (c : Char) : Sequence c.toNat (String.utf8EncodeChar c) := by
  have hv : c.toNat < 0xD800 ∨ 0xDFFF < c.toNat ∧ c.toNat < 0x110000 := c.valid
  have byte {n : Nat} (h : n < 256) : (UInt8.ofNat n).toNat = n := UInt8.toNat_ofNat_of_lt' h
  simp only [String.utf8EncodeChar, Char.toNat] at *
  split
  case isTrue h => exact one (by omega) (byte <| by omega)
  case isFalse h₁ =>
    split
    case isTrue h =>
      refine two (by omega) (by omega) ?_ ?_
      all_goals rw [byte] <;> omega
    case isFalse h₂ =>
      split
      case isTrue h =>
        refine three (by omega) (by omega) (by omega) ?_ ?_ ?_
        all_goals rw [byte] <;> omega
      case isFalse h₃ =>
        refine four (by omega) (by omega) ?_ ?_ ?_ ?_
        all_goals rw [byte] <;> omega

theorem isValidChar {v : Nat} {w : List UInt8} (h : Sequence v w) : v.isValidChar := by
  cases h
  case one   => exact .inl (by omega)
  case two   => exact .inl (by omega)
  case three => simp only [Nat.isValidChar]; omega
  case four  => simp only [Nat.isValidChar]; omega

-- A value has one sequence.
theorem unique {v : Nat} {w₁ w₂ : List UInt8} (h₁ : Sequence v w₁) (h₂ : Sequence v w₂) : w₁ = w₂ := by
  cases h₁ <;> cases h₂ <;> try omega
  all_goals simp only [List.cons.injEq, and_true, ← UInt8.toNat_inj]; omega

theorem toNat_ofNat {v : Nat} {w : List UInt8} (h : Sequence v w) : (Char.ofNat v).toNat = v := by
  have hc : Char.ofNat v = Char.ofNatAux v h.isValidChar := dif_pos h.isValidChar
  rw [hc]
  rfl

theorem eq_encodeChar {v : Nat} {w : List UInt8} (h : Sequence v w) : w = String.utf8EncodeChar (Char.ofNat v) := by
  have he := encodeChar (Char.ofNat v)
  rw [h.toNat_ofNat] at he
  exact unique h he

end Sequence

namespace chunks

variable {b : UInt8} {bytes rest : List UInt8} {p : Pending} {c : Char}

theorem go_char (h : openWith b = .char c) : go none (b :: rest) = some c :: go none rest := by
  simp only [go, h]

theorem go_lead (h : openWith b = .lead p) : go none (b :: rest) = go (some p) rest := by
  simp only [go, h]

theorem go_fault (h : openWith b = .fault) : go none (b :: rest) = none :: go none rest := by
  simp only [go, h]

-- A byte that cannot continue what is open makes it a fault and is read again.
theorem go_broken (h : ¬(p.low ≤ b ∧ b ≤ p.high)) : go (some p) (b :: rest) = none :: go none (b :: rest) := by
  simp only [go, if_neg h]

theorem go_last (hn : p.need ≤ 1) (h : p.low ≤ b ∧ b ≤ p.high) :
    go (some p) (b :: rest) = some (Char.ofNat (p.bits * 64 + (b.toNat - 0x80))) :: go none rest := by
  simp only [go, if_pos h, if_pos hn]

theorem go_more (hn : ¬p.need ≤ 1) (h : p.low ≤ b ∧ b ≤ p.high) :
    go (some p) (b :: rest) = go (some ⟨p.need - 1, 0x80, 0xBF, p.bits * 64 + (b.toNat - 0x80)⟩) rest := by
  simp only [go, if_pos h, if_neg hn]

theorem go_sequence {v : Nat} {w : List UInt8} (h : Sequence v w) :
    go none (w ++ rest) = some (Char.ofNat v) :: go none rest := by
  cases h <;> simp only [List.cons_append, List.nil_append]
  case one h h₀ =>
    rw [go_char (openWith_one (by omega)), h₀]
  case two b₀ b₁ h h' h₀ h₁ =>
    have hv : (b₀.toNat - 0xC0) * 64 + (b₁.toNat - 0x80) = v := by omega
    rw [go_lead (openWith_two (by omega) (by omega)), go_last]
    case hn => simp
    case h => simp only [UInt8.le_iff_toNat_le, UInt8.reduceToNat]; omega
    simp only [hv]
  case three b₀ b₁ b₂ h h' hs h₀ h₁ h₂ =>
    have hv : ((b₀.toNat - 0xE0) * 64 + (b₁.toNat - 0x80)) * 64 + (b₂.toNat - 0x80) = v := by omega
    rw [go_lead (openWith_three (by omega) (by omega)), go_more, go_last]
    case hn => simp
    case h => simp only [UInt8.le_iff_toNat_le, UInt8.reduceToNat]; omega
    case hn => simp
    case h =>
      simp only [UInt8.le_iff_toNat_le]
      split <;> split <;> simp only [UInt8.reduceToNat] <;> omega
    simp only [hv]
  case four b₀ b₁ b₂ b₃ h h' h₀ h₁ h₂ h₃ =>
    have hv :
        (((b₀.toNat - 0xF0) * 64 + (b₁.toNat - 0x80)) * 64 + (b₂.toNat - 0x80)) * 64 + (b₃.toNat - 0x80) = v := by
      omega
    rw [go_lead (openWith_four (by omega) (by omega)), go_more, go_more, go_last]
    case hn => simp
    case h => simp only [UInt8.le_iff_toNat_le, UInt8.reduceToNat]; omega
    case hn => simp
    case h => simp only [UInt8.le_iff_toNat_le, UInt8.reduceToNat]; omega
    case hn => simp
    case h =>
      simp only [UInt8.le_iff_toNat_le]
      split <;> split <;> simp only [UInt8.reduceToNat] <;> omega
    simp only [hv]

-- An open sequence comes to a character only through a byte in its range.
theorem exists_next {l : List (Option Char)} (h : go (some p) bytes = some c :: l) :
    ∃ b rest, bytes = b :: rest ∧ p.low ≤ b ∧ b ≤ p.high := by
  cases bytes
  case nil => simp [go] at h
  case cons b rest =>
    by_cases hr : p.low ≤ b ∧ b ≤ p.high
    case pos => exact ⟨b, rest, rfl, hr⟩
    case neg => simp [go_broken hr] at h

theorem exists_last {l : List (Option Char)} (hn : p.need ≤ 1) (h : go (some p) bytes = some c :: l) :
    ∃ b rest, bytes = b :: rest ∧ p.low.toNat ≤ b.toNat ∧ b.toNat ≤ p.high.toNat ∧
      c = Char.ofNat (p.bits * 64 + (b.toNat - 0x80)) ∧ l = go none rest := by
  have ⟨b, rest, hb, hr⟩ := exists_next h
  simp only [hb, go_last hn hr, List.cons.injEq, Option.some.injEq] at h
  exact ⟨b, rest, hb, UInt8.le_iff_toNat_le.mp hr.left, UInt8.le_iff_toNat_le.mp hr.right, h.left.symm, h.right.symm⟩

theorem exists_more {l : List (Option Char)} (hn : ¬p.need ≤ 1) (h : go (some p) bytes = some c :: l) :
    ∃ b rest, bytes = b :: rest ∧ p.low.toNat ≤ b.toNat ∧ b.toNat ≤ p.high.toNat ∧
      go (some ⟨p.need - 1, 0x80, 0xBF, p.bits * 64 + (b.toNat - 0x80)⟩) rest = some c :: l := by
  have ⟨b, rest, hb, hr⟩ := exists_next h
  rw [hb, go_more hn hr] at h
  exact ⟨b, rest, hb, UInt8.le_iff_toNat_le.mp hr.left, UInt8.le_iff_toNat_le.mp hr.right, h⟩

-- The bytes begin with those of the character, and what is left makes the other chunks.
def Begins (bytes : List UInt8) (c : Char) (l : List (Option Char)) : Prop :=
  ∃ v w rest, Sequence v w ∧ bytes = w ++ rest ∧ c = Char.ofNat v ∧ l = go none rest

section Begins

variable {l : List (Option Char)}

theorem begins_two (h₀ : 0xC2 ≤ b.toNat) (h₁ : b.toNat < 0xE0) (h : go none (b :: bytes) = some c :: l) :
    Begins (b :: bytes) c l := by
  rw [go_lead (openWith_two h₀ h₁)] at h
  have ⟨b₁, rest, hb, hl, hh, hc, hr⟩ := exists_last (Nat.le_refl 1) h
  simp only [UInt8.reduceToNat] at hl hh hc
  exact ⟨_, [b, b₁], rest, .two (by omega) (by omega) (by omega) (by omega), hb ▸ rfl, hc, hr⟩

theorem begins_three (h₀ : 0xE0 ≤ b.toNat) (h₁ : b.toNat < 0xF0) (h : go none (b :: bytes) = some c :: l) :
    Begins (b :: bytes) c l := by
  rw [go_lead (openWith_three h₀ h₁)] at h
  have ⟨b₁, _, hb₁, hl₁, hh₁, h⟩ := exists_more (by decide : ¬2 ≤ 1) h
  have ⟨b₂, rest, hb₂, hl₂, hh₂, hc, hr⟩ := exists_last (by decide : 2 - 1 ≤ 1) h
  simp only [UInt8.reduceToNat] at hl₁ hh₁ hl₂ hh₂ hc
  refine ⟨_, [b, b₁, b₂], rest, ?_, hb₁ ▸ hb₂ ▸ rfl, hc, hr⟩
  split at hl₁ <;> split at hh₁ <;> simp only [UInt8.reduceToNat] at hl₁ hh₁
  all_goals exact .three (by omega) (by omega) (by omega) (by omega) (by omega) (by omega)

theorem begins_four (h₀ : 0xF0 ≤ b.toNat) (h₁ : b.toNat < 0xF5) (h : go none (b :: bytes) = some c :: l) :
    Begins (b :: bytes) c l := by
  rw [go_lead (openWith_four h₀ h₁)] at h
  have ⟨b₁, _, hb₁, hl₁, hh₁, h⟩ := exists_more (by decide : ¬3 ≤ 1) h
  have ⟨b₂, _, hb₂, hl₂, hh₂, h⟩ := exists_more (by decide : ¬3 - 1 ≤ 1) h
  have ⟨b₃, rest, hb₃, hl₃, hh₃, hc, hr⟩ := exists_last (by decide : 3 - 1 - 1 ≤ 1) h
  simp only [UInt8.reduceToNat] at hl₁ hh₁ hl₂ hh₂ hl₃ hh₃ hc
  refine ⟨_, [b, b₁, b₂, b₃], rest, ?_, hb₁ ▸ hb₂ ▸ hb₃ ▸ rfl, hc, hr⟩
  split at hl₁ <;> split at hh₁ <;> simp only [UInt8.reduceToNat] at hl₁ hh₁
  all_goals exact .four (by omega) (by omega) (by omega) (by omega) (by omega) (by omega)

-- Where a character comes out, its bytes stood.
theorem begins (h : go none bytes = some c :: l) : Begins bytes c l := by
  cases bytes
  case nil => simp [go] at h
  case cons b rest =>
    by_cases h₁ : b.toNat < 0x80
    case pos =>
      simp only [go_char (openWith_one h₁), List.cons.injEq, Option.some.injEq] at h
      exact ⟨_, [b], rest, .one h₁ rfl, rfl, h.left.symm, h.right.symm⟩
    by_cases hf : b.toNat < 0xC2 ∨ 0xF5 ≤ b.toNat
    case pos => simp [go_fault (openWith_fault (by omega) hf)] at h
    by_cases h₂ : b.toNat < 0xE0
    case pos => exact begins_two (by omega) h₂ h
    by_cases h₃ : b.toNat < 0xF0
    case pos => exact begins_three (by omega) h₃ h
    case neg => exact begins_four (by omega) (by omega) h

end Begins

theorem go_some_ne_nil (p : Pending) : go (some p) bytes ≠ [] := by
  induction bytes generalizing p
  case nil => simp [go]
  case cons b rest hi =>
    by_cases hr : p.low ≤ b ∧ b ≤ p.high
    case neg => simp [go_broken hr]
    case pos =>
      by_cases hn : p.need ≤ 1
      case pos => simp [go_last hn hr]
      case neg => rw [go_more hn hr]; exact hi _

theorem go_none_eq_nil_iff : go none bytes = [] ↔ bytes = [] := by
  cases bytes
  case nil => simp [go]
  case cons b rest =>
    cases h : openWith b
    case char  => simp [go_char h]
    case lead  => simpa [go_lead h] using go_some_ne_nil _
    case fault => simp [go_fault h]

theorem lead_low {b : UInt8} {p : Pending} (h : openWith b = .lead p) : 0x80 ≤ p.low := by
  by_cases h₁ : b.toNat < 0x80
  case pos => simp [openWith_one h₁] at h
  by_cases hf : b.toNat < 0xC2 ∨ 0xF5 ≤ b.toNat
  case pos => simp [openWith_fault (by omega) hf] at h
  by_cases h₂ : b.toNat < 0xE0
  case pos =>
    rw [openWith_two (by omega) h₂, Opening.lead.injEq] at h
    subst h
    exact UInt8.le_refl _
  by_cases h₃ : b.toNat < 0xF0
  case pos =>
    rw [openWith_three (by omega) h₃, Opening.lead.injEq] at h
    subst h
    simp only
    split <;> decide
  case neg =>
    rw [openWith_four (by omega) (by omega), Opening.lead.injEq] at h
    subst h
    simp only
    split <;> decide

-- An ASCII byte breaks whatever is open before it, and leaves nothing open. Both parts go through one induction on
-- the bytes before it: a sequence is opened in the first and comes to its end in the second.
theorem go_append_cons {b : UInt8} (hb : b.toNat < 0x80) (xs ys : List UInt8) :
    go none (xs ++ b :: ys) = go none xs ++ some (Char.ofNat b.toNat) :: go none ys ∧
    ∀ p : Pending, 0x80 ≤ p.low →
      go (some p) (xs ++ b :: ys) = go (some p) xs ++ some (Char.ofNat b.toNat) :: go none ys := by
  have hc : go none (b :: ys) = _ := go_char (openWith_one hb)
  induction xs
  case nil =>
    refine ⟨by simpa [go] using hc, fun p hp => ?_⟩
    have hr : ¬(p.low ≤ b ∧ b ≤ p.high) := by
      simp only [UInt8.le_iff_toNat_le, UInt8.reduceToNat] at hp ⊢
      omega
    rw [List.nil_append, go_broken hr, hc]
    rfl
  case cons x xs hi =>
    have hn : go none (x :: xs ++ b :: ys) = go none (x :: xs) ++ some (Char.ofNat b.toNat) :: go none ys := by
      rw [List.cons_append]
      cases h : openWith x
      case char  => rw [go_char h, go_char h, hi.left, List.cons_append]
      case lead  => rw [go_lead h, go_lead h, hi.right _ (lead_low h)]
      case fault => rw [go_fault h, go_fault h, hi.left, List.cons_append]
    refine ⟨hn, fun p hp => ?_⟩
    rw [List.cons_append] at hn ⊢
    by_cases hr : p.low ≤ x ∧ x ≤ p.high
    case neg => rw [go_broken hr, go_broken hr, hn, List.cons_append]
    case pos =>
      by_cases hl : p.need ≤ 1
      case pos => rw [go_last hl hr, go_last hl hr, hi.left, List.cons_append]
      case neg => rw [go_more hl hr, go_more hl hr, hi.right _ (UInt8.le_refl _)]

end chunks

theorem chunks_append_cons {b : UInt8} (hb : b.toNat < 0x80) (xs ys : List UInt8) :
    chunks (xs ++ b :: ys) = chunks xs ++ some (Char.ofNat b.toNat) :: chunks ys :=
  chunks.go_append_cons hb xs ys |>.left

theorem chunks_encode (cs : List Char) : chunks (encode cs) = cs.map some := by
  induction cs
  case nil => rfl
  case cons c cs hi =>
    have h : chunks.go none (String.utf8EncodeChar c ++ encode cs) = _ :=
      chunks.go_sequence <| Sequence.encodeChar c
    rw [Char.ofNat_toNat] at h
    rw [List.map_cons, ← hi]
    exact h

theorem encode_eq_of_chunks {cs : List Char} {bytes : List UInt8} (h : chunks bytes = cs.map some) :
    encode cs = bytes := by
  induction cs generalizing bytes
  case nil => exact (chunks.go_none_eq_nil_iff.mp h).symm
  case cons c cs hi =>
    have ⟨v, w, rest, hs, hb, hc, hl⟩ := chunks.begins h
    have hw : w = String.utf8EncodeChar c := hc ▸ hs.eq_encodeChar
    rw [hb, hw, ← hi hl.symm]
    rfl

theorem mapM_id_eq_some_iff {α : Type} {l : List (Option α)} {as : List α} :
    l.mapM id = some as ↔ l = as.map some := by
  induction l generalizing as
  case nil => cases as <;> simp
  case cons o l hi =>
    rw [List.mapM_cons]
    cases o
    case none => cases as <;> simp
    case some a =>
      cases as
      case nil         => simp [Option.bind_eq_some_iff]
      case cons a' as' =>
        simp only [id, Option.bind_eq_bind, Option.bind_some, Option.bind_eq_some_iff, hi, Option.pure_def,
          Option.some.injEq, List.cons.injEq, List.map_cons, exists_eq_right_right]
        exact and_comm

theorem decode?_eq_some_iff {bytes : List UInt8} {cs : List Char} : decode? bytes = some cs ↔ encode cs = bytes := by
  simp only [decode?, mapM_id_eq_some_iff]
  constructor
  case mp  => exact encode_eq_of_chunks
  case mpr => exact fun h => h ▸ chunks_encode cs

theorem decode?_encode (cs : List Char) : decode? (encode cs) = some cs :=
  decode?_eq_some_iff.mpr rfl

theorem encode_append (cs ds : List Char) : encode (cs ++ ds) = encode cs ++ encode ds :=
  List.flatMap_append

theorem length_encode_cons (c : Char) (cs : List Char) :
    (encode (c :: cs)).length = c.utf8Size + (encode cs).length := by
  rw [← String.length_utf8EncodeChar, ← List.length_append]
  rfl

theorem size_eq_length (cs : List Char) : size cs = (encode cs).length := by
  have h (n : Nat) : cs.foldl (fun n c => n + c.utf8Size) n = n + (encode cs).length := by
    induction cs generalizing n
    case nil => rfl
    case cons c cs hi => rw [List.foldl_cons, hi, length_encode_cons, Nat.add_assoc]
  exact (h 0).trans <| Nat.zero_add _

-- An ASCII byte is in the bytes of a text only as the character that it is.
theorem mem_encode_iff {b : UInt8} (hb : b.toNat < 0x80) {cs : List Char} :
    b ∈ encode cs ↔ Char.ofNat b.toNat ∈ cs := by
  constructor
  case mp =>
    intro h
    have ⟨xs, ys, he⟩ := List.append_of_mem h
    have hc := chunks_encode cs
    rw [he, chunks_append_cons hb] at hc
    have hm : some (Char.ofNat b.toNat) ∈ cs.map some := hc ▸ List.mem_append_right _ List.mem_cons_self
    have ⟨_, hc, hs⟩ := List.mem_map.mp hm
    exact Option.some.inj hs ▸ hc
  case mpr =>
    intro h
    have hs : [b] = String.utf8EncodeChar (Char.ofNat b.toNat) := (Sequence.one hb rfl).eq_encodeChar
    exact List.mem_flatMap.mpr ⟨_, h, hs ▸ List.mem_singleton_self b⟩

-- ASCII bytes are those of the characters that they are.
theorem encode_map_ofNat {bytes : List UInt8} (h : ∀ b ∈ bytes, b.toNat < 0x80) :
    encode (bytes.map fun b => Char.ofNat b.toNat) = bytes := by
  induction bytes
  case nil => rfl
  case cons b bytes hi =>
    have ⟨hb, h⟩ := List.forall_mem_cons.mp h
    have hs : [b] = String.utf8EncodeChar (Char.ofNat b.toNat) := (Sequence.one hb rfl).eq_encodeChar
    have hi := hi h
    rw [encode] at hi
    rw [List.map_cons, encode, List.flatMap_cons, hi, ← hs, List.singleton_append]

-- An ASCII text takes one byte for each character.
theorem encode_eq_map {cs : List Char} (h : ∀ c ∈ cs, c.toNat < 0x80) :
    encode cs = cs.map fun c => UInt8.ofNat c.toNat := by
  induction cs
  case nil => rfl
  case cons c cs hi =>
    have ⟨hc, h⟩ := List.forall_mem_cons.mp h
    have hb : (UInt8.ofNat c.toNat).toNat = c.toNat := UInt8.toNat_ofNat_of_lt' <| by unfold UInt8.size; omega
    have hs : String.utf8EncodeChar c = [UInt8.ofNat c.toNat] := Sequence.unique (.encodeChar c) (.one hc hb)
    have hi := hi h
    rw [encode] at hi
    rw [encode, List.flatMap_cons, hi, hs, List.map_cons, List.singleton_append]

-- The bytes of some text.
def Valid (bytes : List UInt8) : Prop :=
  ∃ cs, encode cs = bytes

theorem valid_encode (cs : List Char) : Valid (encode cs) :=
  ⟨cs, rfl⟩

theorem decode?_eq_none_iff {bytes : List UInt8} : decode? bytes = none ↔ ¬Valid bytes := by
  simp only [Option.eq_none_iff_forall_ne_some, ne_eq, decode?_eq_some_iff, Valid, not_exists]

theorem valid_append_cons_iff {b : UInt8} (hb : b.toNat < 0x80) {xs ys : List UInt8} :
    Valid (xs ++ b :: ys) ↔ Valid xs ∧ Valid ys := by
  constructor
  case mp =>
    intro ⟨cs, h⟩
    have hc := chunks_encode cs
    rw [h, chunks_append_cons hb, eq_comm, List.map_eq_append_iff] at hc
    have ⟨as, bs, _, ha, hb⟩ := hc
    have ⟨_, cs', _, _, hc'⟩ := List.map_eq_cons_iff.mp hb
    exact ⟨⟨as, encode_eq_of_chunks ha.symm⟩, ⟨cs', encode_eq_of_chunks hc'.symm⟩⟩
  case mpr =>
    intro ⟨⟨as, ha⟩, ⟨cs, hc⟩⟩
    refine ⟨as ++ Char.ofNat b.toNat :: cs, encode_eq_of_chunks ?_⟩
    rw [chunks_append_cons hb, ← ha, ← hc, chunks_encode, chunks_encode, List.map_append, List.map_cons]

end ProcessControl.Text.Utf8
