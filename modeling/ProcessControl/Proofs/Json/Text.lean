import Mathlib.Tactic.SplitIfs
import ProcessControl.Json.Shape
import ProcessControl.Proofs.Json.Reading

namespace ProcessControl.Json.Reader

open Text

section Bytes

variable {b : UInt8} {c : Char} {w : List UInt8} (done rest : List UInt8)

-- A byte that stands for itself in a text.
def Plain (b : UInt8) : Prop :=
  0x20 ≤ b.toNat ∧ b.toNat ≠ 0x22 ∧ b.toNat ≠ 0x5C

instance (b : UInt8) : Decidable (Plain b) :=
  inferInstanceAs <| Decidable (_ ∧ _)

theorem stringBytes_plain (h : Plain b) : stringBytes done (b :: rest) = stringBytes (b :: done) rest := by
  have ⟨hl, hq, hs⟩ := h
  have hq : b ≠ 0x22 := fun he => hq <| congrArg UInt8.toNat he
  have hs : b ≠ 0x5C := fun he => hs <| congrArg UInt8.toNat he
  have hl : ¬b < 0x20 := fun h => absurd (UInt8.lt_iff_toNat_lt.mp h) <| Nat.not_lt.mpr hl
  rw [stringBytes]
  · rw [if_neg hl]
  all_goals intros; contradiction

theorem stringBytes_append (h : ∀ b ∈ w, Plain b) :
    stringBytes done (w ++ rest) = stringBytes (w.reverse ++ done) rest := by
  induction w generalizing done
  case nil => rfl
  case cons b w hi =>
    have ⟨hb, hw⟩ := List.forall_mem_cons.mp h
    rw [List.cons_append, stringBytes_plain done _ hb, hi _ hw, List.reverse_cons, List.append_assoc]
    rfl

theorem plain_of_mem_utf8EncodeChar (hl : 0x20 ≤ c.toNat) (hq : c.toNat ≠ 0x22) (hs : c.toNat ≠ 0x5C) :
    ∀ b ∈ String.utf8EncodeChar c, Plain b := by
  have h := Utf8.Sequence.encodeChar c
  generalize String.utf8EncodeChar c = w at h
  unfold Plain
  cases h <;> simp only [List.forall_mem_cons, List.not_mem_nil, false_implies, implies_true, and_true] <;> omega

end Bytes

section Spelling

-- The bytes between two quotes, and the characters that they stand for.
inductive Spells : List UInt8 → List Char → Prop
  | nil : Spells [] []
  | plain {c : Char} {w : List UInt8} {cs : List Char} :
    0x20 ≤ c.toNat → c ≠ '"' → c ≠ '\\' → Spells w cs → Spells (String.utf8EncodeChar c ++ w) (c :: cs)
  | letter {b : UInt8} {c : Char} {w : List UInt8} {cs : List Char} :
    c.toNat < 0x80 → unescape? b = some (byte c) → Spells w cs → Spells (byte '\\' :: b :: w) (c :: cs)
  | code {a b c d : UInt8} {n : Nat} {w : List UInt8} {cs : List Char} :
    hex4? a b c d = some n → n < 0xD800 ∨ 0xDFFF < n → Spells w cs →
    Spells (byte '\\' :: byte 'u' :: a :: b :: c :: d :: w) (Char.ofNat n :: cs)
  -- The two halves of a character whose number has more than four digits.
  | pair {a b c d e f g h : UInt8} {n m : Nat} {w : List UInt8} {cs : List Char} :
    hex4? a b c d = some n → 0xD800 ≤ n → n < 0xDC00 → hex4? e f g h = some m → 0xDC00 ≤ m → m ≤ 0xDFFF →
    Spells w cs → Spells
      (byte '\\' :: byte 'u' :: a :: b :: c :: d :: byte '\\' :: byte 'u' :: e :: f :: g :: h :: w)
      (Char.ofNat (0x10000 + (n - 0xD800) * 0x400 + (m - 0xDC00)) :: cs)

variable {c : Char} {w : List UInt8} {cs : List Char}

theorem ne_u_of_unescape? {b : UInt8} (h : (unescape? b).isSome) : b ≠ 0x75 := by
  intro hb
  rw [hb] at h
  cases h

theorem reverse_append_encode_cons (done : List UInt8) (c : Char) (cs : List Char) :
    done.reverse ++ Utf8.encode (c :: cs) = ((String.utf8EncodeChar c).reverse ++ done).reverse ++ Utf8.encode cs := by
  rw [List.reverse_append, List.reverse_reverse, List.append_assoc]
  rfl

-- However characters are spelled, they are read as their own bytes.
theorem stringBytes_spells (h : Spells w cs) (done rest : List UInt8) :
    stringBytes done (w ++ byte '"' :: rest) = .ok (done.reverse ++ Utf8.encode cs, rest) := by
  induction h generalizing done
  case nil =>
    have hn : done.reverse ++ Utf8.encode [] = done.reverse := List.append_nil _
    rw [hn]
    rfl
  case plain c w cs hl hq hs _ hi =>
    have hq : c.toNat ≠ 0x22 := fun h => hq <| Char.toNat_inj.mp h
    have hs : c.toNat ≠ 0x5C := fun h => hs <| Char.toNat_inj.mp h
    rw [List.append_assoc, stringBytes_append _ _ <| plain_of_mem_utf8EncodeChar hl hq hs, hi,
      reverse_append_encode_cons]
  case letter b c w cs hc hl _ hi =>
    have hb : b ≠ 0x75 := ne_u_of_unescape? <| Option.isSome_of_eq_some hl
    have hw : byte '\\' :: b :: w ++ byte '"' :: rest = 0x5C :: b :: (w ++ byte '"' :: rest) := rfl
    rw [hw, stringBytes, hl, reverse_append_encode_cons, utf8EncodeChar_eq hc]
    · exact hi _
    all_goals intros; contradiction
  case code a b c d n w cs hn hs _ hi =>
    have hw : byte '\\' :: byte 'u' :: a :: b :: c :: d :: w ++ byte '"' :: rest =
      0x5C :: 0x75 :: a :: b :: c :: d :: (w ++ byte '"' :: rest) := rfl
    rw [hw, stringBytes]
    simp only [hn, if_pos hs, hi, reverse_append_encode_cons]
  case pair a b c d e f g h n m w cs hn hl hh hm hl' hh' _ hi =>
    have hw : byte '\\' :: byte 'u' :: a :: b :: c :: d :: byte '\\' :: byte 'u' :: e :: f :: g :: h :: w ++
      byte '"' :: rest =
        0x5C :: 0x75 :: a :: b :: c :: d :: 0x5C :: 0x75 :: e :: f :: g :: h :: (w ++ byte '"' :: rest) := rfl
    have hs : ¬(n < 0xD800 ∨ 0xDFFF < n) := by omega
    have hd : ¬0xDC00 ≤ n := by omega
    have hr : ¬(m < 0xDC00 ∨ 0xDFFF < m) := by omega
    rw [hw, stringBytes]
    simp only [hn, hm, if_neg hs, if_neg hd, if_neg hr, hi, reverse_append_encode_cons]

theorem hex4?_control : ∀ n < 0x20,
    hex4? 0x30 0x30 (byte <| hexDigit (n / 16)) (byte <| hexDigit (n % 16)) = some n := by
  decide

theorem toNat_hexDigit : ∀ n < 16, (hexDigit n).toNat < 0x80 := by
  decide

theorem encode_control (h : c.toNat < 0x20) :
    Utf8.encode ['\\', 'u', '0', '0', hexDigit (c.toNat / 16), hexDigit (c.toNat % 16)] =
      [0x5C, 0x75, 0x30, 0x30, byte <| hexDigit (c.toNat / 16), byte <| hexDigit (c.toNat % 16)] := by
  have hh := toNat_hexDigit (c.toNat / 16) (by omega)
  have hl := toNat_hexDigit (c.toNat % 16) (by omega)
  rw [encode_cons (by decide), encode_cons (by decide), encode_cons (by decide), encode_cons (by decide),
    encode_cons hh, encode_cons hl]
  rfl

theorem Spells.escape (c : Char) (h : Spells w cs) : Spells (Utf8.encode (Json.escape c) ++ w) (c :: cs) := by
  unfold Json.escape
  split_ifs with h₁ h₂ h₃ h₄ h₅ h₆ h₇ hc
  case pos => subst h₁; exact .letter (by decide) rfl h
  case pos => subst h₂; exact .letter (by decide) rfl h
  case pos => subst h₃; exact .letter (by decide) rfl h
  case pos => subst h₄; exact .letter (by decide) rfl h
  case pos => subst h₅; exact .letter (by decide) rfl h
  case pos => subst h₆; exact .letter (by decide) rfl h
  case pos => subst h₇; exact .letter (by decide) rfl h
  case pos =>
    -- A control character without a letter of its own is written by its number.
    have hs := Spells.code (hex4?_control c.toNat hc) (by omega) h
    rw [Char.ofNat_toNat] at hs
    rw [encode_control hc]
    exact hs
  case neg =>
    have he : Utf8.encode [c] = String.utf8EncodeChar c := List.append_nil _
    exact he ▸ .plain (Nat.not_lt.mp hc) h₁ h₂ h

-- What is written of a text spells it.
theorem spells_escaped (cs : List Char) : Spells (Utf8.encode (cs.flatMap Json.escape)) cs := by
  induction cs
  case nil => exact .nil
  case cons c cs hi =>
    rw [List.flatMap_cons, Utf8.encode_append]
    exact hi.escape c

-- The opening quote has been read before.
theorem gives_spelled (h : Spells w cs) (rest : List UInt8) :
    string.Gives (w ++ byte '"' :: rest) (String.ofList cs) rest := by
  have hb := stringBytes_spells h [] rest
  rw [List.reverse_nil, List.nil_append] at hb
  generalize w ++ byte '"' :: rest = bytes at hb
  have hl : (liftM (stringBytes [] bytes) : Reader _).Gives bytes (Utf8.encode cs, rest) bytes := by
    rw [hb]
    rfl
  have hs : (set rest : Reader PUnit).Gives bytes () rest := rfl
  refine Gives.bind (a := bytes) rfl <| hl.bind <| hs.bind ?_
  rw [Utf8.decode?_encode]
  exact .pure (String.ofList cs) rest

theorem gives_string (cs : List Char) (rest : List UInt8) :
    string.Gives (Utf8.encode (cs.flatMap escape ++ ['"']) ++ rest) (String.ofList cs) rest := by
  rw [Utf8.encode_append, List.append_assoc]
  exact gives_spelled (spells_escaped cs) rest

end Spelling

end ProcessControl.Json.Reader
