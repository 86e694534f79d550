import ProcessControl.Json.Shape
import ProcessControl.Proofs.Json.Reading
import ProcessControl.Proofs.Text.Decimal
import ProcessControl.Proofs.Text.Padding

namespace ProcessControl.Json.Reader

open Text

-- The bytes that may follow a value: what goes on or ends an array or object, and blanks.
def closers : List UInt8 :=
  [0x2C, 0x5D, 0x7D, 0x20, 0x0A, 0x09, 0x0D]

-- A value may end here.
def Closes (rest : List UInt8) : Prop :=
  ∀ b, rest.head? = some b → b ∈ closers

section Digits

variable {ds : List Char} {rest : List UInt8} {b : UInt8} {c : Char}

theorem isDigit_closer (h : b ∈ closers) : isDigit b = false := by
  have ha : closers.all (!isDigit ·) = true := rfl
  simpa using List.all_eq_true.mp ha b h

theorem byteChar_closer (h : b ∈ closers) : byteChar b ≠ '.' ∧ byteChar b ≠ 'e' ∧ byteChar b ≠ 'E' := by
  have ha : closers.all (fun b => byteChar b ≠ '.' ∧ byteChar b ≠ 'e' ∧ byteChar b ≠ 'E') = true := rfl
  simpa using List.all_eq_true.mp ha b h

-- No number goes on with a fraction or an exponent here.
theorem Closes.front_ne (hr : Closes rest) (h : rest.head?.map byteChar = some c) : c ≠ '.' ∧ c ≠ 'e' ∧ c ≠ 'E' := by
  have ⟨b, hb, hc⟩ := Option.map_eq_some_iff.mp h
  exact hc ▸ byteChar_closer (hr b hb)

-- Where a number ends, what stands there is not looked at any further.
theorem Closes.run_front? {α : Type} {k : Option Char → Reader α} {next : Reader α} (hr : Closes rest)
    (hk : ∀ c, c ≠ some '.' → c ≠ some 'e' → c ≠ some 'E' → k c = next) : (front? >>= k).run rest = next.run rest := by
  have hn (c : Char) (h : c = '.' ∨ c = 'e' ∨ c = 'E') : rest.head?.map byteChar ≠ some c := by
    intro hc
    have ⟨h₁, h₂, h₃⟩ := hr.front_ne hc
    rcases h with h | h | h <;> contradiction
  rw [(gives_head? rest).run_bind, hk _ (hn _ <| .inl rfl) (hn _ <| .inr <| .inl rfl) (hn _ <| .inr <| .inr rfl)]

theorem toNat_lt_of_isDigit (h : Decimal.isDigit c = true) : c.toNat < 0x80 :=
  Nat.lt_of_le_of_lt (Decimal.isDigit_iff.mp h).right (by decide)

theorem isDigit_byte (h : Decimal.isDigit c = true) : isDigit (byte c) = true := by
  have ⟨hl, hh⟩ := Decimal.isDigit_iff.mp h
  simp only [isDigit, Bool.and_eq_true, decide_eq_true_eq, UInt8.le_iff_toNat_le, toNat_byte <| toNat_lt_of_isDigit h]
  exact ⟨hl, hh⟩

theorem visible_of_isDigit (h : Decimal.isDigit c = true) : visible c = true := by
  have ⟨hl, _⟩ := Decimal.isDigit_iff.mp h
  have ht := toNat_lt_of_isDigit h
  rw [← toNat_byte ht] at hl
  have hn (b : UInt8) (hb : b.toNat < 0x30) : byte c ≠ b := fun he => absurd (he ▸ hl) (Nat.not_le.mpr hb)
  simp [visible, isBlank, ht, hn]

theorem isDigit_of_decimal (h : Decimal.isDigit c = true) : c.isDigit = true :=
  Char.isDigit_iff_toNat.mpr <| Decimal.isDigit_iff.mp h

theorem gives_peek?_digit (h : Decimal.isDigit c = true) (bytes : List UInt8) :
    peek?.Gives (byte c :: bytes) (some c) (byte c :: bytes) :=
  gives_peek? (visible_of_isDigit h) bytes

theorem encode_digits (h : ∀ c ∈ ds, Decimal.isDigit c = true) : Utf8.encode ds = ds.map byte :=
  Utf8.encode_eq_map fun c hc => toNat_lt_of_isDigit <| h c hc

-- A row of digits is read as far as it goes.
theorem gives_row {row : List UInt8} (h : ∀ b ∈ row, isDigit b = true)
    (hr : ∀ b, rest.head? = some b → isDigit b = false) : digits.Gives (row ++ rest) row rest := by
  have hg : digits.run (row ++ rest) = .ok ((row ++ rest).takeWhile isDigit, (row ++ rest).dropWhile isDigit) := rfl
  rw [Gives, hg, takeWhile_append_of_head? h hr, dropWhile_append_of_head? h hr]

theorem gives_digits (h : ∀ c ∈ ds, Decimal.isDigit c = true) (hr : Closes rest) :
    digits.Gives (ds.map byte ++ rest) (ds.map byte) rest := by
  refine gives_row (fun b hb => ?_) fun b hb => isDigit_closer <| hr b hb
  have ⟨c, hc, he⟩ := List.mem_map.mp hb
  exact he ▸ isDigit_byte (h c hc)

end Digits

section Values

variable {ds : List Char} {n limit : Nat} {rest : List UInt8}

theorem le_ofDigitChars (n : Nat) (ds : List Char) : n ≤ Nat.ofDigitChars 10 ds n := by
  induction ds generalizing n
  case nil => exact Nat.le_refl n
  case cons c ds hi =>
    have h := hi (10 * n + (c.toNat - '0'.toNat))
    exact Nat.le_trans (by omega) h

-- A number that fits is read to its last digit.
theorem absorb_digits (h : ∀ c ∈ ds, Decimal.isDigit c = true) (hl : Nat.ofDigitChars 10 ds n < UInt64.size) :
    absorb n (ds.map byte) = (Nat.ofDigitChars 10 ds n, ds.length) := by
  induction ds generalizing n
  case nil => rfl
  case cons c ds hi =>
    have ⟨hc, hd⟩ := List.forall_mem_cons.mp h
    have hv : (byte c).toNat - 0x30 = c.toNat - '0'.toNat := by rw [toNat_byte <| toNat_lt_of_isDigit hc]; rfl
    have hs : 10 * n + (c.toNat - '0'.toNat) < UInt64.size := Nat.lt_of_le_of_lt (le_ofDigitChars _ ds) hl
    simp only [List.map_cons, absorb, hv, if_pos hs, hi hd hl]
    rfl

-- No number is written with a zero before its other digits.
theorem digits_ne_zero_cons {b : UInt8} {bytes : List UInt8} :
    (Decimal.digits n).map byte ≠ 0x30 :: b :: bytes := by
  intro h
  have ⟨c, cs, hd, hc, hcs⟩ := List.map_eq_cons_iff.mp h
  by_cases hn : n = 0
  case pos =>
    subst hn
    have hz : Decimal.digits 0 = ['0'] := rfl
    rw [hz, List.cons.injEq] at hd
    rw [← hd.right] at hcs
    cases hcs
  case neg =>
    have ht : c.toNat < 0x80 := toNat_lt_of_isDigit <| Decimal.isDigit_of_mem_digits (hd ▸ List.mem_cons_self)
    have hz : c = '0' := by rw [← byteChar_byte ht, hc]; rfl
    exact Decimal.head?_digits_ne_zero hn <| hz ▸ hd ▸ rfl

theorem gives_number (hn : n < UInt64.size) (hr : Closes rest) :
    (number false).Gives (Utf8.encode (Decimal.digits n) ++ rest) (.natural n) rest := by
  have hd : ∀ c ∈ Decimal.digits n, Decimal.isDigit c = true := fun _ => Decimal.isDigit_of_mem_digits
  have ha : absorb 0 ((Decimal.digits n).map byte) = (n, ((Decimal.digits n).map byte).length) := by
    have hv : Nat.ofDigitChars 10 (Decimal.digits n) 0 = n := Decimal.value_digits n
    rw [absorb_digits hd (hv.symm ▸ hn), hv, List.length_map]
  rw [encode_digits hd, number]
  refine (gives_digits hd hr).bind ?_
  split
  case h_1 h => exact absurd (List.map_eq_nil_iff.mp h) Nat.toDigits_ne_nil
  case h_2 h => exact absurd h digits_ne_zero_cons
  case h_3 =>
    simp only [ha, Nat.sub_self]
    have hi : (integer false n 0).Gives rest (.natural n) rest := .pure _ rest
    refine Eq.trans (hr.run_front? fun c hp he hE => ?_) hi
    split
    case h_1 => contradiction
    case h_2 => contradiction
    case h_3 => contradiction
    case h_4 => rfl

-- The first digit tells that a number comes.
theorem run_natural {c : Char} (hc : Decimal.isDigit c = true) (limit : Nat) (expected : String) (bytes : List UInt8) :
    (natural limit expected).run (byte c :: bytes) =
      (do accept ((← number false).below limit expected) : Reader Nat).run (byte c :: bytes) := by
  refine ((gives_peek?_digit hc bytes).run_bind _).trans ?_
  split
  case h_1 he => cases he
  case h_2 he =>
    cases he
    cases hc
  case h_3 he =>
    cases he
    rw [if_pos <| isDigit_of_decimal hc]

theorem gives_natural (expected : String) (hn : n < UInt64.size) (hl : n < limit) (hr : Closes rest) :
    (natural limit expected).Gives (Utf8.encode (Decimal.digits n) ++ rest) n rest := by
  have ⟨c, cs, hd⟩ : ∃ c cs, Decimal.digits n = c :: cs := List.exists_cons_of_ne_nil Nat.toDigits_ne_nil
  have hc : Decimal.isDigit c = true := Decimal.isDigit_of_mem_digits (hd ▸ List.mem_cons_self)
  have hg := gives_number hn hr
  rw [hd, encode_cons <| toNat_lt_of_isDigit hc, List.cons_append] at hg ⊢
  rw [Gives, run_natural hc]
  refine hg.bind ?_
  rw [Number.below, if_pos hl]
  exact .pure n rest

end Values

end ProcessControl.Json.Reader
