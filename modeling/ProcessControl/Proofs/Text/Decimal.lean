import Mathlib.Algebra.Ring.Nat
import ProcessControl.Text.Decimal

namespace ProcessControl.Text.Decimal

variable {ds : List Char} {c : Char} {n limit : Nat}

theorem value_cons (c : Char) (ds : List Char) : value (c :: ds) = Nat.ofDigitChars 10 ds (digitValue c) := by
  have h : 10 * 0 + digitValue c = digitValue c := Nat.zero_add _
  rw [value, List.foldl_cons, h]
  rfl

theorem value_singleton (c : Char) : value [c] = digitValue c :=
  value_cons c []

theorem value_digits (n : Nat) : value (digits n) = n :=
  Nat.ofDigitChars_ten_toDigits

theorem value_replicate_zero_append (zeros : Nat) (ds : List Char) :
    value (List.replicate zeros '0' ++ ds) = value ds := by
  have h : Nat.ofDigitChars 10 (List.replicate zeros '0') 0 = 0 := by
    rw [Nat.ofDigitChars_replicate_zero, Nat.mul_zero]
  exact (Nat.ofDigitChars_append 0).trans <| congrArg _ h

theorem isDigit_iff : isDigit c = true ↔ 48 ≤ c.toNat ∧ c.toNat ≤ 57 := by
  simp only [isDigit, Bool.and_eq_true, decide_eq_true_eq, Char.le_def, UInt32.le_iff_toNat_le]
  rfl

theorem isDigit_of_mem_digits (h : c ∈ digits n) : isDigit c = true :=
  isDigit_iff.mpr <| Char.isDigit_iff_toNat.mp <| Nat.isDigit_of_mem_toDigits (by decide) (by decide) h

theorem digitValue_lt (h : isDigit c = true) : digitValue c < 10 := by
  have ⟨_, _⟩ := isDigit_iff.mp h
  have hz : '0'.toNat = 48 := rfl
  rw [digitValue, hz]
  omega

theorem value_lt (hd : ∀ c ∈ ds, isDigit c = true) : value ds < 10 ^ ds.length := by
  induction ds
  case nil => exact Nat.one_pos
  case cons c ds hi =>
    have ⟨hc, hds⟩ := List.forall_mem_cons.mp hd
    have hv : value (c :: ds) = value [c] * 10 ^ ds.length + value ds := value_append [c] ds
    have hm : (value [c] + 1) * 10 ^ ds.length ≤ 10 * 10 ^ ds.length :=
      Nat.mul_le_mul_right _ (value_singleton c ▸ digitValue_lt hc)
    have hs := hi hds
    rw [Nat.succ_mul] at hm
    rw [hv, List.length_cons, Nat.pow_succ']
    omega

theorem digitChar_digitValue (h : isDigit c = true) : (digitValue c).digitChar = c := by
  have ⟨_, _⟩ := isDigit_iff.mp h
  have hz : '0'.toNat = 48 := rfl
  have hv := Nat.toNat_digitChar_of_lt_ten <| digitValue_lt h
  rw [digitValue, hz] at hv ⊢
  apply Char.toNat_inj.mp
  omega

theorem digits_of_isDigit (h : isDigit c = true) : digits (digitValue c) = [c] := by
  rw [digits, Nat.toDigits_of_lt_base <| digitValue_lt h, digitChar_digitValue h]

-- More digits after those of a number that is not zero are those of one number again.
theorem digits_append (hn : 0 < n) (hd : ∀ c ∈ ds, isDigit c = true) :
    digits n ++ ds = digits (Nat.ofDigitChars 10 ds n) := by
  induction ds generalizing n
  case nil => exact List.append_nil _
  case cons c ds hi =>
    have ⟨hc, hd⟩ := List.forall_mem_cons.mp hd
    have hs : digits n ++ [c] = digits (10 * n + digitValue c) := by
      rw [← digits_of_isDigit hc]
      exact Nat.toDigits_append_toDigits (by decide) hn <| digitValue_lt hc
    have hp : 0 < 10 * n + digitValue c := by omega
    rw [← List.singleton_append, ← List.append_assoc, hs, hi hp hd]
    rfl

theorem exists_zeros_of_value (hd : ∀ c ∈ ds, isDigit c = true) (hv : value ds ≠ 0) :
    ∃ zeros, ds = List.replicate zeros '0' ++ digits (value ds) := by
  induction ds
  case nil => exact absurd rfl hv
  case cons c ds hi =>
    have ⟨hc, hds⟩ := List.forall_mem_cons.mp hd
    by_cases hz : c = '0'
    case pos =>
      subst hz
      have hs : value ('0' :: ds) = value ds := value_replicate_zero_append 1 ds
      rw [hs] at hv ⊢
      have ⟨zeros, he⟩ := hi hds hv
      exact ⟨zeros + 1, by rw [List.replicate_succ, List.cons_append, ← he]⟩
    case neg =>
      have hp : 0 < digitValue c := Nat.pos_of_ne_zero fun h => hz <| by
        rw [← digitChar_digitValue hc, h]
        rfl
      refine ⟨0, ?_⟩
      rw [value_cons, ← digits_append hp hds, digits_of_isDigit hc]
      rfl

-- A number that is not zero has no zero at its front: without it, the row would be shorter and denote the same.
theorem head?_digits_ne_zero (hn : n ≠ 0) : (digits n).head? ≠ some '0' := by
  intro h
  have ⟨ds, hs⟩ := List.head?_eq_some_iff.mp h
  have hd : ∀ c ∈ ds, isDigit c = true := fun c hc => isDigit_of_mem_digits <| hs ▸ List.mem_cons_of_mem _ hc
  have hv : value ds = n := by
    rw [← value_digits n, hs]
    exact (value_replicate_zero_append 1 ds).symm
  have ⟨zeros, hz⟩ := exists_zeros_of_value hd <| hv ▸ hn
  have hl := congrArg List.length hz
  rw [hv, hs, List.length_append, List.length_cons] at hl
  omega

theorem readPlain?_eq_some_iff :
    readPlain? limit ds = some n ↔ ds ≠ [] ∧ (∀ c ∈ ds, isDigit c = true) ∧ value ds = n ∧ n < limit := by
  simp only [readPlain?, valueUpTo_eq_min]
  split
  case isTrue h =>
    simp only [Option.filter_eq_some_iff, Option.some.injEq, decide_eq_true_eq]
    constructor
    case mp =>
      rintro ⟨hv, hl⟩
      exact ⟨h.left, List.all_eq_true.mp h.right, by omega, hl⟩
    case mpr =>
      rintro ⟨_, _, hv, hl⟩
      exact ⟨by omega, hl⟩
  case isFalse h =>
    simp only [reduceCtorEq, false_iff]
    rintro ⟨hn, hd, _⟩
    exact h ⟨hn, List.all_eq_true.mpr hd⟩

-- A row of digits with at most one plus sign before it, and the number that it denotes.
inductive Numeral : List Char → Nat → Prop
  | plain {ds : List Char} : ds ≠ [] → (∀ c ∈ ds, isDigit c = true) → Numeral ds (value ds)
  | plus {ds : List Char} : ds ≠ [] → (∀ c ∈ ds, isDigit c = true) → Numeral ('+' :: ds) (value ds)

theorem readBelow?_eq_some_iff {cs : List Char} : readBelow? limit cs = some n ↔ Numeral cs n ∧ n < limit := by
  unfold readBelow?
  rw [readPlain?_eq_some_iff]
  split
  case h_1 ds =>
    constructor
    case mp =>
      rintro ⟨hn, hd, rfl, hl⟩
      exact ⟨.plus hn hd, hl⟩
    case mpr =>
      rintro ⟨h, hl⟩
      cases h
      case plain hd    => cases hd '+' List.mem_cons_self
      case plus hn hd  => exact ⟨hn, hd, rfl, hl⟩
  case h_2 hp =>
    constructor
    case mp =>
      rintro ⟨hn, hd, rfl, hl⟩
      exact ⟨.plain hn hd, hl⟩
    case mpr =>
      rintro ⟨h, hl⟩
      cases h
      case plain hn hd => exact ⟨hn, hd, rfl, hl⟩
      case plus        => exact absurd rfl <| hp _

end ProcessControl.Text.Decimal
