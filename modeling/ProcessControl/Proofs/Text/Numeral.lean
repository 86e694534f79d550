import ProcessControl.Proofs.Text.Decimal
import ProcessControl.Proofs.Text.Padding
import ProcessControl.Text.Numeral

namespace ProcessControl.Text

namespace Binary64

variable {num den k : Nat}

theorem divideToEven_bounds (num den : Nat) :
    num / den ≤ divideToEven num den ∧ divideToEven num den ≤ num / den + 1 := by
  simp only [divideToEven]
  split <;> omega

-- Rounding at a place far enough behind the point does not change what is before it.
theorem divideToEven_div (hd : 0 < den) (h : 2 * den ≤ 2 ^ k) : divideToEven (num * 2 ^ k) den / 2 ^ k = num / den := by
  have ⟨hl, hu⟩ := divideToEven_bounds (num * 2 ^ k) den
  have hw : num / den * 2 ^ k ≤ num * 2 ^ k / den := by
    rw [Nat.le_div_iff_mul_le hd, Nat.mul_right_comm]
    exact Nat.mul_le_mul_right _ (Nat.div_mul_le_self num den)
  have hs : num + 1 ≤ (num / den + 1) * den := by
    rw [Nat.mul_comm]
    exact Nat.lt_mul_div_succ num hd
  have hv : (num * 2 ^ k / den + 2) * den ≤ (num / den + 1) * 2 ^ k * den := by
    calc (num * 2 ^ k / den + 2) * den
      _ = num * 2 ^ k / den * den + 2 * den     := Nat.add_mul ..
      _ ≤ num * 2 ^ k + 2 ^ k                   := Nat.add_le_add (Nat.div_mul_le_self ..) h
      _ = (num + 1) * 2 ^ k                     := (Nat.succ_mul ..).symm
      _ ≤ (num / den + 1) * den * 2 ^ k         := Nat.mul_le_mul_right _ hs
      _ = (num / den + 1) * 2 ^ k * den         := Nat.mul_right_comm ..
  have hv := Nat.le_of_mul_le_mul_right hv hd
  exact Nat.div_eq_of_lt_le (Nat.le_trans hw hl) (by omega)

theorem floor?_finite (m k : Nat) : (finite false m (-k)).floor? = some (m / 2 ^ k) := by
  cases k
  case zero => simp [floor?, scale]
  case succ k =>
    have h : ¬(0 : Int) ≤ -(k + 1 : Nat) := by omega
    simp only [floor?, scale, if_neg h, Nat.one_shiftLeft]
    simp

-- The place of the last binary digit of the double that is nearest to a ratio.
def lastPlace (num den : Nat) : Int :=
  let guess : Int := num.log2 - den.log2 - 52
  max (if ofRatio.fits num den guess then guess else guess - 1) (-1074)

theorem ofRatio_of_lastPlace (hn : num ≠ 0) (hk : lastPlace num den = -(k + 1 : Nat)) :
    ofRatio false num den =
      if divideToEven (num * 2 ^ (k + 1)) den = 2 ^ 53 then finite false (2 ^ 52) (-k)
      else finite false (divideToEven (num * 2 ^ (k + 1)) den) (-(k + 1 : Nat)) := by
  rw [lastPlace] at hk
  have hc : ¬(0 : Int) ≤ -(k + 1 : Nat) := by omega
  simp only [ofRatio, if_neg hn, hk, ofRatio.shifted, if_neg hc, Int.neg_neg, Int.toNat_natCast, Nat.shiftLeft_eq,
    Nat.one_mul]
  have he : (-(k + 1 : Nat) + 1 : Int) = -k := by omega
  split
  case isTrue  => rw [if_neg (by omega), he]
  case isFalse => rw [if_neg (by omega)]

theorem floor?_ofRatio (hd : 0 < den) (hn : num < 2 ^ 51) (hb : den < 2 ^ 200) :
    (ofRatio false num den).floor? = some (num / den) := by
  by_cases hz : num = 0
  case pos =>
    subst hz
    simp [ofRatio, floor?, scale]
  case neg =>
    have hl : num.log2 < 51 := (Nat.log2_lt hz).mpr hn
    have hm : den.log2 < 200 := (Nat.log2_lt <| Nat.ne_of_gt hd).mpr hb
    obtain ⟨k, hk, hp⟩ : ∃ k : Nat, den.log2 + 1 ≤ k ∧ lastPlace num den = -(k + 1 : Nat) := by
      refine ⟨(-lastPlace num den - 1).toNat, ?_, ?_⟩ <;> rw [lastPlace] <;> split <;> omega
    have hs : 2 * den ≤ 2 ^ (k + 1) := by
      have hs : den < 2 ^ (den.log2 + 1) := Nat.lt_log2_self
      have hs := Nat.lt_of_lt_of_le hs <| Nat.pow_le_pow_right (by decide) hk
      omega
    rw [ofRatio_of_lastPlace hz hp, ← divideToEven_div hd hs]
    split
    case isTrue h => rw [floor?_finite, h, Nat.pow_succ 2 52, Nat.pow_succ 2 k, Nat.mul_div_mul_right _ _ (by decide)]
    case isFalse  => rw [floor?_finite]

end Binary64

namespace Numeral

open Decimal

variable {whole fraction : List Char}

-- A text with a point in it is none of the words.
theorem isWord_of_point {cs : List Char} {word : String} (hp : '.' ∈ cs) (hw : '.' ∉ word.toList) :
    isWord cs word = false := by
  refine beq_eq_false_iff_ne.mpr fun h => hw ?_
  rw [← h]
  exact List.mem_map_of_mem hp

theorem unsigned?_digits (hw : whole ≠ []) (hd : ∀ c ∈ whole, isDigit c = true)
    (hf : ∀ c ∈ fraction, isDigit c = true) : unsigned? false (whole ++ '.' :: fraction) =
      some (.decimal false (value (whole ++ fraction)) (-fraction.length)) := by
  have hp : ∀ c, ('.' :: fraction).head? = some c → isDigit c = false := by
    rintro _ ⟨⟩
    rfl
  have hz : ∀ c, ([] : List Char).head? = some c → isDigit c = false := nofun
  have ht := takeWhile_append_of_head? hf hz
  have hr := dropWhile_append_of_head? hf hz
  rw [List.append_nil] at ht hr
  simp [unsigned?, takeWhile_append_of_head? hd hp, dropWhile_append_of_head? hd hp, ht, hr, hw, exponent?,
    valueInHalves_eq_value]

theorem read?_digits (hw : whole ≠ []) (hd : ∀ c ∈ whole, isDigit c = true) (hf : ∀ c ∈ fraction, isDigit c = true) :
    read? (whole ++ '.' :: fraction) = some (.decimal false (value (whole ++ fraction)) (-fraction.length)) := by
  have hp : '.' ∈ whole ++ '.' :: fraction := List.mem_append_right _ <| .head _
  obtain ⟨c, cs, rfl⟩ := List.exists_cons_of_ne_nil hw
  rw [List.cons_append] at hp ⊢
  unfold read?
  split
  case _ he =>
    split at he
    case h_1 h => cases h; cases hd '-' (.head _)
    case h_2 h => cases h; cases hd '+' (.head _)
    case h_3   =>
      cases he
      simp only [isWord_of_point hp (by decide : '.' ∉ "inf".toList),
        isWord_of_point hp (by decide : '.' ∉ "infinity".toList),
        isWord_of_point hp (by decide : '.' ∉ "nan".toList), Bool.or_false, Bool.false_eq_true, if_false]
      exact unsigned?_digits hw hd hf

theorem floor?_toBinary64 {c places : Nat} (hc : c < 2 ^ 51) (hp : places ≤ 60) :
    (decimal false c (-places)).toBinary64.floor? = some (c / 10 ^ places) := by
  have hb : 10 ^ places < 2 ^ 200 := Nat.lt_of_le_of_lt (Nat.pow_le_pow_right (by decide) hp) (by decide)
  simp only [toBinary64]
  split
  case isTrue hz =>
    subst hz
    rw [Nat.zero_div]
    rfl
  case isFalse hz =>
    have hl : c.log2 < 51 := (Nat.log2_lt hz).mpr hc
    rw [if_neg (by omega), if_neg (by omega)]
    split
    case isTrue h =>
      cases places
      case zero => simpa using Binary64.floor?_ofRatio Nat.one_pos hc (by decide)
      case succ => omega
    case isFalse =>
      rw [Int.neg_neg, Int.toNat_natCast]
      exact Binary64.floor?_ofRatio (Nat.pow_pos (by decide)) hc hb

-- With so few digits, what stands before the point is the whole part of the double.
theorem floor?_digits (hw : whole ≠ []) (hd : ∀ c ∈ whole, isDigit c = true) (hf : ∀ c ∈ fraction, isDigit c = true)
    (hl : fraction.length ≤ 60) (hv : value (whole ++ fraction) < 2 ^ 51) :
    ∃ n, read? (whole ++ '.' :: fraction) = some n ∧ n.toBinary64.floor? = some (value whole) := by
  refine ⟨_, read?_digits hw hd hf, ?_⟩
  rw [floor?_toBinary64 hv hl, value_append, Nat.pow_eq, Nat.mul_comm, Nat.mul_add_div (Nat.pow_pos (by decide)),
    Nat.div_eq_of_lt (value_lt hf), Nat.add_zero]

end Numeral

end ProcessControl.Text
