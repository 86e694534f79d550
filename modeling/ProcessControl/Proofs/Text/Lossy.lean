import ProcessControl.Proofs.Text.Utf8
import ProcessControl.Text.Blank
import ProcessControl.Text.Utf16

namespace ProcessControl.Text

namespace Utf8

variable {bytes : List UInt8} {c : Char}

-- After a fault the reader goes on with a part of the bytes that it has not read to their end.
theorem chunks.rest_of_open_fault {p : Pending} {l : List (Option Char)} (h : go (some p) bytes = none :: l) :
    ∃ rest, rest <:+ bytes ∧ l = go none rest := by
  induction bytes generalizing p
  case nil =>
    rw [go, List.cons.injEq] at h
    exact ⟨[], List.suffix_refl _, h.right.symm⟩
  case cons b bytes hi =>
    by_cases hr : p.low ≤ b ∧ b ≤ p.high
    case neg =>
      rw [go_broken hr, List.cons.injEq] at h
      exact ⟨b :: bytes, List.suffix_refl _, h.right.symm⟩
    case pos =>
      by_cases hn : p.need ≤ 1
      case pos => simp [go_last hn hr] at h
      case neg =>
        rw [go_more hn hr] at h
        obtain ⟨rest, hs, hl⟩ := hi h
        exact ⟨rest, hs.trans <| List.suffix_cons .., hl⟩

theorem chunks.rest_of_fault {b : UInt8} {l : List (Option Char)} (h : go none (b :: bytes) = none :: l) :
    ∃ rest, rest <:+ bytes ∧ l = go none rest := by
  cases ho : openWith b
  case char  => simp [go_char ho] at h
  case lead  => exact rest_of_open_fault (go_lead ho ▸ h)
  case fault =>
    rw [go_fault ho, List.cons.injEq] at h
    exact ⟨bytes, List.suffix_refl _, h.right.symm⟩

-- Each chunk takes some of the bytes, and one that is a character takes those of the character.
theorem chunks.exists_rest {o : Option Char} {l : List (Option Char)} (h : go none bytes = o :: l) :
    ∃ w rest, w ≠ [] ∧ bytes = w ++ rest ∧ l = go none rest ∧ ∀ c, o = some c → w = String.utf8EncodeChar c := by
  cases o
  case some c =>
    obtain ⟨v, w, rest, hs, hb, hc, hl⟩ := begins h
    have hw : w = String.utf8EncodeChar c := hc ▸ hs.eq_encodeChar
    exact ⟨w, rest, hw ▸ String.utf8EncodeChar_ne_nil, hb, hl, fun _ he => Option.some.inj he ▸ hw⟩
  case none =>
    cases bytes
    case nil => simp [go] at h
    case cons b bytes =>
      obtain ⟨rest, ⟨front, hf⟩, hl⟩ := rest_of_fault h
      refine ⟨b :: front, rest, List.cons_ne_nil b front, hf ▸ rfl, hl, fun c he => ?_⟩
      cases he

-- Bytes cut into chunks: the bytes of a character, or some bytes that are a fault.
inductive Cut : List UInt8 → List (Option Char) → Prop
  | nil : Cut [] []
  | char {rest l} (c : Char) : Cut rest l → Cut (String.utf8EncodeChar c ++ rest) (some c :: l)
  | fault {w rest l} : w ≠ [] → Cut rest l → Cut (w ++ rest) (none :: l)

theorem cut_chunks (bytes : List UInt8) : Cut bytes (chunks bytes) := by
  induction hn : bytes.length using Nat.strongRecOn generalizing bytes
  case ind n hi =>
    cases hl : chunks bytes
    case nil => exact chunks.go_none_eq_nil_iff.mp hl ▸ .nil
    case cons o l =>
      have ⟨w, rest, hw, hb, hr, hc⟩ := chunks.exists_rest hl
      have hs : rest.length < n := by
        have hp := List.length_pos_iff.mpr hw
        rw [← hn, hb, List.length_append]
        omega
      have ht : Cut rest l := hr ▸ hi _ hs rest rfl
      cases o
      case none   => exact hb ▸ .fault hw ht
      case some c => exact hb ▸ hc c rfl ▸ .char c ht

theorem infix_of_mem_chunks (h : some c ∈ chunks bytes) : String.utf8EncodeChar c <:+: bytes := by
  have hs := cut_chunks bytes
  generalize chunks bytes = l at h hs
  induction hs
  case nil => cases h
  case char hi =>
    cases List.mem_cons.mp h
    case inl he => exact Option.some.inj he ▸ (List.prefix_append ..).isInfix
    case inr hm => exact (hi hm).trans (List.suffix_append ..).isInfix
  case fault hi =>
    have hm := (List.mem_cons.mp h).resolve_left nofun
    exact (hi hm).trans (List.suffix_append ..).isInfix

-- No chunk is shorter than a third of what is written for it.
theorem length_encode_decodeLossy_le (bytes : List UInt8) : (encode (decodeLossy bytes)).length ≤ 3 * bytes.length := by
  have hs := cut_chunks bytes
  rw [decodeLossy]
  generalize chunks bytes = l at hs
  induction hs
  case nil => exact Nat.le_refl _
  case char c _ hi =>
    simp only [encode, List.map_cons, List.flatMap_cons, List.length_append, Option.getD_some] at hi ⊢
    omega
  case fault w _ _ hw _ hi =>
    have hp := List.length_pos_iff.mpr hw
    have hr : (String.utf8EncodeChar '\uFFFD').length = 3 := rfl
    simp only [encode, List.map_cons, List.flatMap_cons, List.length_append, Option.getD_none, hr] at hi ⊢
    omega

theorem decodeLossy_encode (cs : List Char) : decodeLossy (encode cs) = cs := by
  rw [decodeLossy, chunks_encode, List.map_map]
  exact List.map_id cs

-- Where nothing was replaced, the text is the one that the bytes encode.
theorem encode_decodeLossy (h : '\uFFFD' ∉ decodeLossy bytes) : encode (decodeLossy bytes) = bytes := by
  refine encode_eq_of_chunks ?_
  rw [decodeLossy, List.map_map]
  refine (List.map_id _).symm.trans <| List.map_congr_left fun o ho => ?_
  cases o
  case none => exact absurd (List.mem_map.mpr ⟨none, ho, rfl⟩) h
  case some => rfl

theorem infix_of_mem_decodeLossy (h : c ∈ decodeLossy bytes) (hc : c ≠ '\uFFFD') :
    String.utf8EncodeChar c <:+: bytes := by
  have ⟨o, ho, he⟩ := List.mem_map.mp h
  cases o
  case none   => exact absurd he.symm hc
  case some d => exact infix_of_mem_chunks (he ▸ ho)

theorem nul_not_mem_decodeLossy (h : 0 ∉ bytes) : '\x00' ∉ decodeLossy bytes :=
  fun hc => h <| (infix_of_mem_decodeLossy hc (by decide)).subset <| List.mem_singleton.mpr rfl

end Utf8

namespace Utf16

variable {units : List UInt16} {u v : UInt16} {c : Char}

theorem toNat_ofNat {n : Nat} (h : n.isValidChar) : (Char.ofNat n).toNat = n := by
  have hc : Char.ofNat n = Char.ofNatAux n h := dif_pos h
  rw [hc]
  rfl

theorem isHigh_iff : isHigh u = true ↔ 0xD800 ≤ u.toNat ∧ u.toNat ≤ 0xDBFF := by
  simp [isHigh, UInt16.le_iff_toNat_le]

theorem isLow_iff : isLow u = true ↔ 0xDC00 ≤ u.toNat ∧ u.toNat ≤ 0xDFFF := by
  simp [isLow, UInt16.le_iff_toNat_le]

-- A unit that is no surrogate is the number of a character.
theorem encodeChar_ofNat (hh : ¬isHigh u = true) (hl : ¬isLow u = true) : encodeChar (Char.ofNat u.toNat) = [u] := by
  rw [isHigh_iff] at hh
  rw [isLow_iff] at hl
  have hu := u.toNat_lt
  have hc : (Char.ofNat u.toNat).toNat = u.toNat := toNat_ofNat <| by unfold Nat.isValidChar; omega
  rw [encodeChar, hc, if_pos hu, UInt16.ofNat_toNat]

theorem encodeChar_pair (hh : isHigh u = true) (hl : isLow v = true) : encodeChar (pair u v) = [u, v] := by
  rw [isHigh_iff] at hh
  rw [isLow_iff] at hl
  have hc : (pair u v).toNat = 0x10000 + (u.toNat - 0xD800) * 0x400 + (v.toNat - 0xDC00) :=
    toNat_ofNat <| by unfold Nat.isValidChar; omega
  rw [encodeChar, hc, if_neg (by omega)]
  have hu : 0xD800 + (0x10000 + (u.toNat - 0xD800) * 0x400 + (v.toNat - 0xDC00) - 0x10000) / 0x400 = u.toNat := by
    omega
  have hv : 0xDC00 + (0x10000 + (u.toNat - 0xD800) * 0x400 + (v.toNat - 0xDC00) - 0x10000) % 0x400 = v.toNat := by
    omega
  rw [hu, hv, UInt16.ofNat_toNat, UInt16.ofNat_toNat]

theorem infix_of_mem_decodeLossy (h : c ∈ decodeLossy units) (hc : c ≠ '\uFFFD') : encodeChar c <:+: units := by
  fun_induction decodeLossy units
  case case1 => cases h
  case case2 u =>
    rw [List.mem_singleton] at h
    split at h
    case isTrue => exact absurd h hc
    case isFalse hs =>
      have ⟨hh, hl⟩ := not_or.mp <| mt Bool.or_eq_true_iff.mpr hs
      have he : encodeChar c = [u] := h ▸ encodeChar_ofNat hh hl
      exact he ▸ List.infix_refl _
  case case3 u v rest hh hl hi =>
    cases List.mem_cons.mp h
    case inl h => exact h ▸ encodeChar_pair hh hl ▸ (List.prefix_append [u, v] rest).isInfix
    case inr h => exact (hi h).trans (List.suffix_append [u, v] rest).isInfix
  case case4 u v rest _ _ hi =>
    cases List.mem_cons.mp h
    case inl h => exact absurd h hc
    case inr h => exact (hi h).trans (List.suffix_cons u _).isInfix
  case case5 u v rest _ _ hi =>
    cases List.mem_cons.mp h
    case inl h => exact absurd h hc
    case inr h => exact (hi h).trans (List.suffix_cons u _).isInfix
  case case6 u v rest hh hl hi =>
    cases List.mem_cons.mp h
    case inl h => exact h ▸ encodeChar_ofNat hh hl ▸ (List.prefix_append [u] (v :: rest)).isInfix
    case inr h => exact (hi h).trans (List.suffix_cons u _).isInfix

theorem nul_not_mem_decodeLossy (h : 0 ∉ units) : '\x00' ∉ decodeLossy units :=
  fun hc => h <| (infix_of_mem_decodeLossy hc (by decide)).subset <| List.mem_singleton.mpr rfl

end Utf16

theorem not_mem_takeWhile_ne {α : Type} [DecidableEq α] (a : α) (as : List α) : a ∉ as.takeWhile (· != a) := by
  intro h
  have hp := List.all_eq_true.mp List.all_takeWhile a h
  simp at hp

end ProcessControl.Text
