import ProcessControl.Proofs.Text.Lossy

namespace ProcessControl.Text.Utf16

-- How a character is written: as one unit, or as a pair of surrogates.
inductive Written : Char → List UInt16 → Prop
  | single {u} : isHigh u = false → isLow u = false → Written (Char.ofNat u.toNat) [u]
  | paired {u v} : isHigh u = true → isLow v = true → Written (pair u v) [u, v]

-- A surrogate that has no partner in what follows it. A low one never has: its partner would stand before it.
inductive Lone : UInt16 → List UInt16 → Prop
  | low {u rest} : isLow u = true → Lone u rest
  | high {u rest} : isHigh u = true → (∀ v, rest.head? = some v → isLow v = false) → Lone u rest

-- The piece that units begin with, and the units after it: a character, or a surrogate that has no partner.
inductive Begins : List UInt16 → Option Char → List UInt16 → Prop
  | char {rest} (c : Char) : Begins (encodeChar c ++ rest) (some c) rest
  | lone {u rest} : Lone u rest → Begins (u :: rest) none rest

-- Units cut into pieces from their front to their end.
inductive Cut : List UInt16 → List (Option Char) → Prop
  | nil : Cut [] []
  | cons {units piece rest pieces} : Begins units piece rest → Cut rest pieces → Cut units (piece :: pieces)

variable {units rest rest' w w' : List UInt16} {piece piece' : Option Char} {pieces pieces' : List (Option Char)}
  {u v : UInt16} {c c' : Char}

section Surrogates

theorem isLow_of_isHigh (h : isHigh u = true) : isLow u = false := by
  have ⟨_, _⟩ := isHigh_iff.mp h
  refine Bool.eq_false_iff.mpr fun hl => ?_
  have ⟨_, _⟩ := isLow_iff.mp hl
  omega

theorem isHigh_of_isLow (h : isLow u = true) : isHigh u = false :=
  Bool.eq_false_iff.mpr fun hh => Bool.eq_false_iff.mp (isLow_of_isHigh hh) h

-- No character is numbered like a surrogate.
theorem written_below (h : c.toNat < 0x10000) : Written c [UInt16.ofNat c.toNat] := by
  have hv : c.toNat.isValidChar := c.valid
  have hu : (UInt16.ofNat c.toNat).toNat = c.toNat := UInt16.toNat_ofNat_of_lt' h
  have hh : isHigh (UInt16.ofNat c.toNat) = false := by
    rw [Bool.eq_false_iff, ne_eq, isHigh_iff, hu]
    unfold Nat.isValidChar at hv
    omega
  have hl : isLow (UInt16.ofNat c.toNat) = false := by
    rw [Bool.eq_false_iff, ne_eq, isLow_iff, hu]
    unfold Nat.isValidChar at hv
    omega
  have hs := Written.single hh hl
  rwa [hu, Char.ofNat_toNat] at hs

theorem written_above (h : 0x10000 ≤ c.toNat) :
    Written c [UInt16.ofNat (0xD800 + (c.toNat - 0x10000) / 0x400),
      UInt16.ofNat (0xDC00 + (c.toNat - 0x10000) % 0x400)] := by
  have hv : c.toNat.isValidChar := c.valid
  unfold Nat.isValidChar at hv
  have hu : (UInt16.ofNat (0xD800 + (c.toNat - 0x10000) / 0x400)).toNat = 0xD800 + (c.toNat - 0x10000) / 0x400 :=
    UInt16.toNat_ofNat_of_lt' (by unfold UInt16.size; omega)
  have hw : (UInt16.ofNat (0xDC00 + (c.toNat - 0x10000) % 0x400)).toNat = 0xDC00 + (c.toNat - 0x10000) % 0x400 :=
    UInt16.toNat_ofNat_of_lt' (by unfold UInt16.size; omega)
  have hh : isHigh (UInt16.ofNat (0xD800 + (c.toNat - 0x10000) / 0x400)) = true := by
    rw [isHigh_iff, hu]
    omega
  have hl : isLow (UInt16.ofNat (0xDC00 + (c.toNat - 0x10000) % 0x400)) = true := by
    rw [isLow_iff, hw]
    omega
  have hn : 0x10000 + (0xD800 + (c.toNat - 0x10000) / 0x400 - 0xD800) * 0x400 +
      (0xDC00 + (c.toNat - 0x10000) % 0x400 - 0xDC00) = c.toNat := by
    omega
  have hs := Written.paired hh hl
  rwa [pair, hu, hw, hn, Char.ofNat_toNat] at hs

theorem written_encodeChar (c : Char) : Written c (encodeChar c) := by
  rw [encodeChar]
  split
  case isTrue h  => exact written_below h
  case isFalse h => exact written_above <| Nat.le_of_not_lt h

end Surrogates

namespace Written

theorem append_inj (h : Written c w) (h' : Written c' w') (he : w ++ rest = w' ++ rest') : c = c' ∧ rest = rest' := by
  cases h <;> cases h' <;> cases he
  case single.single              => exact ⟨rfl, rfl⟩
  case single.paired hh _ _ _ hh' => cases hh.symm.trans hh'
  case paired.single hh _ hh' _   => cases hh.symm.trans hh'
  case paired.paired              => exact ⟨rfl, rfl⟩

-- A surrogate of a pair has its partner.
theorem not_lone (h : Written c w) (he : w ++ rest' = u :: rest) : ¬Lone u rest := by
  intro hs
  cases h <;> injection he with hu hr <;> subst hu <;> cases hs
  case single.low _ hl hl'    => cases hl.symm.trans hl'
  case single.high hh _ hh' _ => cases hh.symm.trans hh'
  case paired.low hh _ hl     => cases (isLow_of_isHigh hh).symm.trans hl
  case paired.high _ hl _ hn  => cases (hn _ <| hr ▸ rfl).symm.trans hl

theorem length_pos (h : Written c w) : 0 < w.length := by
  cases h
  case single => exact Nat.one_pos
  case paired => exact Nat.two_pos

theorem decodeLossy_append (h : Written c w) (rest : List UInt16) :
    decodeLossy (w ++ rest) = c :: decodeLossy rest := by
  cases h
  case single hh hl =>
    rw [List.singleton_append]
    cases rest <;> simp [decodeLossy, hh, hl]
  case paired hh hl =>
    rw [List.cons_append, List.singleton_append, decodeLossy, if_pos hh, if_pos hl]

-- Zero is no surrogate, so nothing but NUL is written with it.
theorem eq_nul_of_zero_mem (h : Written c w) (hz : 0 ∈ w) : c = '\x00' := by
  cases h
  case single =>
    cases List.mem_singleton.mp hz
    rfl
  case paired hh hl =>
    cases hz
    case head    => cases hh
    case tail hz => cases List.mem_singleton.mp hz ▸ hl

end Written

section Pieces

theorem lone_last (h : isHigh u = true) : Lone u [] :=
  .high h nofun

theorem Begins.unique (h : Begins units piece rest) (h' : Begins units piece' rest') :
    piece = piece' ∧ rest = rest' := by
  generalize hu : units = units' at h'
  cases h <;> cases h'
  case char.char =>
    have ⟨hc, hr⟩ := (written_encodeChar _).append_inj (written_encodeChar _) hu
    exact ⟨congrArg some hc, hr⟩
  case char.lone hs   => exact absurd hs <| (written_encodeChar _).not_lone hu
  case lone.char hs _ => exact absurd hs <| (written_encodeChar _).not_lone hu.symm
  case lone.lone =>
    cases hu
    exact ⟨rfl, rfl⟩

theorem Begins.length_lt (h : Begins units piece rest) : rest.length < units.length := by
  cases h
  case char c =>
    rw [List.length_append]
    exact Nat.lt_add_of_pos_left (written_encodeChar c).length_pos
  case lone => exact Nat.lt_succ_self _

theorem exists_begins (u : UInt16) (units : List UInt16) : ∃ piece rest, Begins (u :: units) piece rest := by
  cases hl : isLow u
  case true => exact ⟨none, units, .lone <| .low hl⟩
  case false =>
    cases hh : isHigh u
    case false =>
      have hc := encodeChar_ofNat (Bool.eq_false_iff.mp hh) (Bool.eq_false_iff.mp hl)
      have hb : Begins (encodeChar _ ++ units) _ units := .char <| Char.ofNat u.toNat
      exact ⟨_, units, hc ▸ hb⟩
    case true =>
      cases units
      case nil => exact ⟨none, [], .lone <| lone_last hh⟩
      case cons v rest =>
        cases hv : isLow v
        case false => exact ⟨none, v :: rest, .lone <| .high hh fun _ he => Option.some.inj he ▸ hv⟩
        case true =>
          have hb : Begins (encodeChar _ ++ rest) _ rest := .char <| pair u v
          exact ⟨_, rest, encodeChar_pair hh hv ▸ hb⟩

theorem Cut.unique (h : Cut units pieces) (h' : Cut units pieces') : pieces = pieces' := by
  induction h generalizing pieces'
  case nil =>
    cases h'
    case nil     => rfl
    case cons hb => exact absurd hb.length_lt <| Nat.not_lt_zero _
  case cons hb _ hi =>
    cases h'
    case nil => exact absurd hb.length_lt <| Nat.not_lt_zero _
    case cons hc hb' =>
      obtain ⟨rfl, rfl⟩ := hb.unique hb'
      rw [hi hc]

theorem exists_cut (units : List UInt16) : ∃ pieces, Cut units pieces := by
  induction hn : units.length using Nat.strongRecOn generalizing units
  case ind n hi =>
    cases units
    case nil => exact ⟨[], .nil⟩
    case cons u units =>
      have ⟨piece, rest, hb⟩ := exists_begins u units
      have ⟨pieces, hc⟩ := hi _ (hn ▸ hb.length_lt) rest rfl
      exact ⟨piece :: pieces, .cons hb hc⟩

end Pieces

section Reading

theorem decodeLossy_lone (h : Lone u rest) : decodeLossy (u :: rest) = '\uFFFD' :: decodeLossy rest := by
  cases h
  case low hl =>
    have hh := isHigh_of_isLow hl
    cases rest <;> simp [decodeLossy, hh, hl]
  case high hh hn =>
    cases rest
    case nil  => simp [decodeLossy, hh]
    case cons => simp [decodeLossy, hh, hn _ rfl]

theorem Begins.decodeLossy_eq (h : Begins units piece rest) :
    decodeLossy units = piece.getD '\uFFFD' :: decodeLossy rest := by
  cases h
  case char c  => exact (written_encodeChar c).decodeLossy_append rest
  case lone hs => exact decodeLossy_lone hs

theorem Cut.decodeLossy_eq (h : Cut units pieces) : decodeLossy units = pieces.map (·.getD '\uFFFD') := by
  induction h
  case nil          => rfl
  case cons hb _ hi => rw [hb.decodeLossy_eq, hi, List.map_cons]

theorem cut_encode (cs : List Char) : Cut (encode cs) (cs.map some) := by
  induction cs
  case nil          => exact .nil
  case cons c cs hi => exact .cons (.char c) hi

-- A text comes back out of its own units.
theorem decodeLossy_encode (cs : List Char) : decodeLossy (encode cs) = cs := by
  rw [(cut_encode cs).decodeLossy_eq, List.map_map]
  exact List.map_id cs

theorem zero_not_mem_encode {cs : List Char} (h : '\x00' ∉ cs) : 0 ∉ encode cs := by
  intro hz
  have ⟨c, hc, hm⟩ := List.mem_flatMap.mp hz
  exact h <| (written_encodeChar c).eq_nul_of_zero_mem hm ▸ hc

end Reading

end ProcessControl.Text.Utf16
