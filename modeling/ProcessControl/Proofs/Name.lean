import ProcessControl.Name
import ProcessControl.Proofs.Text.Lossy
import ProcessControl.Proofs.Text.Padding

namespace ProcessControl.Name

open Text

variable {name : Name} {w : List Char} {raw : List UInt8}

def NulFree (name : Name) : Prop :=
  '\x00' ∉ name.text.toList

-- The name does not end where a line ends.
def Trimmed (name : Name) : Prop :=
  ∀ c, name.text.toList.getLast? = some c → isLineEnd c = false

-- The name as a system tells it.
def bytes (name : Name) : List UInt8 :=
  Utf8.encode name.text.toList

-- The text that bytes tell: what stands before the first NUL, without the line ends after it.
def Tells (raw : List UInt8) (text : List Char) : Prop :=
  (∃ w, (∀ c ∈ w, isLineEnd c = true) ∧ Utf8.decodeLossy (raw.takeWhile (· != 0)) = text ++ w) ∧
    ∀ c, text.getLast? = some c → isLineEnd c = false

theorem tells_iff {text : List Char} : Tells raw text ↔ (ofBytes raw).text.toList = text := by
  rw [ofBytes, String.toList_ofList, dropEndWhile_eq_iff, Tells]

theorem nulFree_ofBytes (raw : List UInt8) : (ofBytes raw).NulFree := by
  intro hc
  rw [ofBytes, String.toList_ofList] at hc
  exact Utf8.nul_not_mem_decodeLossy (not_mem_takeWhile_ne 0 raw) <| mem_of_mem_dropEndWhile hc

theorem trimmed_ofBytes (raw : List UInt8) : (ofBytes raw).Trimmed :=
  (tells_iff.mpr rfl).right

-- U+FFFD ends no line, so bytes that come out as line ends alone are those line ends.
theorem forall_isLineEnd_iff : (∀ c ∈ Utf8.decodeLossy raw, isLineEnd c = true) ↔ ∀ b ∈ raw, b = 0x0A ∨ b = 0x0D := by
  constructor
  case mp =>
    intro h b hb
    have he : Utf8.encode (Utf8.decodeLossy raw) = raw :=
      Utf8.encode_decodeLossy fun hc => absurd (h _ hc) (by decide)
    rw [← he] at hb
    have ⟨c, hc, hb⟩ := List.mem_flatMap.mp hb
    have hl := h c hc
    rw [isLineEnd, Bool.or_eq_true, beq_iff_eq, beq_iff_eq] at hl
    cases hl <;> subst c
    case inl => exact .inl <| List.mem_singleton.mp hb
    case inr => exact .inr <| List.mem_singleton.mp hb
  case mpr =>
    intro h c hc
    have he : Utf8.encode (raw.map fun b => Char.ofNat b.toNat) = raw :=
      Utf8.encode_map_ofNat fun b hb => by cases h b hb <;> subst b <;> decide
    rw [← he, Utf8.decodeLossy_encode] at hc
    have ⟨b, hb, hc⟩ := List.mem_map.mp hc
    cases h b hb <;> subst b c <;> rfl

theorem tells_nil_iff : Tells raw [] ↔ ∀ b ∈ raw.takeWhile (· != 0), b = 0x0A ∨ b = 0x0D := by
  rw [← forall_isLineEnd_iff, Tells]
  constructor
  case mp  => exact fun ⟨⟨w, hw, he⟩, _⟩ => he ▸ hw
  case mpr => exact fun h => ⟨⟨_, h, rfl⟩, nofun⟩

section Exactness

variable (hn : name.NulFree) (hw : ∀ c ∈ w, isLineEnd c = true)

include hn hw

-- No NUL comes before the one that ends the name.
theorem takeWhile_bytes_append (junk : List UInt8) :
    (name.bytes ++ Utf8.encode w ++ junk).takeWhile (· != 0) =
      name.bytes ++ Utf8.encode w ++ junk.takeWhile (· != 0) := by
  refine List.takeWhile_append_of_pos fun b hb => bne_iff_ne.mpr ?_
  rintro rfl
  rw [bytes, ← Utf8.encode_append, Utf8.mem_encode_iff (by decide)] at hb
  cases List.mem_append.mp hb
  case inl h => exact hn h
  case inr h => exact absurd (hw _ h) (by decide)

theorem ofBytes_bytes_append (ht : name.Trimmed) (junk : List UInt8) (hj : junk.takeWhile (· != 0) = []) :
    ofBytes (name.bytes ++ Utf8.encode w ++ junk) = name := by
  have hs : Tells (name.bytes ++ Utf8.encode w ++ junk) name.text.toList := by
    rw [Tells, takeWhile_bytes_append hn hw, hj, List.append_nil, bytes, ← Utf8.encode_append, Utf8.decodeLossy_encode]
    exact ⟨⟨w, hw, rfl⟩, ht⟩
  exact congrArg mk <| String.toList_inj.mp <| tells_iff.mp hs

end Exactness

theorem ofBytes_bytes (hn : name.NulFree) (ht : name.Trimmed) : ofBytes name.bytes = name := by
  have h := ofBytes_bytes_append hn (w := []) nofun ht [] rfl
  rwa [List.append_nil, Utf8.encode, List.flatMap_nil, List.append_nil] at h

theorem size_ofBytes_le (raw : List UInt8) : (ofBytes raw).size ≤ 3 * raw.length := by
  have ⟨after, _, he⟩ := exists_dropEndWhile isLineEnd (Utf8.decodeLossy <| raw.takeWhile (· != 0))
  have hl := Utf8.length_encode_decodeLossy_le (raw.takeWhile (· != 0))
  have ht := (List.takeWhile_prefix (· != 0) (l := raw)).length_le
  rw [he, Utf8.encode_append, List.length_append] at hl
  rw [size, Utf8.size_eq_length, ofBytes, String.toList_ofList]
  omega

theorem names_decode_exactly :
    (∀ (name : Name) (w : List Char) (junk : List UInt8), name.NulFree → name.Trimmed →
      (∀ c ∈ w, c = '\n' ∨ c = '\r') →
      ofBytes (name.bytes ++ Utf8.encode w) = name ∧ ofBytes (name.bytes ++ Utf8.encode w ++ 0 :: junk) = name) ∧
    ∀ raw : List UInt8, (ofBytes raw).NulFree ∧ (ofBytes raw).Trimmed ∧ (ofBytes raw).size ≤ 3 * raw.length ∧
      ofBytes (ofBytes raw).bytes = ofBytes raw := by
  constructor
  case left =>
    intro name w junk hn ht hw
    have hw : ∀ c ∈ w, isLineEnd c = true := fun c hc => by
      rw [isLineEnd, Bool.or_eq_true, beq_iff_eq, beq_iff_eq]
      exact hw c hc
    have he := ofBytes_bytes_append hn hw ht [] rfl
    rw [List.append_nil] at he
    exact ⟨he, ofBytes_bytes_append hn hw ht _ <| List.takeWhile_cons_of_neg (by decide)⟩
  case right =>
    intro raw
    have hn := nulFree_ofBytes raw
    have ht := trimmed_ofBytes raw
    exact ⟨hn, ht, size_ofBytes_le raw, ofBytes_bytes hn ht⟩

-- A name with a line end inside, before a terminator and half a character; and a name that was cut inside a character.
theorem names_decode_exactly_cut :
    let name : Name := ⟨String.ofList ['\u00e9', '\r', '\n', '\u00df']⟩
    let raw : List UInt8 := [0x61, 0xF0, 0x9F, 0x00, 0x98]
    name.NulFree ∧ name.Trimmed ∧ (∀ c ∈ ['\r', '\n'], c = '\n' ∨ c = '\r') ∧
      ofBytes (name.bytes ++ Utf8.encode ['\r', '\n'] ++ 0 :: [0xC3, 0x0A]) = name ∧
      ofBytes raw = ⟨"a\ufffd"⟩ ∧ ofBytes (ofBytes raw).bytes = ofBytes raw := by
  intro name raw
  have hl : name.text.toList = ['\u00e9', '\r', '\n', '\u00df'] := String.toList_ofList
  have hn : name.NulFree := by
    rw [NulFree, hl]
    decide
  have ht : name.Trimmed := fun c hc => by
    rw [hl] at hc
    exact Option.some.inj hc ▸ rfl
  have hw : ∀ c ∈ ['\r', '\n'], c = '\n' ∨ c = '\r' := by simp
  have ⟨hd, hr⟩ := names_decode_exactly
  exact ⟨hn, ht, hw, (hd name _ [0xC3, 0x0A] hn ht hw).right, rfl, (hr raw).right.right.right⟩

end ProcessControl.Name
