import ProcessControl.Proofs.Name
import ProcessControl.Proofs.Text.Utf16
import ProcessControl.Windows.Platform

namespace ProcessControl

open Text

-- The name as a system tells it in UTF-16.
def Name.units (name : Name) : List UInt16 :=
  Utf16.encode name.text.toList

namespace Windows

-- The first zero ends a name, be it this one or one before it.
theorem imageName_append_zero (front rest : List UInt16) : imageName (front ++ 0 :: rest) = imageName front := by
  have h : (front ++ 0 :: rest).takeWhile (· != 0) = front.takeWhile (· != 0) := by
    rw [List.takeWhile_append]
    split
    case isTrue hl =>
      rw [List.takeWhile_cons_of_neg (by decide), List.append_nil]
      exact ((List.takeWhile_prefix _).eq_of_length hl).symm
    case isFalse => rfl
  rw [imageName, h, imageName]

theorem imageName_units {name : Name} (h : name.NulFree) : imageName name.units = name := by
  have hz : name.units.takeWhile (· != 0) = name.units := by
    refine List.takeWhile_eq_self_iff.mpr fun u hu => bne_iff_ne.mpr ?_
    rintro rfl
    exact Utf16.zero_not_mem_encode h hu
  rw [imageName, hz, Name.units, Utf16.decodeLossy_encode, String.ofList_toList]

theorem image_names_decode_exactly :
    (∀ name : Name, name.NulFree →
      imageName name.units = name ∧ ∀ rest, imageName (name.units ++ 0 :: rest) = name) ∧
    ∀ units : List UInt16,
      (∀ rest, imageName (units ++ 0 :: rest) = imageName units) ∧
      ∃ pieces, Utf16.Cut (units.takeWhile (· != 0)) pieces ∧
        (∀ pieces', Utf16.Cut (units.takeWhile (· != 0)) pieces' → pieces' = pieces) ∧
        (imageName units).text.toList = pieces.map (·.getD '\uFFFD') := by
  constructor
  case left =>
    intro name hn
    have he := imageName_units hn
    exact ⟨he, fun rest => (imageName_append_zero _ rest).trans he⟩
  case right =>
    intro units
    have ⟨pieces, hc⟩ := Utf16.exists_cut (units.takeWhile (· != 0))
    refine ⟨imageName_append_zero units, pieces, hc, fun _ hc' => hc'.unique hc, ?_⟩
    rw [imageName, String.toList_ofList, hc.decodeLossy_eq]

-- A name that fills a field of 260 units and ends with a pair, and a pair that the end of the name cuts in two.
theorem image_names_decode_exactly_full :
    let name : Name := ⟨String.ofList (List.replicate 258 'a' ++ [Char.ofNat 0x1F600])⟩
    name.NulFree ∧ name.units.length = 260 ∧ imageName name.units = name ∧
      (imageName [0x61, 0xD83D, 0, 0xDE00]).text.toList = ['a', '\uFFFD'] := by
  intro name
  have hn : name.NulFree := by
    rw [Name.NulFree, String.toList_ofList]
    decide
  have hl : name.units.length = 260 := by
    rw [Name.units, String.toList_ofList]
    decide +kernel
  have hc : Utf16.Cut [0x61, 0xD83D] [some 'a', none] := .cons (.char 'a') <| .cons (.lone <| Utf16.lone_last rfl) .nil
  obtain ⟨_, _, _, hu, he⟩ := image_names_decode_exactly.right [0x61, 0xD83D, 0, 0xDE00]
  cases hu _ hc
  exact ⟨hn, hl, (image_names_decode_exactly.left name hn).left, he⟩

end Windows

end ProcessControl
