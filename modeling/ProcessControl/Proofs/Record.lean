import Mathlib
import ProcessControl.Proofs.Json.Shape
import ProcessControl.Record

namespace ProcessControl

open Json.Reader Text

theorem Name.reads_toJson? (name? : Option Name) :
    (optional Name.read).Reads ((name?.map Name.toJson).getD .null) name? := by
  cases name?
  case none      => exact reads_none Name.read
  case some name => exact reads_some <| (reads_text name.text).map Name.mk

theorem Status.reads_toJson (status : Status) : Status.read.Reads status.toJson status := by
  cases status
  case unknown => exact reads_oneOf rfl
  case running => exact reads_oneOf rfl

namespace Record

theorem reads_toJson (r : Record) : read.Reads r.toJson r := by
  have hf : Fills members .empty
      [("pid", .nat r.pid.toNat), ("display_name", (r.name?.map Name.toJson).getD .null),
        ("memory_usage", .nat r.memory.toNat), ("status", r.status.toJson)]
      ⟨some r.pid, some r.name?, some r.memory, some r.status⟩ := by
    have hp : r.pid.toNat < UInt64.size := Nat.lt_trans r.pid.toNat_lt_size (by decide)
    refine .cons rfl rfl ((reads_natural "u32" hp r.pid.toNat_lt_size).map _) <|
      .cons rfl rfl ((Name.reads_toJson? r.name?).map _) <|
      .cons rfl rfl ((reads_natural "usize" r.memory.toNat_lt_size r.memory.toNat_lt_size).map _) <|
      .cons rfl rfl (r.status.reads_toJson.map _) ?_
    simp only [UInt32.ofNat_toNat, UInt64.ofNat_toNat]
    exact .nil _
  exact reads_aggregate "struct ProcessRecord" hf rfl

theorem records_come_back :
    (∀ r : Record, read.readAll (Utf8.encode r.toJson.render.toList) = .ok r) ∧
    ∀ (bytes : List UInt8) (r : Record), read.readAll bytes = .ok r →
      read.readAll (Utf8.encode r.toJson.render.toList) = .ok r :=
  ⟨fun r => r.reads_toJson.readAll, fun _ r _ => r.reads_toJson.readAll⟩

-- A record as somebody else may write it: in an array, with a blank, and with escapes where none are needed.
def foreign : List UInt8 :=
  Utf8.encode "[7,\"\\u0000\\\"\\ud83d\\ude00\", 18446744073709551615,\"running\"]".toList

def foreignRecord : Record :=
  .running 7 ⟨String.ofList ['\x00', '"', Char.ofNat 0x1F600]⟩ 18446744073709551615

theorem records_come_back_foreign : read.readAll foreign = .ok foreignRecord ∧
    read.readAll (Utf8.encode foreignRecord.toJson.render.toList) = .ok foreignRecord := by
  have hr : read.readAll foreign = .ok foreignRecord := by cbv
  exact ⟨hr, records_come_back.right foreign foreignRecord hr⟩

end Record

end ProcessControl
