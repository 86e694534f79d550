import Mathlib
import ProcessControl.Event
import ProcessControl.Failure
import ProcessControl.Proofs.Json.Tagged

namespace ProcessControl

open Json Json.Reader Json.Grammar Text

-- A payload of 64 bits.
theorem reads_word {α : Type} (expected : String) (make : UInt64 → α) (n : UInt64) :
    (Details.number UInt64.size expected fun m => make (UInt64.ofNat m)).read.Reads (.nat n.toNat) (make n) := by
  have hr := (reads_natural expected n.toNat_lt_size n.toNat_lt_size).map fun m => make (UInt64.ofNat m)
  rwa [UInt64.ofNat_toNat] at hr

namespace Failure

theorem reads_pid (make : Pid → Failure) (pid : Pid) : (tagging.ofPid make).read.Reads (.nat pid.toNat) (make pid) := by
  have hp : pid.toNat < UInt64.size := Nat.lt_trans pid.toNat_lt_size (by decide)
  have hr := (reads_natural "u32" hp pid.toNat_lt_size).map fun n => make (UInt32.ofNat n)
  rwa [UInt32.ofNat_toNat] at hr

theorem reads_why (make : String → Failure) (why : String) : (Details.text make).read.Reads (.str why) (make why) :=
  (reads_text why).map make

theorem readAll_toJson (f : Failure) : read.readAll (Utf8.encode f.toJson.render.toList) = .ok f := by
  have hn : tagging.detailsName ≠ tagging.tagName := by decide
  cases f
  case invalidCommand why   => exact readAll_tagged hn rfl <| reads_why invalidCommand why
  case invalidPid pid       => exact readAll_tagged hn rfl <| reads_pid invalidPid pid
  case notFound pid         => exact readAll_tagged hn rfl <| reads_pid notFound pid
  case permissionDenied pid => exact readAll_tagged hn rfl <| reads_pid permissionDenied pid
  case selfTermination pid  => exact readAll_tagged hn rfl <| reads_pid selfTermination pid
  case spawnFailed why      => exact readAll_tagged hn rfl <| reads_why spawnFailed why
  case system why           => exact readAll_tagged hn rfl <| reads_why system why
  case unsupported what     => exact readAll_tagged hn rfl <| reads_why unsupported what
  case timedOut millis      => exact readAll_tagged hn rfl <| reads_word "u64" timedOut millis

end Failure

theorem Refusal.readAll_toJson (r : Refusal) : read.readAll (Utf8.encode r.toJson.render.toList) = .ok r := by
  cases r
  case full capacity => exact readAll_tagged (by decide) rfl <| reads_word "usize" full capacity
  case disconnected  => exact readAll_tag rfl rfl

-- The tag is any text and the details are any value, however they are spelled.
theorem errors_come_back_in_either_order :
    (∀ f : Failure, Failure.read.readAll (Utf8.encode f.toJson.render.toList) = .ok f) ∧
    (∀ r : Refusal, Refusal.read.readAll (Utf8.encode r.toJson.render.toList) = .ok r) ∧
    ∀ (depth : Nat) (tag details : List UInt8), Label tag → Grammar.Value depth details →
      (∀ f : Failure, Failure.read.readAll (pair "error_type" tag "details" details) = .ok f ↔
        Failure.read.readAll (pair "details" details "error_type" tag) = .ok f) ∧
      ∀ r : Refusal, Refusal.read.readAll (pair "error_type" tag "details" details) = .ok r ↔
        Refusal.read.readAll (pair "details" details "error_type" tag) = .ok r := by
  refine ⟨Failure.readAll_toJson, Refusal.readAll_toJson, fun depth tag details ht hd => ⟨?_, ?_⟩⟩
  case refine_1 => exact readAll_either_order Failure.tagging (by decide) ht hd
  case refine_2 => exact readAll_either_order Refusal.tagging (by decide) ht hd

-- A tag that begins with an escape, and details between blanks.
def foreignTag : List UInt8 :=
  Utf8.encode "\"\\u006eot_found\"".toList

def foreignDetails : List UInt8 :=
  Utf8.encode " 7\n".toList

theorem errors_come_back_foreign : Label foreignTag ∧ Grammar.Value 0 foreignDetails ∧
    Failure.read.readAll (pair "error_type" foreignTag "details" foreignDetails) = .ok (.notFound 7) ∧
    Failure.read.readAll (pair "details" foreignDetails "error_type" foreignTag) = .ok (.notFound 7) := by
  have hp : (Utf8.encode "ot_found".toList).all (Plain ·) = true := rfl
  have hw : ∀ b ∈ Utf8.encode "ot_found".toList, Plain b := fun b hb => of_decide_eq_true <| List.all_eq_true.mp hp b hb
  have ht : Label foreignTag := .mk blank_nil (.code rfl <| Characters.of_plain hw) blank_nil
  have hn : Whole [0x37] :=
    ⟨⟨nofun, List.forall_mem_singleton.mpr rfl⟩, fun _ _ he => nomatch (List.cons.inj he).right⟩
  have hu : Unsigned ([0x37] ++ ([] ++ [])) := .mk hn .none .none
  have hb : Blank [0x20] ∧ Blank [0x0A] := ⟨List.forall_mem_singleton.mpr rfl, List.forall_mem_singleton.mpr rfl⟩
  have hd : Grammar.Value 0 ([0x20] ++ ([0x37] ++ ([] ++ []) ++ [0x0A])) := .padded hb.left hb.right <| .natural hu
  have hf : Failure.read.readAll (pair "error_type" foreignTag "details" foreignDetails) = .ok (.notFound 7) := by cbv
  exact ⟨ht, hd, hf, ((errors_come_back_in_either_order.right.right 0 foreignTag foreignDetails ht hd).left _).mp hf⟩

end ProcessControl
