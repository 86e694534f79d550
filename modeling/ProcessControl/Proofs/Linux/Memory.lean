import ProcessControl.Proofs.Linux.Snapshot
import ProcessControl.Proofs.Text.Padding

namespace ProcessControl.Linux

open Text

-- What was read is a text that tells so many pages.
inductive TellsPages (pages : Nat) : Except PathFailure (List UInt8) → Prop
  | intro {text field : List Char} : FirstField field text → Decimal.Numeral field pages → pages < UInt64.size →
    TellsPages pages (.ok <| Utf8.encode text)

-- The memory that goes with what was read.
structure Measured (pageSize : Memory) (statm : Except PathFailure (List UInt8)) (memory : Memory) : Prop where
  known   : ∀ pages, TellsPages pages statm → memory.toNat = min (pages * pageSize.toNat) (UInt64.size - 1)
  unknown : (∀ pages, ¬TellsPages pages statm) → memory = 0

section Pages

variable {text field : List Char} {pages : Nat} {pageSize : Memory} {statm : Except PathFailure (List UInt8)}

theorem toNat_memoryOfPages (pageSize : Memory) (pages : Nat) :
    (memoryOfPages pageSize pages).toNat = min (pages * pageSize.toNat) (UInt64.size - 1) :=
  UInt64.toNat_ofNat_of_lt' <| Nat.lt_of_le_of_lt (Nat.min_le_right ..) (by decide)

-- No pages at all are as good as none that are told, for there is no memory in them.
theorem pages?_of_numeral (hf : FirstField field text) (hn : Decimal.Numeral field pages) (hl : pages < UInt64.size) :
    pages? text = (some pages).filter (0 < ·) := by
  rw [pages?, firstField?_eq_some_iff.mpr hf, ← Decimal.readBelow?_eq_some_iff.mpr ⟨hn, hl⟩]
  rfl

theorem tellsPages_of_pages? (h : pages? text = some pages) : TellsPages pages (.ok <| Utf8.encode text) := by
  have ⟨field, hf, h⟩ := Option.bind_eq_some_iff.mp h
  have ⟨hn, hl⟩ := Decimal.readBelow?_eq_some_iff.mp (Option.filter_eq_some_iff.mp h).left
  exact .intro (firstField?_eq_some_iff.mp hf) hn hl

theorem toNat_memoryFrom (h : TellsPages pages statm) :
    (memoryFrom pageSize statm).toNat = min (pages * pageSize.toNat) (UInt64.size - 1) := by
  cases h
  case intro text _ hf hn hl =>
    have hm : memoryFrom pageSize (.ok <| Utf8.encode text) =
        (((some pages).filter (0 < ·)).map (memoryOfPages pageSize)).getD 0 := by
      rw [memoryFrom, Utf8.decode?_encode, Option.bind_some, pages?_of_numeral hf hn hl]
    rw [hm]
    cases pages
    case zero => rw [Nat.zero_mul, Nat.zero_min]; rfl
    case succ => exact toNat_memoryOfPages ..

theorem memoryFrom_eq_zero (h : ∀ pages, ¬TellsPages pages statm) : memoryFrom pageSize statm = 0 := by
  cases statm
  case error => rfl
  case ok bytes =>
    rw [memoryFrom]
    cases hp : (Utf8.decode? bytes).bind pages?
    case none => rfl
    case some pages =>
      have ⟨text, ht, hp⟩ := Option.bind_eq_some_iff.mp hp
      have he := Utf8.decode?_eq_some_iff.mp ht
      exact absurd (he ▸ tellsPages_of_pages? hp) (h pages)

theorem measured_memoryFrom (pageSize : Memory) (statm : Except PathFailure (List UInt8)) :
    Measured pageSize statm (memoryFrom pageSize statm) where
  known _ := toNat_memoryFrom
  unknown := memoryFrom_eq_zero

end Pages

-- The memory of any process is told, whatever its file holds and however large a page is. Only the process zero has no
-- file that is read.
theorem memory_is_measured {σ : Type} (pageSize : Memory) (handler : Handler files σ) (s : σ) (pid : Pid) :
    let run := (probeMemory pageSize pid).run handler s
    let path := statmPath <| Decimal.digits pid.toNat
    ∃ memory, run.outcome = .ok memory ∧ (pid = 0 → memory = 0 ∧ run.calls = []) ∧
      (pid ≠ 0 → Measured pageSize (handler (.readFile path) s).fst memory ∧ run.calls = [.readFile path]) := by
  by_cases h : pid = 0
  case pos =>
    subst h
    exact ⟨0, rfl, fun _ => ⟨rfl, rfl⟩, fun h => absurd rfl h⟩
  case neg =>
    rw [probeMemory_eq h]
    exact ⟨_, rfl, fun hz => absurd hz h, fun _ => ⟨measured_memoryFrom .., rfl⟩⟩

-- The first field of this file tells the most pages that a word holds.
def hugeText : List Char :=
  "\t+18446744073709551615 7".toList

def hugeRoot : Handler files Unit :=
  root [] [(statmPath ['1'], fileName hugeText)]

theorem memory_is_measured_huge :
    let outcome (pid : Pid) := ((probeMemory 4096 pid).run hugeRoot ()).outcome
    outcome 1 = .ok 0xFFFFFFFFFFFFFFFF ∧ outcome 2 = .ok 0 ∧ outcome 0 = .ok 0 := by
  intro outcome
  have ⟨m₁, h₁, _, hm₁⟩ := memory_is_measured 4096 hugeRoot () 1
  have ⟨m₂, h₂, _, hm₂⟩ := memory_is_measured 4096 hugeRoot () 2
  have ⟨m₃, h₃, hm₃, _⟩ := memory_is_measured 4096 hugeRoot () 0
  have ht : TellsPages (UInt64.size - 1) (.ok <| fileName hugeText) := tellsPages_of_pages? rfl
  have hk := (hm₁ (by decide)).left.known _ ht
  have hu := (hm₂ (by decide)).left.unknown nofun
  exact ⟨h₁.trans <| congrArg _ <| UInt64.toNat_inj.mp hk, hu ▸ h₂, (hm₃ rfl).left ▸ h₃⟩

end ProcessControl.Linux
