import ProcessControl.Proofs.Linux.Snapshot
import ProcessControl.Proofs.Name

namespace ProcessControl.Linux

open Program

-- The name that a record is to show: what the file tells, or the text of the directory if it tells nothing.
inductive Named (dir : List Char) : Except PathFailure (List UInt8) → List Char → Prop
  | unread (why : PathFailure) : Named dir (.error why) dir
  | silent {bytes} : Name.Tells bytes [] → Named dir (.ok bytes) dir
  | told {bytes text} : Name.Tells bytes text → text ≠ [] → Named dir (.ok bytes) text

-- A file that is not empty and has nothing but line ends before its first NUL.
def EndsOnly (named : Except PathFailure (List UInt8)) : Prop :=
  ∃ bytes, named = .ok bytes ∧ bytes ≠ [] ∧ ∀ b ∈ bytes.takeWhile (· != 0), b = 0x0A ∨ b = 0x0D

section Names

variable {dir text : List Char} {named : Except PathFailure (List UInt8)}

theorem Named.ne_nil (h : Named dir named text) (hd : dir ≠ []) : text ≠ [] := by
  cases h
  case unread => exact hd
  case silent => exact hd
  case told h => exact h

theorem nameFrom_of_endsOnly (h : EndsOnly named) : (nameFrom dir named).text.toList = [] := by
  obtain ⟨bytes, rfl, hn, hb⟩ := h
  cases bytes
  case nil  => exact absurd rfl hn
  case cons => exact Name.tells_iff.mp <| Name.tells_nil_iff.mpr hb

theorem named_nameFrom (h : ¬EndsOnly named) : Named dir named (nameFrom dir named).text.toList := by
  rcases named with why | _ | ⟨b, bytes⟩
  case error => exact String.toList_ofList ▸ .unread why
  case nil   => exact String.toList_ofList ▸ .silent (Name.tells_iff.mpr rfl)
  case cons  =>
    have ht : Name.Tells (b :: bytes) (nameFrom dir <| .ok <| b :: bytes).text.toList := Name.tells_iff.mpr rfl
    refine .told ht fun hn => h ⟨_, rfl, List.cons_ne_nil b bytes, ?_⟩
    exact Name.tells_nil_iff.mp <| hn ▸ ht

theorem named_nameFrom_iff (hd : dir ≠ []) :
    Named dir named (nameFrom dir named).text.toList ↔ ¬EndsOnly named where
  mp h he := h.ne_nil hd <| nameFrom_of_endsOnly he
  mpr     := named_nameFrom

theorem nameFrom_eq_empty_iff (hd : dir ≠ []) : (nameFrom dir named).text = "" ↔ EndsOnly named := by
  rw [← String.toList_eq_nil_iff]
  constructor
  case mp =>
    intro hn
    by_contra he
    exact (named_nameFrom he).ne_nil hd hn
  case mpr => exact nameFrom_of_endsOnly

end Names

-- What is true of the record of each directory, whatever was read there, is true of the records of them all.
theorem Observed.forall₂ {pageSize : Memory} {ps : List (List Char × Pid)} {history : List files.Exchange}
    {records : List Record} {R : List Char × Pid → Record → Prop} (h : Observed pageSize ps history records)
    (hr : ∀ dir pid named sized, (dir, pid) ∈ ps → ⟨.readFile <| commPath dir, named⟩ ∈ history →
      R (dir, pid) (.running pid (nameFrom dir named) (memoryFrom pageSize sized))) :
    List.Forall₂ R ps records := by
  induction h
  case nil => exact .nil
  case cons dir pid named sized _ hi =>
    refine .cons (hr dir pid named sized (.head _) (.head _)) <| hi fun dir pid named sized hp hm => ?_
    exact hr dir pid named sized (.tail _ hp) (.tail _ <| .tail _ hm)

-- A record shows the name that it is to show, unless a file was read that has nothing but line ends in it. This file is
-- not taken for an empty one, though no more is told by it, and the record shows nothing.
theorem names_are_shown_iff {σ : Type} (pageSize : Memory) (max : UInt64) (handler : Handler files σ) (s : σ) :
    let run := (enumerate pageSize max).run handler s
    ∃ records, run.outcome = .ok records ∧
      List.Forall₂ (fun p r => r.pid = p.snd ∧ ∃ named, ⟨.readFile <| commPath p.fst, named⟩ ∈ run.history ∧
        (Named p.fst named r.title.toList ↔ ¬EndsOnly named) ∧ (r.title = "" ↔ EndsOnly named))
        (chosen (listed handler s) max) records := by
  have ⟨front, history, records, _, _, ho, h⟩ := enumerate_leads handler s pageSize max
  refine ⟨records, h.outcome, ho.forall₂ fun dir pid named sized hp hm => ?_⟩
  have ⟨hd, _⟩ := pid?_eq_some_iff_value.mp (of_mem_chosen hp).right
  rw [h.history]
  exact ⟨rfl, named, List.mem_append_right _ hm, named_nameFrom_iff hd, nameFrom_eq_empty_iff hd⟩

def namelessRoot : Handler files Unit :=
  root [some <| fileName ['7']] [(commPath ['7'], fileName ['\n'])]

-- Its file tells nothing, so that its record has to show its directory.
theorem nameless_process_shows_nothing :
    let run := (enumerate 4096 10).run namelessRoot ()
    run.outcome = .ok [.running 7 ⟨""⟩ 0] ∧ ⟨.readFile <| commPath ['7'], .ok [0x0A]⟩ ∈ run.history ∧
      Named ['7'] (.ok [0x0A]) ['7'] ∧ ¬Named ['7'] (.ok [0x0A]) (Record.running 7 ⟨""⟩ 0).title.toList := by
  refine ⟨rfl, List.mem_of_getElem? (i := 1) rfl, .silent (Name.tells_iff.mpr rfl), fun h => ?_⟩
  exact h.ne_nil (by decide) rfl

end ProcessControl.Linux
