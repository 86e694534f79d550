import ProcessControl.Proofs.Linux.Listing
import ProcessControl.Proofs.Macos.Listing
import ProcessControl.Proofs.Name
import ProcessControl.Proofs.Windows.Listing

namespace ProcessControl

open Program Text

-- Whatever the system answers, there is a result.
def Program.Returns {I : Interface} {α : Type} (p : Program I α) : Prop :=
  ∀ (σ : Type) (handler : Handler I σ) (s : σ), ∃ a, (p.run handler s).outcome = .ok a

namespace Name

theorem nulFree_imageName (units : List UInt16) : (Windows.imageName units).NulFree := by
  intro hc
  rw [Windows.imageName, String.toList_ofList] at hc
  exact Utf16.nul_not_mem_decodeLossy (not_mem_takeWhile_ne 0 units) hc

end Name

namespace Record

-- The record of a process that runs and has a name.
structure WellFormed (r : Record) : Prop where
  pid    : r.pid ≠ 0
  status : r.status = .running
  name   : ∃ name, r.name? = some name ∧ name.NulFree

def Trimmed (r : Record) : Prop :=
  ∀ name, r.name? = some name → name.Trimmed

variable {pid : Pid} {name : Name} {memory : Memory}

theorem WellFormed.running (hp : pid ≠ 0) (hn : name.NulFree) : (Record.running pid name memory).WellFormed :=
  ⟨hp, rfl, name, rfl, hn⟩

theorem Trimmed.running (hn : name.Trimmed) : (Record.running pid name memory).Trimmed :=
  fun _ he => Option.some.inj he ▸ hn

end Record

namespace Linux

variable {dir : List Char} {pid : Pid}

theorem isDigit_of_pid? (h : pid? dir = some pid) : ∀ c ∈ dir, Decimal.isDigit c = true :=
  (pid?_eq_some_iff_value.mp h).right.left

theorem nulFree_nameFrom (h : pid? dir = some pid) (named : Except PathFailure (List UInt8)) :
    (nameFrom dir named).NulFree := by
  unfold nameFrom
  split
  case h_1 => exact Name.nulFree_ofBytes _
  case h_2 =>
    intro hc
    rw [String.toList_ofList] at hc
    exact absurd (isDigit_of_pid? h _ hc) (by decide)

theorem trimmed_nameFrom (h : pid? dir = some pid) (named : Except PathFailure (List UInt8)) :
    (nameFrom dir named).Trimmed := by
  unfold nameFrom
  split
  case h_1 => exact Name.trimmed_ofBytes _
  case h_2 =>
    intro c hc
    rw [String.toList_ofList] at hc
    have hd := Decimal.isDigit_iff.mp <| isDigit_of_pid? h c <| List.mem_of_getLast? hc
    simp only [Name.isLineEnd, Bool.or_eq_false_iff, beq_eq_false_iff_ne]
    constructor
    case left  => rintro rfl; exact absurd hd.left (by decide)
    case right => rintro rfl; exact absurd hd.left (by decide)

theorem Observed.wellFormed {pageSize : Memory} {entries : List (Option FileName)} {max : UInt64}
    {history : List files.Exchange} {records : List Record}
    (h : Observed pageSize (chosen entries max) history records) : ∀ r ∈ records, r.WellFormed ∧ r.Trimmed := by
  intro r hr
  have ⟨dir, hm, named, sized, _, _, he⟩ := h.of_mem_records hr
  have ⟨_, hp⟩ := of_mem_chosen hm
  rw [he]
  exact ⟨.running (h.pid_ne_zero r hr) <| nulFree_nameFrom hp named, .running <| trimmed_nameFrom hp named⟩

theorem probeMemory_returns (pageSize : Memory) (pid : Pid) : (probeMemory pageSize pid).Returns := by
  intro σ handler s
  by_cases hz : pid = 0
  case pos => exact ⟨0, hz ▸ rfl⟩
  case neg =>
    rw [probeMemory_eq hz]
    exact ⟨_, rfl⟩

end Linux

namespace Macos

-- A table tells a name for each entry in the same bytes field.
theorem wellFormed_of_surveyed {entries : List Entry} {max : UInt64} {history : List kernel.Exchange}
    {records : List Record} (h : Surveyed Looked (chosen entries max) history records) :
    ∀ r ∈ records, r.WellFormed ∧ r.Trimmed := by
  have hz := pid_ne_zero_of_surveyed h
  have hn : ∀ r ∈ records, ∃ pid bytes memory, r = .running pid (Name.ofBytes bytes) memory := by
    refine h.forall_mem fun p hp _ r ⟨fact, _, hr⟩ => ?_
    have ⟨entry, _, he⟩ := List.mem_filterMap.mp <| List.mem_of_mem_take hp
    rw [process?] at he
    split at he
    case isFalse => cases he
    case isTrue =>
      cases he
      exact ⟨_, _, _, hr⟩
  intro r hr
  obtain ⟨pid, bytes, memory, rfl⟩ := hn r hr
  exact ⟨.running (hz _ hr) <| Name.nulFree_ofBytes bytes, .running <| Name.trimmed_ofBytes bytes⟩

theorem probeMemory_returns (pid : Pid) : (probeMemory pid).Returns := by
  intro σ handler s
  rw [probeMemory]
  cases pid.target? <;> exact ⟨_, rfl⟩

end Macos

namespace Windows

theorem Enumerated.wellFormed {max : UInt64} {history : List interface.Exchange} {records : List Record}
    (h : Enumerated max history records) : ∀ r ∈ records, r.WellFormed :=
  h.forall_mem fun entry _ hz => .running hz <| Name.nulFree_imageName entry.image

end Windows

namespace Unix

variable {J : Interface} {σ : Type}

-- Starts a command, and looks at its memory in the way of a platform.
def spawnWith (probe : Pid → Program J Memory) (command : String) :
    Program (interface.sum J) (Except Failure Record) := do
  match ← (launch command).inl with
  | .error why => return .error why
  | .ok pid => return .ok (.running pid ⟨command⟩ (← (probe pid).inr))

theorem linux_spawn (pageSize : Memory) : Linux.spawn pageSize = spawnWith (Linux.probeMemory pageSize) :=
  rfl

theorem macos_spawn : Macos.spawn = spawnWith Macos.probeMemory :=
  rfl

variable {handler : Handler (interface.sum J) σ} {s : σ} {probe : Pid → Program J Memory} {command : String}
  {pid : Pid}

-- What the system answers when it is told to start a command.
def started (handler : Handler (interface.sum J) σ) (s : σ) (command : String) : Except Errno Pid :=
  (handler (.inl <| .start <| shell command) s).fst

-- What becomes of the answer.
def recordStarted (probe : Pid → Program J Memory) (command : String) :
    Except Errno Pid → Program (interface.sum J) (Except Failure Record)
  | .error why => return .error (notStarted command why.explain)
  | .ok pid    => do
    Program.notice (.spawned pid command)
    return .ok (.running pid ⟨command⟩ (← (probe pid).inr))

-- A command without NUL is one question to the system.
theorem outcome_spawnWith (h : '\x00' ∉ command.toList) : ((spawnWith probe command).run handler s).outcome =
    ((recordStarted probe command <| started handler s command).run handler
      (handler (.inl <| .start <| shell command) s).snd).outcome := by
  have hc : ¬command.toList.contains '\x00' = true := fun hc => h <| List.contains_iff_mem.mp hc
  have hk : spawnWith probe command = .ask (.inl <| .start <| shell command) (recordStarted probe command) := by
    rw [spawnWith, launch, if_neg hc]
    refine congrArg (Program.ask _) <| funext fun answer => ?_
    cases answer <;> rfl
  rw [hk]
  rfl

-- A process that was started is always recorded: the look at its memory comes to a result.
theorem outcome_recordStarted (handler : Handler (interface.sum J) σ) (s : σ) (command : String)
    (hp : (probe pid).Returns) : ∃ memory,
    ((recordStarted probe command <| .ok pid).run handler s).outcome = .ok (.ok <| .running pid ⟨command⟩ memory) := by
  have ⟨memory, hm⟩ := hp σ handler.right s
  have ho : ((probe pid).inr.run handler s).outcome = .ok memory := run_inr handler (probe pid) s ▸ hm
  exact ⟨memory, outcome_bind ho⟩

end Unix

namespace Table

section Spawns

variable {I J : Interface} {σ : Type}

theorem outcome_spawn {t : Table I} {handler : Handler I σ} {s : σ} {command : String} (h : Startable command) :
    ((t.spawn command).run handler s).outcome = ((t.platform.spawn command).run handler s).outcome := by
  have ho := (spawn_passes t handler s command).outcome
  rw [validateCommand_of_startable h] at ho
  exact ho.trans <| congrFun Except.map_id _

-- A command is recorded where the system starts it, and the record is that of the child. Where the child has an
-- identifier, it is one of a process that runs.
def RecordsChild (t : Table (Unix.interface.sum J)) : Prop :=
  ∀ {σ : Type} (handler : Handler (Unix.interface.sum J) σ) (s : σ) (command : String), Startable command →
    (∀ r, ((t.spawn command).run handler s).outcome = .ok (.ok r) → ∃ pid memory,
      Unix.started handler s command = .ok pid ∧ r = .running pid ⟨command⟩ memory ∧ (pid ≠ 0 → r.WellFormed)) ∧
    (∀ pid, Unix.started handler s command = .ok pid → ∃ r, ((t.spawn command).run handler s).outcome = .ok (.ok r))

theorem recordsChild_of_spawnWith {t : Table (Unix.interface.sum J)} {probe : Pid → Program J Memory}
    (ht : t.platform.spawn = Unix.spawnWith probe) (hp : ∀ pid, (probe pid).Returns) : t.RecordsChild := by
  intro σ handler s command h
  have ho : ((t.spawn command).run handler s).outcome = _ :=
    (outcome_spawn h).trans <| ht ▸ Unix.outcome_spawnWith h.right
  rw [ho]
  cases hs : Unix.started handler s command
  case error why => exact ⟨nofun, nofun⟩
  case ok pid =>
    have ⟨memory, hm⟩ := Unix.outcome_recordStarted handler (handler (.inl <| .start <| Unix.shell command) s).snd
      command (hp pid)
    rw [hm]
    refine ⟨fun r hr => ?_, fun _ _ => ⟨_, rfl⟩⟩
    cases hr
    exact ⟨pid, memory, rfl, rfl, fun hz => .running hz h.right⟩

end Spawns

section Listings

-- A listing of no more than so many records, all of them with the property.
def Lists (max : UInt64) (P : Record → Prop) (outcome : Except Halt (List Record)) : Prop :=
  ∃ records, outcome = .ok records ∧ records.length ≤ max.toNat ∧ ∀ r ∈ records, P r

variable {σ : Type}

theorem linux_lists (pageSize : Memory) (polls : Nat) (handler : Handler Linux.interface σ) (s : σ) (max : UInt64) :
    Lists max (fun r => r.WellFormed ∧ r.Trimmed)
      (((Linux.platform pageSize polls).enumerate max).run handler s).outcome := by
  have ⟨_, _, records, _, _, ho, h⟩ := Linux.enumerate_leads handler.right s pageSize max
  exact ⟨records, h.inr.outcome, ho.length_le, ho.wellFormed⟩

variable {polls : Nat} {handler : Handler Macos.interface σ} {s : σ} {max : UInt64}

theorem outcome_enumerate_macos : (((Macos.platform polls).enumerate max).run handler s).outcome =
    ((Macos.enumerate max).run handler.right s).outcome :=
  congrArg Run.outcome <| run_inr handler (Macos.enumerate max) s

theorem macos_lists (h : max = 0 ∨ Macos.Fits (handler (.inr .tableSize) s).fst) :
    Lists max (fun r => r.WellFormed ∧ r.Trimmed)
      (((Macos.platform polls).enumerate max).run handler s).outcome := by
  rw [outcome_enumerate_macos]
  by_cases hm : max = 0
  case pos =>
    subst hm
    exact ⟨[], rfl, Nat.zero_le _, List.forall_mem_nil _⟩
  case neg =>
    have ht : (Macos.table.run handler.right s).outcome = .ok _ := Macos.table_outcome <| h.resolve_left hm
    have ⟨_, records, _, hs, hl⟩ := Macos.enumerate_leads hm <| .of_outcome ht
    exact ⟨records, hl.outcome, Macos.length_le_of_surveyed hs, Macos.wellFormed_of_surveyed hs⟩

theorem macos_crashes (h : ¬(max = 0 ∨ Macos.Fits (handler (.inr .tableSize) s).fst)) :
    (((Macos.platform polls).enumerate max).run handler s).outcome = .error .crashed := by
  have ⟨hm, hf⟩ := not_or.mp h
  rw [outcome_enumerate_macos]
  exact (Macos.enumerate_crashes hm <| Macos.table_crashes hf).left

theorem windows_lists (handler : Handler Windows.interface σ) (s : σ) (max : UInt64) :
    Lists max Record.WellFormed ((Windows.platform.enumerate max).run handler s).outcome := by
  have ⟨_, records, _, he, h⟩ := Windows.enumerate_leads handler s max
  exact ⟨records, h.outcome, he.length_le, he.wellFormed⟩

end Listings

theorem records_are_well_formed (own : Pid) :
    (∀ {σ : Type} pageSize polls (handler : Handler Linux.interface σ) s max,
      Lists max (fun r => r.WellFormed ∧ r.Trimmed)
        (((Linux.platform pageSize polls).enumerate max).run handler s).outcome) ∧
    (∀ {σ : Type} polls (handler : Handler Macos.interface σ) s max,
      let outcome := (((Macos.platform polls).enumerate max).run handler s).outcome
      (max = 0 ∨ Macos.Fits (handler (.inr .tableSize) s).fst →
        Lists max (fun r => r.WellFormed ∧ r.Trimmed) outcome) ∧
      (¬(max = 0 ∨ Macos.Fits (handler (.inr .tableSize) s).fst) → outcome = .error .crashed)) ∧
    (∀ {σ : Type} (handler : Handler Windows.interface σ) s max,
      Lists max Record.WellFormed ((Windows.platform.enumerate max).run handler s).outcome) ∧
    (∀ pageSize polls, RecordsChild ⟨Linux.platform pageSize polls, own⟩) ∧
    (∀ polls, RecordsChild ⟨Macos.platform polls, own⟩) := by
  refine ⟨linux_lists, ?macos, windows_lists, ?spawnOnLinux, ?spawnOnMacos⟩
  case macos =>
    intro σ polls handler s max
    exact ⟨macos_lists, macos_crashes⟩
  case spawnOnLinux =>
    intro pageSize polls
    exact recordsChild_of_spawnWith (Unix.linux_spawn pageSize) (Linux.probeMemory_returns pageSize)
  case spawnOnMacos =>
    intro polls
    exact recordsChild_of_spawnWith Unix.macos_spawn Macos.probeMemory_returns

-- Systems with names that are broken off in a character, go on after a NUL, or are not there at all.
def messyRoot : Handler Linux.files Unit
  | .listRoot, s           => (.ok [none, some [48], some [48, 55], some [57]], s)
  | .readFile [dir, _], s  =>
    (if dir == [57] then .error <| .system .noSuchEntry else .ok [0xE2, 0x82, 10, 13, 0, 97], s)
  | .readFile _, s         => (.ok [], s)
  | .bootClock, s          => (.ok 0, s)
  | .pageSize, s           => (.ok none, s)

def messyKernel : Handler Macos.kernel Unit
  | .tableSize, s    => (.ok 1296, s)
  | .tableCopy _, s  => (.ok ⟨1944, [⟨-5, [97]⟩, ⟨7, [0xC0, 97, 10, 0, 98]⟩, ⟨9, [97, 98]⟩]⟩, s)
  | .taskInfo _, s   => (⟨0, 0⟩, s)
  | .bsdInfo _, s    => (⟨0, 0⟩, s)
  | .bootTime, s     => ((0, none), s)

theorem records_are_well_formed_messy :
    let onLinux : Handler Linux.interface Unit := Unix.unmoved messyRoot
    let onMacos : Handler Macos.interface Unit := Unix.unmoved messyKernel
    let linux := ((Linux.platform 4096).enumerate 5).run onLinux ()
    let macos := (Macos.platform.enumerate 5).run onMacos ()
    let started := (spawn ⟨Linux.platform 4096, 7⟩ "ls\n").run onLinux ()
    let sound := fun r : Record => r.WellFormed ∧ r.Trimmed
    (linux.outcome = .ok [.running 7 ⟨"\uFFFD"⟩ 0, .running 9 ⟨"9"⟩ 0] ∧ Lists 5 sound linux.outcome) ∧
    (macos.outcome = .ok [.running 7 ⟨"\uFFFDa"⟩ 0, .running 9 ⟨"ab"⟩ 0] ∧ Lists 5 sound macos.outcome) ∧
    (Startable "ls\n" ∧ started.outcome = .ok (.ok <| .running 42 ⟨"ls\n"⟩ 0) ∧
      (Record.running 42 ⟨"ls\n"⟩ 0).WellFormed) := by
  intro onLinux onMacos linux macos started sound
  have ⟨hl, hm, _, hs, _⟩ := records_are_well_formed 7
  have hf : Macos.Fits (onMacos (.inr .tableSize) ()).fst := fun bytes hb => by
    cases hb
    decide
  have hc : Startable "ls\n" := by decide
  have ho : started.outcome = .ok (.ok <| .running 42 ⟨"ls\n"⟩ 0) := rfl
  refine ⟨⟨rfl, hl ..⟩, ⟨rfl, (hm ..).left <| .inr hf⟩, hc, ho, ?_⟩
  have ⟨pid, memory, _, hr, hw⟩ := (hs 4096 _ onLinux () "ls\n" hc).left _ ho
  cases hr
  exact hw (by decide)

end Table

end ProcessControl
