import ProcessControl.Proofs.Program
import ProcessControl.Unix.Launch
import ProcessControl.Validation

namespace ProcessControl.Unix

variable {command : String}

theorem isOption_iff :
    Arguments.isOption command = true ↔ command.toList.head? = some '-' ∨ command.toList.head? = some '+' := by
  simp [Arguments.isOption]

-- What is read after the option that makes the shell run a command.
theorem read_shell (command : String) : Arguments.read (shell command).arguments =
    { Arguments.read [command] with options := "-c" :: (Arguments.read [command]).options } :=
  rfl

theorem read_singleton_of_isOption (h : Arguments.isOption command = true) :
    (Arguments.read [command]).operands = [] := by
  by_cases hc : command = "--" <;> simp [Arguments.read, hc, h]

theorem read_singleton_of_not_isOption (h : ¬Arguments.isOption command = true) :
    Arguments.read [command] = ⟨[], [command]⟩ := by
  have hc : command ≠ "--" := by
    rintro rfl
    exact h rfl
  simp [Arguments.read, hc, h]

theorem read_shell_eq_iff :
    Arguments.read (shell command).arguments = ⟨["-c"], [command]⟩ ↔ ¬Arguments.isOption command = true := by
  rw [read_shell]
  constructor
  case mp =>
    intro h ho
    have hn := read_singleton_of_isOption ho
    rw [congrArg Arguments.operands h] at hn
    cases hn
  case mpr =>
    intro h
    rw [read_singleton_of_not_isOption h]

theorem not_mem_of_validateCommand (h : validateCommand command = .ok ()) :
    command.toList.contains '\x00' = false := by
  unfold validateCommand at h
  split at h
  case isTrue => cases h
  case isFalse =>
    split at h
    case isTrue     => cases h
    case isFalse hn => exact Bool.eq_false_iff.mpr hn

section Launch

variable {σ : Type} {handler : Handler interface σ} {s : σ}

theorem run_launch_of_ok {pid : Pid} (hn : command.toList.contains '\x00' = false)
    (h : (handler (.start <| shell command) s).fst = .ok pid) : (launch command).run handler s =
      ⟨.ok <| .ok pid, [⟨.start <| shell command, .ok pid⟩], [.noticed <| .spawned pid command],
        (handler (.start <| shell command) s).snd⟩ := by
  simp only [launch, hn, Bool.false_eq_true, if_false]
  exact Program.run_ask (I := interface) h

theorem run_launch_of_error {why : Errno} (hn : command.toList.contains '\x00' = false)
    (h : (handler (.start <| shell command) s).fst = .error why) : (launch command).run handler s =
      ⟨.ok <| .error <| notStarted command why.explain, [⟨.start <| shell command, .error why⟩], [],
        (handler (.start <| shell command) s).snd⟩ := by
  simp only [launch, hn, Bool.false_eq_true, if_false]
  exact Program.run_ask (I := interface) h

theorem calls_launch (handler : Handler interface σ) (s : σ) (hn : command.toList.contains '\x00' = false) :
    ((launch command).run handler s).calls = [.start <| shell command] := by
  obtain ⟨answer, h⟩ : ∃ answer : Except Errno Pid, (handler (.start <| shell command) s).fst = answer := ⟨_, rfl⟩
  cases answer
  case error => rw [run_launch_of_error hn h]; rfl
  case ok    => rw [run_launch_of_ok hn h]; rfl

end Launch

-- A command that is accepted is handed to the shell in one piece and reported as started when the shell is there. The
-- shell takes it for its command string exactly if it has no sign in front; otherwise it is left without any.
theorem command_is_run_iff {σ : Type} (h : validateCommand command = .ok ()) (handler : Handler interface σ) (s : σ) :
    let r := (launch command).run handler s
    let arguments := Arguments.read (shell command).arguments
    r.calls = [.start <| shell command] ∧
    (∀ pid, (handler (.start <| shell command) s).fst = .ok pid →
      r.outcome = .ok (.ok pid) ∧ r.log = [.noticed <| .spawned pid command]) ∧
    (arguments = ⟨["-c"], [command]⟩ ↔ command.toList.head? ≠ some '-' ∧ command.toList.head? ≠ some '+') ∧
    (command.toList.head? = some '-' ∨ command.toList.head? = some '+' → arguments.operands = []) := by
  have hn := not_mem_of_validateCommand h
  refine ⟨calls_launch handler s hn, fun pid hp => ?started, ?runs, fun ho => ?refuses⟩
  case started =>
    rw [run_launch_of_ok hn hp]
    exact ⟨rfl, rfl⟩
  case runs => rw [read_shell_eq_iff, isOption_iff, not_or]
  case refuses =>
    rw [read_shell]
    exact read_singleton_of_isOption <| isOption_iff.mpr ho

-- A system on which every program starts.
def willing : Handler interface Unit
  | .signal _ _, s => (.ok (), s)
  | .clock, s      => (⟨0⟩, s)
  | .pause _, s    => ((), s)
  | .start _, s    => (.ok 42, s)
  | .wallClock, s  => ((0 : UInt64), s)

-- A command whose first word is an option of the shell, though it may be the name of a program as well.
def verbose : String :=
  "-v 2>/dev/null; echo ran"

theorem command_is_run_iff_verbose : validateCommand verbose = .ok () ∧
    ((launch verbose).run willing ()).outcome = .ok (.ok 42) ∧
    (Arguments.read (shell verbose).arguments).operands = [] := by
  have hv : validateCommand verbose = .ok () := rfl
  have ⟨_, hs, _, ho⟩ := command_is_run_iff hv willing ()
  exact ⟨hv, (hs 42 rfl).left, ho <| .inl rfl⟩

theorem option_is_never_run : ¬∀ command, validateCommand command = .ok () →
    Arguments.read (shell command).arguments = ⟨["-c"], [command]⟩ :=
  fun h => absurd (h verbose rfl) (by decide)

end ProcessControl.Unix
