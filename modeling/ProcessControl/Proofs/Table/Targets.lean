import ProcessControl.Linux.Platform
import ProcessControl.Macos.Platform
import ProcessControl.Proofs.Table.Session
import ProcessControl.Proofs.Unix.Kill
import ProcessControl.Proofs.Windows.Operations

namespace ProcessControl

open Program

namespace Unix

variable {J : Interface} {own pid : Pid} {isDefunct : Pid → Program J Bool}

-- The target of a signal is the process to be ended. Nothing else that is asked matters.
def Aimed (own : Pid) (asked : Option Pid) : (interface.sum J).Call → Prop
  | .inl (.signal target _) =>
    ∃ pid, asked = some pid ∧ target.toInt = pid.toNat ∧ 0 < pid.toNat ∧ pid.toNat ≤ Pid.greatestTarget ∧ pid ≠ own
  | _ => True

theorem inr_aimed {α : Type} {asked : Option Pid} (p : Program J α) :
    (p.inr : Program (interface.sum J) α).Asks (Aimed own asked) := by
  apply Asks.inr
  induction p
  case done    => trivial
  case halt    => trivial
  case note hi => exact hi
  case ask hi  => exact ⟨trivial, hi⟩

theorem settle_aimed {target : Int32} {deadline : Moment} (polls : Nat)
    (h : ∀ signal, Aimed own (some pid) (.inl (.signal target signal) : (interface.sum J).Call)) :
    (settle pid target isDefunct deadline polls).Asks (Aimed own <| some pid) := by
  induction polls
  case zero => trivial
  case succ polls hi =>
    refine Asks.bind (Asks.inl ⟨h .null, fun _ => trivial⟩) fun answer => ?_
    split
    case isTrue  => exact Asks.pure _
    case isFalse =>
      refine Asks.bind (inr_aimed _) fun defunct => ?_
      split
      case isTrue  => exact Asks.pure _
      case isFalse =>
        refine Asks.bind (Asks.inl ⟨trivial, fun _ => trivial⟩) fun now => ?_
        split
        case isTrue  => exact Asks.pure _
        case isFalse => exact Asks.bind (Asks.inl ⟨trivial, fun _ => trivial⟩) fun _ => hi

theorem kill_aimed (polls : Nat) (h : pid ≠ own) : (kill isDefunct pid polls).Asks (Aimed own <| some pid) := by
  unfold kill
  split
  case h_1 => exact Asks.pure _
  case h_2 target ht =>
    have ⟨h₀, h₁, _⟩ := Pid.target?_eq_some_iff.mp ht
    -- All signals go to the one target, so the range is looked at once.
    have ha : ∀ signal, Aimed own (some pid) (.inl (.signal target signal) : (interface.sum J).Call) :=
      fun _ => ⟨pid, rfl, Pid.toInt_of_target? ht, h₀, h₁, h⟩
    refine Asks.bind (inr_aimed _) fun defunct => ?_
    split
    case isTrue  => exact Asks.pure _
    case isFalse =>
      refine Asks.bind (Asks.inl ⟨ha .kill, fun _ => trivial⟩) fun answer => ?_
      cases answer
      case error => exact Asks.pure _
      case ok    =>
        refine Asks.bind (Asks.inl ⟨trivial, fun _ => trivial⟩) fun start => ?_
        exact Asks.bind (settle_aimed polls ha) fun _ => Asks.pure _

theorem launch_aimed (command : String) :
    ((launch command).inl : Program (interface.sum J) _).Asks (Aimed own none) := by
  apply Asks.inl
  unfold launch
  split
  case isTrue  => exact Asks.pure _
  case isFalse =>
    refine Asks.bind ⟨trivial, fun _ => trivial⟩ fun answer => ?_
    cases answer
    case error => exact Asks.pure _
    case ok    => exact trivial

end Unix

theorem Linux.platform_aimed (pageSize : Memory) (polls : Nat) (own : Pid) :
    (Linux.platform pageSize polls).Confined own (Unix.Aimed own) where
  spawn command := by
    refine Asks.bind (Unix.launch_aimed command) fun result => ?_
    cases result
    case error => exact Asks.pure _
    case ok    => exact Asks.bind (Unix.inr_aimed _) fun _ => Asks.pure _
  terminate _ _ h := Unix.kill_aimed polls h
  enumerate _     := Unix.inr_aimed _
  probeMemory _   := Unix.inr_aimed _
  uptime := by
    refine Asks.bind (Unix.inr_aimed _) fun answer => ?_
    cases answer
    case ok    => exact Asks.pure _
    case error =>
      refine Asks.bind (Unix.inr_aimed _) fun text? => ?_
      split
      case h_1 => exact Asks.pure _
      case h_2 =>
        exact Asks.bind (Asks.log _) fun _ => Asks.bind (Asks.inl ⟨trivial, fun _ => trivial⟩) fun _ => Asks.pure _
  yieldNow := Asks.pure _

theorem Macos.platform_aimed (polls : Nat) (own : Pid) :
    (Macos.platform polls).Confined own (Unix.Aimed own) where
  spawn command := by
    refine Asks.bind (Unix.launch_aimed command) fun result => ?_
    cases result
    case error => exact Asks.pure _
    case ok    => exact Asks.bind (Unix.inr_aimed _) fun _ => Asks.pure _
  terminate _ _ h := Unix.kill_aimed polls h
  enumerate _     := Unix.inr_aimed _
  probeMemory _   := Unix.inr_aimed _
  uptime := by
    refine Asks.bind (Unix.inr_aimed _) fun (boot, failure?) => ?_
    refine Asks.bind (Asks.inl ⟨trivial, fun _ => trivial⟩) fun now => ?_
    split
    case isTrue  => exact Asks.pure _
    case isFalse =>
      exact Asks.bind (Asks.log _) fun _ => Asks.bind (Asks.inl ⟨trivial, fun _ => trivial⟩) fun _ => Asks.pure _
  yieldNow := Asks.pure _

namespace Windows

-- A process is opened to be ended only if it is the one to be ended.
def Aimed (own : Pid) (asked : Option Pid) : interface.Call → Prop
  | .openProcess .terminate pid => asked = some pid ∧ pid ≠ 0 ∧ pid ≠ own
  | _ => True

variable {own : Pid} {asked : Option Pid}

theorem probeMemory_aimed (pid : Pid) : (probeMemory pid).Asks (Aimed own asked) := by
  refine Asks.bind ⟨trivial, fun _ => trivial⟩ fun process => ?_
  split
  case isTrue  => exact ⟨trivial, fun _ => trivial⟩
  case isFalse => exact ⟨trivial, fun _ => ⟨trivial, fun _ => trivial⟩⟩

theorem visit_aimed (entry : Entry) (records : List Record) : (visit entry records).Asks (Aimed own asked) := by
  rw [visit]
  split
  case isTrue  => exact Asks.pure _
  case isFalse => exact Asks.bind (probeMemory_aimed _) fun _ => Asks.pure _

theorem walk_aimed_of_behind {snapshot : Handle} {max : UInt64} {left : Nat}
    (h : ∀ records, (walkBehind snapshot max left records).Asks (Aimed own asked)) (next? : Option Entry)
    (records : List Record) : (walk snapshot max left next? records).Asks (Aimed own asked) := by
  cases next?
  case none => exact walk_none .. ▸ Asks.pure _
  case some entry =>
    rw [walk_some]
    split
    case isTrue  => exact Asks.pure _
    case isFalse => exact Asks.bind (visit_aimed _ _) h

theorem walk_aimed (snapshot : Handle) (max : UInt64) (left : Nat) (next? : Option Entry) (records : List Record) :
    (walk snapshot max left next? records).Asks (Aimed own asked) := by
  induction left generalizing next? records
  case zero =>
    refine walk_aimed_of_behind (fun records => ?_) next? records
    exact ⟨trivial, fun _ => trivial⟩
  case succ left hi =>
    refine walk_aimed_of_behind (fun records => ?_) next? records
    exact ⟨trivial, fun next? => hi next? records⟩

theorem enumerate_aimed (max : UInt64) : (enumerate max).Asks (Aimed own asked) := by
  unfold enumerate
  split
  case isTrue  => exact Asks.pure _
  case isFalse =>
    refine Asks.bind ⟨trivial, fun _ => trivial⟩ fun snapshot => ?_
    split
    case isTrue  => exact ⟨trivial, fun _ => ⟨trivial, fun _ => trivial⟩⟩
    case isFalse =>
      refine Asks.bind ⟨trivial, fun _ => trivial⟩ fun first => ?_
      exact Asks.bind (walk_aimed _ _ _ _ _) fun _ => ⟨trivial, fun _ => trivial⟩

theorem terminate_aimed {pid : Pid} (h₀ : pid ≠ 0) (h₁ : pid ≠ own) :
    (terminate pid).Asks (Aimed own <| some pid) := by
  refine Asks.bind ⟨⟨rfl, h₀, h₁⟩, fun _ => trivial⟩ fun process => ?_
  split
  case isTrue  => exact ⟨trivial, fun _ => trivial⟩
  case isFalse =>
    refine Asks.bind ⟨trivial, fun _ => trivial⟩ fun ended => ?_
    split
    case isTrue  => exact ⟨trivial, fun _ => ⟨trivial, fun _ => trivial⟩⟩
    case isFalse => exact ⟨trivial, fun _ => ⟨trivial, fun _ => trivial⟩⟩

theorem platform_aimed (own : Pid) : Windows.platform.Confined own (Aimed own) where
  spawn command := by
    refine Asks.bind ⟨trivial, fun _ => trivial⟩ fun started => ?_
    cases started
    case error => exact Asks.pure _
    case ok    => exact Asks.bind (Asks.log _) fun _ => Asks.bind (probeMemory_aimed _) fun _ => Asks.pure _
  terminate _   := terminate_aimed
  enumerate     := enumerate_aimed
  probeMemory   := probeMemory_aimed
  uptime        := ⟨trivial, fun _ => trivial⟩
  yieldNow      := Asks.pure _

end Windows

namespace Table

theorem Request.eq_terminate_of_target? {request : Request} {pid : Pid} (h : request.target? = some pid) :
    request = .terminate pid := by
  cases request <;> simp only [target?, reduceCtorEq, Option.some.injEq] at h
  case terminate => rw [h]

variable {σ : Type}

theorem only_the_target_is_hit (own : Pid) (threads : Threads σ) (requests : List Request) (s : σ) :
    (∀ pageSize polls (handler : Handler Linux.interface σ),
      ∀ entry ∈ session ⟨Linux.platform pageSize polls, own⟩ handler threads requests s, ∀ (target : Int32) signal,
        .inl (.signal target signal) ∈ entry.2.calls →
          ∃ pid : Pid, entry.1 = .terminate pid ∧ target.toInt = pid.toNat ∧
            1 ≤ pid.toNat ∧ pid.toNat ≤ 0x7FFFFFFF ∧ pid ≠ own) ∧
    (∀ polls (handler : Handler Macos.interface σ),
      ∀ entry ∈ session ⟨Macos.platform polls, own⟩ handler threads requests s, ∀ (target : Int32) signal,
        .inl (.signal target signal) ∈ entry.2.calls →
          ∃ pid : Pid, entry.1 = .terminate pid ∧ target.toInt = pid.toNat ∧
            1 ≤ pid.toNat ∧ pid.toNat ≤ 0x7FFFFFFF ∧ pid ≠ own) ∧
    (∀ handler : Handler Windows.interface σ,
      ∀ entry ∈ session ⟨Windows.platform, own⟩ handler threads requests s, ∀ pid,
        .openProcess .terminate pid ∈ entry.2.calls →
          entry.1 = .terminate pid ∧ pid ≠ 0 ∧ pid ≠ own) := by
  refine ⟨?linux, ?macos, ?windows⟩
  case linux =>
    intro pageSize polls handler entry he target signal hc
    have ⟨pid, hp, h⟩ := mem_calls_session (Linux.platform_aimed pageSize polls own) he hc
    exact ⟨pid, Request.eq_terminate_of_target? hp, h⟩
  case macos =>
    intro polls handler entry he target signal hc
    have ⟨pid, hp, h⟩ := mem_calls_session (Macos.platform_aimed polls own) he hc
    exact ⟨pid, Request.eq_terminate_of_target? hp, h⟩
  case windows =>
    intro handler entry he pid hc
    have ⟨hp, h⟩ := mem_calls_session (Windows.platform_aimed own) he hc
    exact ⟨Request.eq_terminate_of_target? hp, h⟩

-- Systems that stay as they are, whatever is asked. On the last one every process can be opened.
def unmovedFiles : Handler Linux.files Unit
  | .listRoot, s   => (.ok [], s)
  | .readFile _, s => (.ok [], s)
  | .bootClock, s  => (.ok 0, s)
  | .pageSize, s   => (.ok none, s)

def unmovedKernel : Handler Macos.kernel Unit
  | .tableSize, s   => (.ok 0, s)
  | .tableCopy _, s => (.ok ⟨0, []⟩, s)
  | .taskInfo _, s  => (⟨0, 0⟩, s)
  | .bsdInfo _, s   => (⟨0, 0⟩, s)
  | .bootTime, s    => ((0, none), s)

def unmovedWindows : Handler Windows.interface Unit
  | .openProcess _ _, s      => (⟨8⟩, s)
  | .createSnapshot, s       => (⟨12⟩, s)
  | .firstEntry _, s         => ((none, 0), s)
  | .nextEntry _ 0, s        => ((), s)
  | .nextEntry _ (_ + 1), s  => (none, s)
  | .memoryInfo _, s         => (none, s)
  | .terminateProcess _ _, s => (true, s)
  | .waitFor _ _, s          => ((258 : UInt32), s)
  | .closeHandle _, s        => ((), s)
  | .lastError, s            => ((0 : UInt32), s)
  | .tickCount, s            => ((0 : UInt64), s)
  | .start _ _, s            => (.ok 42, s)

def firstRun {I : Interface} (t : Table I) (handler : Handler I Unit) (request : Request) : Run I Unit Reply :=
  t.serve handler ⟨fun _ => ⟨0⟩, fun _ => .ok ()⟩ request ()

theorem only_the_target_is_hit_at_42 :
    (.inl (.signal 42 .null) ∈
        (firstRun ⟨Linux.platform 4096 2, 7⟩ (Unix.unmoved unmovedFiles) (.terminate 42)).calls ∧
      ∃ pid : Pid, Request.terminate 42 = .terminate pid ∧ (42 : Int32).toInt = pid.toNat ∧
        1 ≤ pid.toNat ∧ pid.toNat ≤ 0x7FFFFFFF ∧ pid ≠ 7) ∧
    (.inl (.signal 42 .kill) ∈
        (firstRun ⟨Macos.platform 2, 7⟩ (Unix.unmoved unmovedKernel) (.terminate 42)).calls ∧
      ∃ pid : Pid, Request.terminate 42 = .terminate pid ∧ (42 : Int32).toInt = pid.toNat ∧
        1 ≤ pid.toNat ∧ pid.toNat ≤ 0x7FFFFFFF ∧ pid ≠ 7) ∧
    (.openProcess .terminate 42 ∈ (firstRun ⟨Windows.platform, 7⟩ unmovedWindows (.terminate 42)).calls ∧
      Request.terminate 42 = .terminate 42 ∧ (42 : Pid) ≠ 0 ∧ (42 : Pid) ≠ 7) := by
  have ⟨linux, macos, windows⟩ := only_the_target_is_hit 7 ⟨fun _ => ⟨0⟩, fun _ => .ok ()⟩ [.terminate 42] ()
  have onLinux : .inl (.signal 42 .null) ∈
      (firstRun ⟨Linux.platform 4096 2, 7⟩ (Unix.unmoved unmovedFiles) (.terminate 42)).calls :=
    .tail _ <| .tail _ <| .tail _ <| .head _
  have onMacos : .inl (.signal 42 .kill) ∈
      (firstRun ⟨Macos.platform 2, 7⟩ (Unix.unmoved unmovedKernel) (.terminate 42)).calls :=
    .tail _ <| .head _
  have onWindows : .openProcess .terminate 42 ∈
      (firstRun ⟨Windows.platform, 7⟩ unmovedWindows (.terminate 42)).calls :=
    .head _
  exact ⟨
    ⟨onLinux, linux 4096 2 (Unix.unmoved unmovedFiles) _ (.head _) 42 .null onLinux⟩,
    ⟨onMacos, macos 2 (Unix.unmoved unmovedKernel) _ (.head _) 42 .kill onMacos⟩,
    ⟨onWindows, windows unmovedWindows _ (.head _) 42 onWindows⟩⟩

end Table

end ProcessControl
