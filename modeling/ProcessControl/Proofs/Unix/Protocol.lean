import ProcessControl.Proofs.Unix.Kill

namespace ProcessControl.Unix

-- The check whether a process has ended, as a single question. Whatever a check may answer, and however it changes its
-- mind, some system answers this one so.
def checks : Interface :=
  ⟨Pid, fun _ => Bool⟩

def check (pid : Pid) : Program checks Bool :=
  .call (I := checks) pid

-- A thing that was asked while a process was killed, and what came back.
abbrev Sight :=
  (interface.sum checks).Exchange

namespace Sight

def sent (target : Int32) (signal : Signal) (answer : Except Errno Unit) : Sight :=
  ⟨.inl <| .signal target signal, answer⟩

def checked (pid : Pid) (defunct : Bool) : Sight :=
  ⟨.inr pid, defunct⟩

def clock (now : Moment) : Sight :=
  ⟨.inl .clock, now⟩

def paused : Sight :=
  ⟨.inl <| .pause pollTime, ()⟩

def isKill : Sight → Bool
  | ⟨.inl (.signal _ .kill), _⟩ => true
  | _                           => false

end Sight

open Sight

section Runs

variable {σ α : Type} (handler : Handler (interface.sum checks) σ) (s : σ)

-- A run before which something was asked.
def after (e : Sight) (r : Run (interface.sum checks) σ α) : Run (interface.sum checks) σ α :=
  { r with history := e :: r.history }

@[simp] theorem after_outcome (e : Sight) (r : Run (interface.sum checks) σ α) : (after e r).outcome = r.outcome := rfl

@[simp] theorem after_history (e : Sight) (r : Run (interface.sum checks) σ α) :
    (after e r).history = e :: r.history :=
  rfl

theorem run_sendSignal (target : Int32) (signal : Signal) : ∃ answer s₁,
    ∀ k : Except Errno Unit → Program (interface.sum checks) α,
      ((sendSignal target signal).inl >>= k).run handler s =
        after (sent target signal answer) ((k answer).run handler s₁) :=
  ⟨_, _, fun _ => rfl⟩

theorem run_check (pid : Pid) : ∃ defunct s₁, ∀ k : Bool → Program (interface.sum checks) α,
    ((check pid).inr >>= k).run handler s = after (checked pid defunct) ((k defunct).run handler s₁) :=
  ⟨_, _, fun _ => rfl⟩

theorem run_readClock : ∃ now s₁, ∀ k : Moment → Program (interface.sum checks) α,
    (readClock.inl >>= k).run handler s = after (clock now) ((k now).run handler s₁) :=
  ⟨_, _, fun _ => rfl⟩

theorem run_pauseFor : ∃ s₁, ∀ k : Unit → Program (interface.sum checks) α,
    ((pauseFor pollTime).inl >>= k).run handler s = after paused ((k ()).run handler s₁) :=
  ⟨_, fun _ => rfl⟩

end Runs

section Wait

variable {σ : Type} {handler : Handler (interface.sum checks) σ} {s : σ} {pid : Pid} {target : Int32}
  {deadline : Moment} {polls : Nat} {seen : List Sight}

-- How the last look at a killed process ends the wait, and whether the process is gone.
inductive LastLook (pid : Pid) (target : Int32) (deadline : Moment) : List Sight → Bool → Prop
  | gone : LastLook pid target deadline [sent target .null <| .error .noSuchProcess] true
  | defunct {answer : Except Errno Unit} :
    answer ≠ .error .noSuchProcess → LastLook pid target deadline [sent target .null answer, checked pid true] true
  | late {answer : Except Errno Unit} {now : Moment} :
    answer ≠ .error .noSuchProcess → deadline.nanos ≤ now.nanos →
    LastLook pid target deadline [sent target .null answer, checked pid false, clock now] false

-- How the wait goes, with so many looks left to it. Nothing that the null signal may come to, except that there is no
-- such process, ends it.
inductive Wait (pid : Pid) (target : Int32) (deadline : Moment) : Nat → List Sight → Except Halt Bool → Prop
  | last {polls : Nat} {seen : List Sight} {isGone : Bool} :
    LastLook pid target deadline seen isGone → Wait pid target deadline (polls + 1) seen (.ok isGone)
  | again {polls : Nat} {answer : Except Errno Unit} {now : Moment} {later : List Sight} {ending : Except Halt Bool} :
    answer ≠ .error .noSuchProcess → now.nanos < deadline.nanos → Wait pid target deadline polls later ending →
    Wait pid target deadline (polls + 1)
      (sent target .null answer :: checked pid false :: clock now :: paused :: later) ending
  | out : Wait pid target deadline 0 [] (.error .unfinished)

theorem isGone_iff {answer : Except Errno Unit} : isGone answer = true ↔ answer = .error .noSuchProcess := by
  cases answer
  case error why => rw [isGone, beq_iff_eq, Except.error.injEq]
  case ok        => exact iff_of_false nofun nofun

-- A look either is the last one, or finds the process there in time and leaves the rest of the wait to later looks.
-- Which of the two it is does not hang on how many looks are left.
theorem look_ends_or_goes_on (handler : Handler (interface.sum checks) σ) (s : σ) (pid : Pid) (target : Int32)
    (deadline : Moment) :
    (∃ r b, LastLook pid target deadline r.history b ∧ r.outcome = .ok b ∧
      ∀ polls, (settle pid target check deadline (polls + 1)).run handler s = r) ∨
    ∃ answer now s', answer ≠ .error .noSuchProcess ∧ now.nanos < deadline.nanos ∧
      ∀ polls, (settle pid target check deadline (polls + 1)).run handler s =
        after (sent target .null answer) (after (checked pid false) <| after (clock now) <| after paused <|
          (settle pid target check deadline polls).run handler s') := by
  obtain ⟨answer, s₁, h₁⟩ := run_sendSignal (α := Bool) handler s target .null
  simp only [settle, h₁]
  by_cases hg : answer = .error .noSuchProcess
  case pos =>
    simp only [if_pos <| isGone_iff.mpr hg]
    subst hg
    exact .inl ⟨_, true, .gone, rfl, fun _ => rfl⟩
  case neg =>
    have hn : ¬isGone answer = true := mt isGone_iff.mp hg
    obtain ⟨defunct, s₂, h₂⟩ := run_check (α := Bool) handler s₁ pid
    simp only [if_neg hn, h₂]
    cases defunct
    case true =>
      simp only [if_true]
      exact .inl ⟨_, true, .defunct hg, rfl, fun _ => rfl⟩
    case false =>
      obtain ⟨now, s₃, h₃⟩ := run_readClock (α := Bool) handler s₂
      simp only [Bool.false_eq_true, if_false, h₃]
      by_cases hl : deadline.nanos ≤ now.nanos
      case pos =>
        simp only [if_pos hl]
        exact .inl ⟨_, false, .late hg hl, rfl, fun _ => rfl⟩
      case neg =>
        obtain ⟨s₄, h₄⟩ := run_pauseFor (α := Bool) handler s₃
        simp only [if_neg hl, h₄]
        exact .inr ⟨answer, now, s₄, hg, Nat.not_le.mp hl, fun _ => rfl⟩

theorem settle_wait (handler : Handler (interface.sum checks) σ) (s : σ) (pid : Pid) (target : Int32)
    (deadline : Moment) (polls : Nat) : Wait pid target deadline polls
      ((settle pid target check deadline polls).run handler s).history
      ((settle pid target check deadline polls).run handler s).outcome := by
  induction polls generalizing s
  case zero => exact .out
  case succ polls hi =>
    cases look_ends_or_goes_on handler s pid target deadline
    case inl h =>
      have ⟨r, b, hl, ho, hr⟩ := h
      rw [hr, ho]
      exact .last hl
    case inr h =>
      have ⟨answer, now, s', ha, hn, hr⟩ := h
      rw [hr]
      exact .again ha hn <| hi s'

-- More looks do not change a wait that has come to an end.
theorem settle_more (handler : Handler (interface.sum checks) σ) (s : σ) (pid : Pid) (target : Int32)
    (deadline : Moment) (polls more : Nat) :
    ((settle pid target check deadline polls).run handler s).outcome = .error .unfinished ∨
    (settle pid target check deadline (polls + more)).run handler s =
      (settle pid target check deadline polls).run handler s := by
  induction polls generalizing s
  case zero => exact .inl rfl
  case succ polls hi =>
    rw [Nat.add_right_comm]
    cases look_ends_or_goes_on handler s pid target deadline
    case inl h =>
      have ⟨r, b, _, _, hr⟩ := h
      rw [hr, hr]
      exact .inr rfl
    case inr h =>
      have ⟨answer, now, s', _, _, hr⟩ := h
      rw [hr, hr]
      exact (hi s').imp id <| congrArg fun r => after _ (after _ <| after _ <| after _ r)

namespace Wait

variable {wait : List Sight} {ending : Except Halt Bool}

theorem filter_isKill (h : Wait pid target deadline polls wait ending) : wait.filter isKill = [] := by
  induction h
  case last hl  => cases hl <;> rfl
  case again hi => exact hi
  case out      => rfl

-- What is seen at the very end of a wait: the process is gone, or has become defunct, or has had its time.
theorem exists_getLast? {isGone : Bool} (h : Wait pid target deadline polls wait (.ok isGone)) :
    ∃ e, wait.getLast? = some e ∧ (e = sent target .null (.error .noSuchProcess) ∨ e = checked pid true ∨
      ∃ now, e = clock now ∧ deadline.nanos ≤ now.nanos) := by
  generalize he : Except.ok isGone = ending at h
  induction h
  case last hl =>
    cases hl
    case gone         => exact ⟨_, rfl, .inl rfl⟩
    case defunct      => exact ⟨_, rfl, .inr <| .inl rfl⟩
    case late now _ h => exact ⟨_, rfl, .inr <| .inr ⟨now, rfl, h⟩⟩
  case again later _ _ _ _ hi =>
    have ⟨e, hl, he⟩ := hi he
    cases later
    case nil  => cases hl
    case cons => exact ⟨e, hl, he⟩
  case out => cases he

-- A wait that comes to no end has used up its looks, and there was time left at each of them.
theorem of_error {why : Halt} (h : Wait pid target deadline polls wait (.error why)) :
    why = .unfinished ∧ wait.length = 4 * polls ∧ ∀ now, clock now ∈ wait → now.nanos < deadline.nanos := by
  generalize he : (Except.error why : Except Halt Bool) = ending at h
  induction h
  case last => cases he
  case again answer now later _ _ hn _ hi =>
    have ⟨hw, hl, hc⟩ := hi he
    refine ⟨hw, by simp only [List.length_cons, hl]; omega, fun now' hm => ?_⟩
    simp only [List.mem_cons] at hm
    rcases hm with h | h | h | h | hm
    case inr.inr.inl => exact eq_of_heq (Interface.Exchange.mk.inj h).right ▸ hn
    case inr.inr.inr.inr => exact hc now' hm
    all_goals cases h
  case out => exact ⟨Except.error.inj he, rfl, fun _ hm => nomatch hm⟩

end Wait

end Wait

section Kill

variable {σ : Type} {pid : Pid} {polls : Nat} {history : List Sight} {outcome : Except Halt (Except Failure Unit)}

def InRange (pid : Pid) : Prop :=
  1 ≤ pid.toNat ∧ pid.toNat ≤ 0x7FFFFFFF

-- The process with the identifier, as the system is told.
def targetOf (pid : Pid) : Int32 :=
  Int32.ofNat pid.toNat

-- How a killing goes, with so many looks for the wait.
inductive Course (pid : Pid) (polls : Nat) : List Sight → Except Halt (Except Failure Unit) → Prop
  | invalid : ¬InRange pid → Course pid polls [] (.ok <| .error <| .invalidPid pid)
  | ended : InRange pid → Course pid polls [checked pid true] (.ok <| .error <| .notFound pid)
  | refused {why : Errno} : InRange pid →
    Course pid polls [checked pid false, sent (targetOf pid) .kill <| .error why] (.ok <| .error <| failureOf pid why)
  | accepted {start : Moment} {wait : List Sight} {ending : Except Halt Bool} : InRange pid →
    Wait pid (targetOf pid) ⟨start.nanos + settleTime.nanos⟩ polls wait ending →
    Course pid polls (checked pid false :: sent (targetOf pid) .kill (.ok ()) :: clock start :: wait)
      (ending.map fun _ => .ok ())

theorem target?_eq_some_iff {target : Int32} : pid.target? = some target ↔ InRange pid ∧ target = targetOf pid := by
  rw [Pid.target?_eq_some_iff, ← and_assoc]
  rfl

-- Apart from the wait, a killing does not hang on how many looks there are for it.
theorem kill_waits_or_not (handler : Handler (interface.sum checks) σ) (s : σ) (pid : Pid) :
    (∃ r, (∀ polls, Course pid polls r.history r.outcome) ∧ ∀ polls, (kill check pid polls).run handler s = r) ∨
    InRange pid ∧ ∃ start s', ∀ polls, (kill check pid polls).run handler s =
      after (checked pid false) (after (sent (targetOf pid) .kill <| .ok ()) <| after (clock start) <|
        (do
          let _ ← settle pid (targetOf pid) check ⟨start.nanos + settleTime.nanos⟩ polls
          return .ok () : Program (interface.sum checks) (Except Failure Unit)).run handler s') := by
  cases ht : pid.target?
  case none =>
    simp only [kill, ht]
    refine .inl ⟨_, fun _ => .invalid fun hp => ?_, fun _ => rfl⟩
    rw [target?_eq_some_iff.mpr ⟨hp, rfl⟩] at ht
    cases ht
  case some target =>
    obtain ⟨hp, rfl⟩ := target?_eq_some_iff.mp ht
    obtain ⟨defunct, s₁, h₁⟩ := run_check (α := Except Failure Unit) handler s pid
    simp only [kill, ht, h₁]
    cases defunct
    case true =>
      simp only [if_true]
      exact .inl ⟨_, fun _ => .ended hp, fun _ => rfl⟩
    case false =>
      obtain ⟨answer, s₂, h₂⟩ := run_sendSignal (α := Except Failure Unit) handler s₁ (targetOf pid) .kill
      simp only [Bool.false_eq_true, if_false, h₂]
      cases answer
      case error why =>
        dsimp only
        exact .inl ⟨_, fun _ => .refused hp, fun _ => rfl⟩
      case ok =>
        obtain ⟨start, s₃, h₃⟩ := run_readClock (α := Except Failure Unit) handler s₂
        simp only [h₃]
        exact .inr ⟨hp, start, s₃, fun _ => rfl⟩

theorem kill_course (handler : Handler (interface.sum checks) σ) (s : σ) (pid : Pid) (polls : Nat) :
    Course pid polls ((kill check pid polls).run handler s).history ((kill check pid polls).run handler s).outcome := by
  cases kill_waits_or_not handler s pid
  case inl h =>
    have ⟨r, hc, hr⟩ := h
    exact hr polls ▸ hc polls
  case inr h =>
    have ⟨hp, start, s', hr⟩ := h
    have hw := settle_wait handler s' pid (targetOf pid) ⟨start.nanos + settleTime.nanos⟩ polls
    have hc := Course.accepted hp hw
    rw [hr, Program.run_bind, Run.andThen]
    cases ho : ((settle pid (targetOf pid) check ⟨start.nanos + settleTime.nanos⟩ polls).run handler s').outcome
    case error why =>
      rw [ho] at hc
      exact hc
    case ok b =>
      rw [ho] at hc
      simp only [after_history, after_outcome, Pure.pure, Program.run, List.append_nil]
      exact hc

-- More looks do not change a killing that has come to an end.
theorem kill_more (handler : Handler (interface.sum checks) σ) (s : σ) (pid : Pid) (polls more : Nat) :
    ((kill check pid polls).run handler s).outcome = .error .unfinished ∨
    (kill check pid (polls + more)).run handler s = (kill check pid polls).run handler s := by
  cases kill_waits_or_not handler s pid
  case inl h =>
    have ⟨r, _, hr⟩ := h
    exact .inr <| (hr _).trans (hr _).symm
  case inr h =>
    have ⟨_, start, s', hr⟩ := h
    rw [hr, hr, Program.run_bind, Program.run_bind]
    cases settle_more handler s' pid (targetOf pid) ⟨start.nanos + settleTime.nanos⟩ polls more
    case inl ho =>
      rw [Run.andThen, ho]
      exact .inl rfl
    case inr he =>
      rw [he]
      exact .inr rfl

-- What is seen of a killing, and what it comes to.
structure Protocol (pid : Pid) (polls : Nat) (history : List Sight) (outcome : Except Halt (Except Failure Unit)) :
    Prop where
  -- An identifier that names no process, or a group of them, is refused before anything is asked.
  invalid : ¬InRange pid → history = [] ∧ outcome = .ok (.error <| .invalidPid pid)
  -- Any other process is looked at before it is signalled.
  checked : InRange pid → ∃ defunct later, history = checked pid defunct :: later
  ended : ∀ later, history = Sight.checked pid true :: later →
    later = [] ∧ outcome = .ok (.error <| .notFound pid)
  killedOnce : ∀ later, history = Sight.checked pid false :: later →
    ∃ answer after, later = sent (targetOf pid) .kill answer :: after ∧ after.filter isKill = []
  refused : ∀ why later, history = Sight.checked pid false :: sent (targetOf pid) .kill (.error why) :: later →
    later = [] ∧ outcome = .ok (.error <| failureOf pid why)
  waits : ∀ later, history = Sight.checked pid false :: sent (targetOf pid) .kill (.ok ()) :: later →
    ∃ start wait ending, later = clock start :: wait ∧
      Wait pid (targetOf pid) ⟨start.nanos + settleTime.nanos⟩ polls wait ending ∧ outcome = ending.map fun _ => .ok ()
  -- A killing succeeds if and only if the signal was accepted.
  succeeds : ∀ result, outcome = .ok result → (result = .ok () ↔ sent (targetOf pid) .kill (.ok ()) ∈ history)
  lastSeen : outcome = .ok (.ok ()) → ∃ start wait e,
    history = Sight.checked pid false :: sent (targetOf pid) .kill (.ok ()) :: clock start :: wait ∧
    wait.getLast? = some e ∧
    (e = sent (targetOf pid) .null (.error .noSuchProcess) ∨ e = Sight.checked pid true ∨
      ∃ now, e = clock now ∧ start.nanos + 2000000000 ≤ now.nanos)
  -- It comes to no result only if the signal was accepted and all looks were used up, each with time left.
  unfinished : ∀ why, outcome = .error why → why = .unfinished ∧ ∃ start wait,
    history = Sight.checked pid false :: sent (targetOf pid) .kill (.ok ()) :: clock start :: wait ∧
    wait.length = 4 * polls ∧ ∀ now, clock now ∈ wait → now.nanos < start.nanos + 2000000000

theorem checked_inj {defunct defunct' : Bool} {later later' : List Sight}
    (h : Sight.checked pid defunct :: later = Sight.checked pid defunct' :: later') :
    defunct = defunct' ∧ later = later' := by
  have ⟨he, hl⟩ := List.cons.inj h
  exact ⟨eq_of_heq (Interface.Exchange.mk.inj he).right, hl⟩

theorem sent_inj {target : Int32} {signal : Signal} {answer answer' : Except Errno Unit} {later later' : List Sight}
    (h : sent target signal answer :: later = sent target signal answer' :: later') :
    answer = answer' ∧ later = later' := by
  have ⟨he, hl⟩ := List.cons.inj h
  exact ⟨eq_of_heq (Interface.Exchange.mk.inj he).right, hl⟩

namespace Protocol

theorem of_not_inRange (hp : ¬InRange pid) : Protocol pid polls [] (.ok <| .error <| .invalidPid pid) where
  invalid _       := ⟨rfl, rfl⟩
  checked h       := absurd h hp
  ended _ h       := nomatch h
  killedOnce _ h  := nomatch h
  refused _ _ h   := nomatch h
  waits _ h       := nomatch h
  succeeds _ hr   := iff_of_false (Except.ok.inj hr ▸ nofun) nofun
  lastSeen hr     := nomatch hr
  unfinished _ hr := nomatch hr

theorem of_defunct (hp : InRange pid) :
    Protocol pid polls [Sight.checked pid true] (.ok <| .error <| .notFound pid) where
  invalid h       := absurd hp h
  checked _       := ⟨true, [], rfl⟩
  ended _ h       := ⟨(checked_inj h).right.symm, rfl⟩
  killedOnce _ h  := nomatch (checked_inj h).left
  refused _ _ h   := nomatch (checked_inj h).left
  waits _ h       := nomatch (checked_inj h).left
  succeeds _ hr   := iff_of_false (Except.ok.inj hr ▸ nofun) fun hm => nomatch List.mem_singleton.mp hm
  lastSeen hr     := nomatch hr
  unfinished _ hr := nomatch hr

theorem of_refused (hp : InRange pid) (why : Errno) :
    Protocol pid polls [Sight.checked pid false, sent (targetOf pid) .kill <| .error why]
      (.ok <| .error <| failureOf pid why) where
  invalid h       := absurd hp h
  checked _       := ⟨false, _, rfl⟩
  ended _ h       := nomatch (checked_inj h).left
  killedOnce _ h  := ⟨.error why, [], (checked_inj h).right.symm, rfl⟩
  refused _ _ h   := by
    have ⟨he, hl⟩ := sent_inj (checked_inj h).right
    exact ⟨hl.symm, by rw [Except.error.inj he]⟩
  waits _ h       := nomatch (sent_inj (checked_inj h).right).left
  succeeds _ hr   := by
    refine iff_of_false (Except.ok.inj hr ▸ nofun) fun hm => ?_
    cases List.mem_cons.mp hm
    case inl h => cases h
    case inr h => cases (sent_inj <| congrArg ([·]) <| List.mem_singleton.mp h).left
  lastSeen hr     := nomatch hr
  unfinished _ hr := nomatch hr

theorem of_wait {start : Moment} {wait : List Sight} {ending : Except Halt Bool} (hp : InRange pid)
    (hw : Wait pid (targetOf pid) ⟨start.nanos + settleTime.nanos⟩ polls wait ending) :
    Protocol pid polls (Sight.checked pid false :: sent (targetOf pid) .kill (.ok ()) :: clock start :: wait)
      (ending.map fun _ => .ok ()) where
  invalid h       := absurd hp h
  checked _       := ⟨false, _, rfl⟩
  ended _ h       := nomatch (checked_inj h).left
  killedOnce _ h  := ⟨.ok (), clock start :: wait, (checked_inj h).right.symm, hw.filter_isKill⟩
  refused _ _ h   := nomatch (sent_inj (checked_inj h).right).left
  waits _ h       := ⟨start, wait, ending, (sent_inj (checked_inj h).right).right.symm, hw, rfl⟩
  succeeds _ hr   := by
    refine iff_of_true ?_ <| .tail _ <| .head _
    cases ending
    case error => cases hr
    case ok    => exact (Except.ok.inj hr).symm
  lastSeen hr     := by
    cases ending
    case error => cases hr
    case ok    =>
      have ⟨e, hl, he⟩ := hw.exists_getLast?
      exact ⟨start, wait, e, rfl, hl, he⟩
  unfinished _ hr := by
    cases ending
    case ok    => cases hr
    case error =>
      have ⟨he, hl, hc⟩ := hw.of_error
      exact ⟨Except.error.inj hr ▸ he, start, wait, rfl, hl, hc⟩

end Protocol

theorem Course.protocol (h : Course pid polls history outcome) : Protocol pid polls history outcome := by
  cases h
  case invalid hp     => exact .of_not_inRange hp
  case ended hp       => exact .of_defunct hp
  case refused why hp => exact .of_refused hp why
  case accepted hp hw => exact .of_wait hp hw

theorem killing_keeps_protocol {σ : Type} (handler : Handler (interface.sum checks) σ) (s : σ) (pid : Pid)
    (polls : Nat) :
    let r := (kill check pid polls).run handler s
    Protocol pid polls r.history r.outcome ∧
    ∀ result, r.outcome = .ok result → ∀ more, (kill check pid (polls + more)).run handler s = r := by
  intro r
  refine ⟨(kill_course handler s pid polls).protocol, fun result ho more => ?_⟩
  cases kill_more handler s pid polls more
  case inl h => cases ho.symm.trans h
  case inr h => exact h

end Kill

end ProcessControl.Unix
