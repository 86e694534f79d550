import ProcessControl.Proofs.Program.History
import ProcessControl.Proofs.Unix.Protocol

namespace ProcessControl.Unix

open Sight

-- The wait of a killing, from the moment at which its time begins to run.
def awaitEnd {J : Interface} (pid : Pid) (target : Int32) (isDefunct : Pid → Program J Bool)
    (polls : Nat := settlePolls) : Program (interface.sum J) Bool := do
  let start ← readClock.inl
  settle pid target isDefunct ⟨start.nanos + settleTime.nanos⟩ polls

theorem kill_eq {J : Interface} (isDefunct : Pid → Program J Bool) (pid : Pid) (polls : Nat) :
    kill isDefunct pid polls =
      match pid.target? with
      | none        => return .error (.invalidPid pid)
      | some target => do
        if ← (isDefunct pid).inr then return .error (.notFound pid)
        match ← (sendSignal target .kill).inl with
        | .error why => return .error (failureOf pid why)
        | .ok ()     =>
          let _ ← awaitEnd pid target isDefunct polls
          return .ok () := by
  simp only [awaitEnd, bind_assoc]
  rfl

-- That time does not go back, whatever the system is asked, that the clock tells the time of some moment while it is
-- read, and that a pause takes the time it is meant to take, at least.
structure Paced {σ : Type} (handler : Handler (interface.sum checks) σ) (time : σ → Nat) : Prop where
  forward : ∀ call s, time s ≤ time (handler call s).snd
  reads   : ∀ s (now : Moment), (handler (.inl .clock) s).fst = now →
    time s ≤ now.nanos ∧ now.nanos ≤ time (handler (.inl .clock) s).snd
  pauses  : ∀ s, time s + pollTime.nanos ≤ time (handler (.inl <| .pause pollTime) s).snd

namespace Sight

def isPoll : Sight → Bool
  | ⟨.inl (.signal _ .null), _⟩ => true
  | _                           => false

@[simp] theorem isPoll_sent_null (target : Int32) (answer : Except Errno Unit) :
    isPoll (sent target .null answer) = true :=
  rfl

@[simp] theorem isPoll_checked (pid : Pid) (defunct : Bool) : isPoll (checked pid defunct) = false := rfl

@[simp] theorem isPoll_clock (now : Moment) : isPoll (clock now) = false := rfl

@[simp] theorem isPoll_paused : isPoll paused = false := rfl

end Sight

section Wait

variable {σ : Type} {handler : Handler (interface.sum checks) σ} {time : σ → Nat} {s : σ} {pid : Pid}
  {target : Int32} {deadline : Moment} {polls : Nat} {wait : List Sight} {ending : Except Halt Bool} {isGone : Bool}

-- What can be seen last by a wait that tells whether the process is gone.
inductive Evidence (pid : Pid) (target : Int32) (deadline : Moment) : Bool → Sight → Prop
  | gone : Evidence pid target deadline true (sent target .null <| .error .noSuchProcess)
  | defunct : Evidence pid target deadline true (checked pid true)
  | late {now : Moment} : deadline.nanos ≤ now.nanos → Evidence pid target deadline false (clock now)

theorem LastLook.evidence (h : LastLook pid target deadline wait isGone) :
    ∃ e, wait.getLast? = some e ∧ Evidence pid target deadline isGone e := by
  cases h
  case gone      => exact ⟨_, rfl, .gone⟩
  case defunct   => exact ⟨_, rfl, .defunct⟩
  case late _ hl => exact ⟨_, rfl, .late hl⟩

-- A look that does not end the wait tells a time that is not before it, and its pause moves on what comes after it.
theorem Paced.look {answer : Except Errno Unit} {now : Moment} {later : List Sight} (hp : Paced handler time)
    (ha : Answered handler s (sent target .null answer :: checked pid false :: clock now :: paused :: later)) :
    time s ≤ now.nanos ∧ ∃ s', time s + pollTime.nanos ≤ time s' ∧ Answered handler s' later := by
  have ⟨_, _, hc, _, hl⟩ := ha
  have ⟨h₀, h₁⟩ := hp.reads _ _ hc
  have hs := hp.forward (.inl <| .signal target .null) s
  have hd := hp.forward (.inr pid) (handler (.inl <| .signal target .null) s).snd
  exact ⟨by omega, _, Nat.le_trans (by omega) (hp.pauses _), hl⟩

namespace Wait

theorem evidence (h : Wait pid target deadline polls wait (.ok isGone)) :
    ∃ e, wait.getLast? = some e ∧ Evidence pid target deadline isGone e := by
  generalize he : Except.ok isGone = ending at h
  induction h
  case last hl =>
    cases he
    exact hl.evidence
  case again hi =>
    have ⟨e, hl, he⟩ := hi he
    exact ⟨e, by simp [List.getLast?_cons, hl], he⟩
  case out => cases he

theorem countP_isPoll_le (h : Wait pid target deadline polls wait ending) : wait.countP isPoll ≤ polls := by
  induction h
  case last hl  => cases hl <;> simp [List.countP_cons]
  case again hi => simpa [List.countP_cons] using hi
  case out      => exact Nat.le_refl 0

-- Each look that does not end the wait is followed by a pause, so no more looks are made than the pauses that fit in
-- the time, and one.
theorem ends (hp : Paced handler time) (h : Wait pid target deadline (polls + 1) wait ending)
    (ha : Answered handler s wait) (hd : deadline.nanos ≤ time s + polls * pollTime.nanos) :
    ∃ isGone, ending = .ok isGone := by
  induction polls generalizing s wait
  case zero =>
    cases h
    case last => exact ⟨_, rfl⟩
    case again hn _ =>
      have ⟨hr, _⟩ := hp.look ha
      omega
  case succ polls hi =>
    cases h
    case last => exact ⟨_, rfl⟩
    case again hn hw =>
      have ⟨_, s', ht, hl⟩ := hp.look ha
      exact hi hw hl <| by rw [Nat.succ_mul] at hd; omega

-- A process that is waited for from the moment that the clock told gets an answer: the pauses of five milliseconds, one
-- less than there are looks, fill two seconds.
theorem ends_of_start {start : Moment} (hp : Paced handler time)
    (h : Wait pid target ⟨start.nanos + settleTime.nanos⟩ settlePolls wait ending)
    (ha : Answered handler s (clock start :: wait)) : ∃ isGone, ending = .ok isGone := by
  have ⟨hc, hw⟩ := ha
  have hs := (hp.reads _ _ hc).right
  exact h.ends hp hw <| Nat.add_le_add_right hs _

end Wait

end Wait

section AwaitEnd

variable {σ : Type} {handler : Handler (interface.sum checks) σ} {time : σ → Nat}

-- So many looks are enough for any process and any such clock, and more of them change nothing.
theorem settling_ends (hp : Paced handler time) (s : σ) (pid : Pid) (target : Int32) :
    ∃ start wait isGone,
      let r := (awaitEnd pid target check).run handler s
      r.outcome = .ok isGone ∧ r.history = clock start :: wait ∧ wait.countP isPoll ≤ 401 ∧
      (∃ e, wait.getLast? = some e ∧ Evidence pid target ⟨start.nanos + 2000000000⟩ isGone e) ∧
      ∀ more, (awaitEnd pid target check (settlePolls + more)).run handler s = r := by
  let start : Moment := (handler (.inl .clock) s).fst
  let s₁ := (handler (.inl .clock) s).snd
  let r := (settle pid target check ⟨start.nanos + settleTime.nanos⟩ settlePolls).run handler s₁
  have hw : Wait pid target ⟨start.nanos + settleTime.nanos⟩ settlePolls r.history r.outcome :=
    settle_wait handler s₁ pid target _ settlePolls
  have ⟨isGone, ho⟩ := hw.ends_of_start hp (s := s) ⟨rfl, Program.run_answered _ s₁⟩
  rw [ho] at hw
  refine ⟨start, r.history, isGone, ho, rfl, hw.countP_isPoll_le, hw.evidence, fun more => ?_⟩
  cases settle_more handler s₁ pid target ⟨start.nanos + settleTime.nanos⟩ settlePolls more
  case inl h => cases ho.symm.trans h
  case inr h => exact congrArg (after <| clock start) h

-- A system on which a process stays what it is, whatever it is sent, and time goes by in pauses only.
def stubborn : Handler (interface.sum checks) Nat
  | .inl (.signal _ _), now => (.ok (), now)
  | .inl .clock, now        => (⟨now⟩, now)
  | .inl (.pause time), now => ((), now + time.nanos)
  | .inl (.start _), now    => (.ok 42, now)
  | .inl .wallClock, now    => ((0 : UInt64), now)
  | .inr _, now             => (false, now)

theorem stubborn_paced : Paced stubborn id where
  forward call now := by
    cases call
    case inr     => exact Nat.le_refl _
    case inl call =>
      cases call
      case pause => exact Nat.le_add_right _ _
      all_goals exact Nat.le_refl _
  reads now _ h := by
    subst h
    exact ⟨Nat.le_refl _, Nat.le_refl _⟩
  pauses now    := Nat.le_refl (now + pollTime.nanos)

theorem settling_ends_stubborn :
    ∃ start wait, ((awaitEnd 42 42 check).run stubborn 7).outcome = .ok false ∧
      ((awaitEnd 42 42 check).run stubborn 7).history = clock start :: wait ∧ wait.countP isPoll = 401 ∧
      ∃ e, wait.getLast? = some e ∧ Evidence 42 42 ⟨start.nanos + 2000000000⟩ false e := by
  have ⟨start, wait, isGone, ho, hh, _, he, _⟩ := settling_ends stubborn_paced 7 42 42
  have hf : ((awaitEnd 42 42 check).run stubborn 7).outcome.toOption = some false := by decide +kernel
  have hc : ((awaitEnd 42 42 check).run stubborn 7).history.countP isPoll = 401 := by decide +kernel
  rw [ho] at hf
  cases hf
  rw [hh] at hc
  exact ⟨start, wait, ho, hh, by simpa [List.countP_cons] using hc, he⟩

-- A killing comes to a result on every such system.
theorem kill_returns (hp : Paced handler time) (s : σ) (pid : Pid) :
    ∃ result, ((kill check pid).run handler s).outcome = .ok result := by
  have ha : Answered handler s ((kill check pid).run handler s).history := Program.run_answered _ s
  have hc := kill_course handler s pid settlePolls
  generalize ((kill check pid).run handler s).history = history at ha hc
  generalize ((kill check pid).run handler s).outcome = outcome at hc ⊢
  cases hc
  case invalid | ended | refused => exact ⟨_, rfl⟩
  case accepted hw =>
    have ⟨_, _, hs⟩ := ha
    have ⟨isGone, he⟩ := hw.ends_of_start hp hs
    exact ⟨.ok (), by rw [he]; rfl⟩

end AwaitEnd

end ProcessControl.Unix
