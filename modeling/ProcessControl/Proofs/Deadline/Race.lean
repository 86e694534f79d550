import ProcessControl.Proofs.Channel
import ProcessControl.Proofs.Deadline

namespace ProcessControl

variable {α : Type}

namespace Worker

def starts : Worker α → Nat
  | .ready => 0
  | _      => 1

def ending? : Worker α → Option (Ending α)
  | .ended ending | .gone ending => some ending
  | .ready | .working            => none

-- How many senders are left.
def senders : Worker α → Nat
  | .gone _ => 0
  | _       => 1

def sent : Worker α → List α
  | .gone (.returned a) => [a]
  | _                   => []

theorem ending?_of_mem_sent {w : Worker α} {a : α} (h : a ∈ w.sent) :
    w.ending? = some (.returned a) ∧ w.senders = 0 := by
  cases w
  case gone ending =>
    cases ending
    case returned b => cases List.mem_singleton.mp h; exact ⟨rfl, rfl⟩
    case crashed    => cases h
  all_goals cases h

theorem ending?_of_sent_eq_nil {w : Worker α} (hg : w.senders = 0) (h : w.sent = []) : w.ending? = some .crashed := by
  cases w
  case gone ending =>
    cases ending
    case returned => cases h
    case crashed  => rfl
  all_goals cases hg

theorem eq_gone {w : Worker α} {ending : Ending α} (hg : w.senders = 0) (h : w.ending? = some ending) :
    w = .gone ending := by
  cases w
  case gone => rw [Option.some.inj h]
  all_goals cases hg

-- How many moves the worker has made.
def age : Worker α → Nat
  | .ready   => 0
  | .working => 1
  | .ended _ => 2
  | .gone _  => 3

theorem age_le (w : Worker α) : w.age ≤ 3 := by
  cases w <;> simp only [age] <;> omega

end Worker

namespace Caller

def receivers : Caller α → Nat
  | .waiting    => 1
  | .returned _ => 0

def age : Caller α → Nat
  | .waiting    => 0
  | .returned _ => 1

theorem age_le (c : Caller α) : c.age ≤ 1 := by
  cases c <;> simp only [age] <;> omega

end Caller

namespace Race

variable {timeout : Duration} {r r' : Race α} {move : Move α} {moves before : List (Move α)} {ending : Ending α}
  {result : Except Failure α}

def Move.isReturn : Move α → Bool
  | .receive | .giveUp => true
  | _                  => false

-- All that a move can do. Whatever a theorem says of every move is said of these few cases.
inductive Effect (timeout : Duration) (r : Race α) : Move α → Race α → Prop
  | begin :
    r.worker = .ready → Effect timeout r .begin { r with worker := .working, starts := r.starts + 1 }
  | finish {ending : Ending α} :
    r.worker = .working → Effect timeout r (.finish ending) { r with worker := .ended ending }
  | send {a channel} :
    r.worker = .ended (.returned a) → r.channel.trySend a = .ok channel →
    Effect timeout r .deliver (r.leave (.returned a) channel)
  | drop {a} :
    r.worker = .ended (.returned a) → r.channel.trySend a = .error .disconnected →
    Effect timeout r .deliver (r.leave (.returned a) r.channel)
  | crash :
    r.worker = .ended .crashed → Effect timeout r .deliver (r.leave .crashed r.channel)
  | expire :
    r.expired = false → Effect timeout r .expire { r with expired := true }
  | receive {a channel} :
    r.caller = .waiting → r.channel.tryRecv = some (a, channel) →
    Effect timeout r .receive (r.conclude (.ok a) channel)
  | miss :
    r.caller = .waiting → r.channel.tryRecv = none → r.channel.isDisconnected = true →
    Effect timeout r .receive (r.conclude (.error noResult) r.channel)
  | giveUp :
    r.caller = .waiting → r.channel.tryRecv = none → r.expired = true →
    Effect timeout r .giveUp (r.conclude (.error <| .timedOut timeout.millis) r.channel)

theorem step_effect (h : r.step timeout move = some r') : r.Effect timeout move r' := by
  cases move <;> simp only [step] at h
  case begin =>
    split at h
    case h_1 hw => cases h; exact .begin hw
    case h_2    => cases h
  case finish =>
    split at h
    case h_1 hw => cases h; exact .finish hw
    case h_2    => cases h
  case deliver =>
    split at h
    case h_1 hw =>
      split at h
      case h_1 ht => cases h; exact .send hw ht
      case h_2 ht => cases h; exact .drop hw ht
      case h_3    => cases h
    case h_2 hw => cases h; exact .crash hw
    case h_3    => cases h
  case expire =>
    split at h
    case isTrue     => cases h
    case isFalse he => cases h; exact .expire <| Bool.eq_false_iff.mpr he
  case receive =>
    split at h
    case h_1 hc ht => cases h; exact .receive hc ht
    case h_2 hc ht =>
      split at h
      case isTrue hd => cases h; exact .miss hc ht hd
      case isFalse   => cases h
    case h_3 => cases h
  case giveUp =>
    split at h
    case h_1 hc ht =>
      split at h
      case isTrue he => cases h; exact .giveUp hc ht he
      case isFalse   => cases h
    case h_2 => cases h

-- How the channel hangs together with its two ends. A caller that still waits has not taken anything out.
structure Wired (r : Race α) : Prop where
  starts    : r.starts = r.worker.starts
  bound     : r.channel.bound = 1
  senders   : r.channel.senders = r.worker.senders
  receivers : r.channel.receivers = r.caller.receivers
  pending   : r.caller = .waiting → r.channel.toList = r.worker.sent

namespace Wired

theorem start : (Race.start : Race α).Wired :=
  ⟨rfl, rfl, rfl, rfl, fun _ => rfl⟩

-- As long as the caller waits there is a slot for the one value that comes.
theorem sends (hw : r.Wired) (he : r.worker = .ended ending) (hc : r.caller = .waiting) (a : α) :
    ∃ channel, r.channel.trySend a = .ok channel := by
  refine Channel.trySend_of_room ?_ ?_ a
  case refine_1 =>
    rw [Channel.isDisconnected, hw.senders, hw.receivers, he, hc]
    rfl
  case refine_2 =>
    rw [hw.pending hc, hw.bound, he]
    exact Nat.zero_lt_one

theorem step (hw : r.Wired) (h : r.step timeout move = some r') : r'.Wired := by
  obtain ⟨hs, hb, hn, hr, hp⟩ := hw
  cases step_effect h
  case begin he =>
    rw [he] at hs hn hp
    exact ⟨congrArg (· + 1) hs, hb, hn, hr, hp⟩
  case finish he =>
    rw [he] at hs hn hp
    exact ⟨hs, hb, hn, hr, hp⟩
  case send a channel he ht =>
    have ⟨hl, ha⟩ := Channel.trySend_eq_ok ht
    rw [he] at hs hn hp
    have hz : channel.releaseSender.senders = 0 := congrArg (· - 1) <| ha.senders.trans hn
    exact ⟨hs, ha.bound.trans hb, hz, ha.receivers.trans hr, fun hc => hl.trans <| congrArg (· ++ [a]) <| hp hc⟩
  case drop a he ht =>
    have hc : r.caller ≠ .waiting := by
      intro hc
      have ⟨_, hk⟩ := sends ⟨hs, hb, hn, hr, hp⟩ he hc a
      rw [hk] at ht
      cases ht
    rw [he] at hs hn
    exact ⟨hs, hb, congrArg (· - 1) hn, hr, fun hw => absurd hw hc⟩
  case crash he =>
    rw [he] at hs hn hp
    exact ⟨hs, hb, congrArg (· - 1) hn, hr, hp⟩
  case expire => exact ⟨hs, hb, hn, hr, hp⟩
  case receive a channel hc ht =>
    have ha := (Channel.tryRecv_eq_some ht).right
    rw [hc] at hr
    have hz : channel.releaseReceiver.receivers = 0 := congrArg (· - 1) <| ha.receivers.trans hr
    exact ⟨hs, ha.bound.trans hb, ha.senders.trans hn, hz, nofun⟩
  case miss hc _ _ =>
    rw [hc] at hr
    exact ⟨hs, hb, hn, congrArg (· - 1) hr, nofun⟩
  case giveUp hc _ _ =>
    rw [hc] at hr
    exact ⟨hs, hb, hn, congrArg (· - 1) hr, nofun⟩

-- There is a slot for the value, or nobody who could receive it.
theorem delivers (hw : r.Wired) (timeout : Duration) (he : r.worker = .ended ending) :
    ∃ r', r.step timeout .deliver = some r' ∧ r'.worker = .gone ending ∧ r'.caller = r.caller := by
  cases ending
  case crashed =>
    refine ⟨r.leave .crashed r.channel, ?_, rfl, rfl⟩
    simp only [Race.step, he]
  case returned a =>
    cases hc : r.caller
    case waiting =>
      have ⟨channel, ht⟩ := hw.sends he hc a
      refine ⟨r.leave (.returned a) channel, ?_, rfl, hc⟩
      simp only [Race.step, he, ht]
    case returned result =>
      have ht : r.channel.trySend a = .error .disconnected := by
        rw [Channel.trySend, if_pos]
        rw [Channel.isDisconnected, hw.receivers, hc]
        exact Bool.or_true _
      refine ⟨r.leave (.returned a) r.channel, ?_, rfl, hc⟩
      simp only [Race.step, he, ht]

end Wired

-- After the deadline the caller takes what there is or gives up, whatever the worker does.
theorem returns_of_expired (timeout : Duration) (hc : r.caller = .waiting) (he : r.expired = true) :
    ∃ move r', r.step timeout move = some r' ∧ move.isReturn = true := by
  cases ht : r.channel.tryRecv
  case none =>
    refine ⟨.giveUp, r.conclude (.error <| .timedOut timeout.millis) r.channel, ?_, rfl⟩
    simp only [Race.step, hc, ht, if_pos he]
  case some taken =>
    obtain ⟨a, channel⟩ := taken
    refine ⟨.receive, r.conclude (.ok a) channel, ?_, rfl⟩
    simp only [Race.step, hc, ht]

-- What the moves so far tell of the state.
structure Recorded (moves : List (Move α)) (r : Race α) : Prop where
  finish  : ∀ ending, .finish ending ∈ moves ↔ r.worker.ending? = some ending
  deliver : .deliver ∈ moves ↔ r.worker.senders = 0
  expire  : .expire ∈ moves ↔ r.expired = true

namespace Recorded

theorem start : Recorded [] (Race.start : Race α) :=
  ⟨fun _ => ⟨nofun, nofun⟩, ⟨nofun, nofun⟩, ⟨nofun, nofun⟩⟩

theorem step (hr : Recorded moves r) (h : r.step timeout move = some r') : Recorded (moves ++ [move]) r' := by
  obtain ⟨hf, hd, he⟩ := hr
  cases step_effect h
  case begin hw  => constructor <;> simp_all [Worker.ending?, Worker.senders]
  case finish ending hw =>
    rw [hw] at hf hd
    refine ⟨fun other => ?_, ?_, ?_⟩
    case refine_1 => simp [hf, Worker.ending?, eq_comm]
    case refine_2 => simp [hd, Worker.senders]
    case refine_3 => simp [he]
  case send hw _ => constructor <;> simp_all [Worker.ending?, Worker.senders, leave]
  case drop hw _ => constructor <;> simp_all [Worker.ending?, Worker.senders, leave]
  case crash hw  => constructor <;> simp_all [Worker.ending?, Worker.senders, leave]
  case expire    => constructor <;> simp_all
  case receive   => constructor <;> simp_all [conclude]
  case miss      => constructor <;> simp_all [conclude]
  case giveUp    => constructor <;> simp_all [conclude]

end Recorded

theorem result?_eq_some_iff : r.result? = some result ↔ r.caller = .returned result := by
  unfold result?
  split
  case h_1 hc => rw [hc, Option.some.injEq, Caller.returned.injEq]
  case h_2 hc => rw [hc]; exact ⟨nofun, nofun⟩

-- Why the caller may return with a result, after these moves. It gives up only when nothing was sent to it.
inductive Warranted (timeout : Duration) (before : List (Move α)) : Move α → Except Failure α → Prop
  | value {a : α} :
    .finish (.returned a) ∈ before → .deliver ∈ before → Warranted timeout before .receive (.ok a)
  | nothing :
    .finish .crashed ∈ before → .deliver ∈ before → Warranted timeout before .receive (.error noResult)
  | late :
    .expire ∈ before → (∀ a, .finish (.returned a) ∈ before → .deliver ∉ before) →
    Warranted timeout before .giveUp (.error <| .timedOut timeout.millis)

-- The caller returned once, by a move in the middle of the others.
def Returned (timeout : Duration) (moves : List (Move α)) (result : Except Failure α) : Prop :=
  ∃ before move after, moves = before ++ move :: after ∧ Warranted timeout before move result ∧
    ∀ other ∈ before ++ after, other.isReturn = false

def Told (timeout : Duration) (moves : List (Move α)) : Caller α → Prop
  | .waiting         => ∀ move ∈ moves, move.isReturn = false
  | .returned result => Returned timeout moves result

-- What the caller finds is what the worker sent, or nothing where it sent nothing.
theorem warranted (hw : r.Wired) (hr : Recorded moves r) (h : r.step timeout move = some r')
    (hm : move.isReturn = true) : ∃ result, r'.caller = .returned result ∧ Warranted timeout moves move result := by
  cases step_effect h
  case receive a channel hc ht =>
    have hs : a ∈ r.worker.sent := hw.pending hc ▸ (Channel.tryRecv_eq_some ht).left ▸ List.mem_cons_self
    have ⟨he, hg⟩ := Worker.ending?_of_mem_sent hs
    exact ⟨_, rfl, .value ((hr.finish _).mpr he) (hr.deliver.mpr hg)⟩
  case miss hc ht hd =>
    have hs : r.worker.sent = [] := hw.pending hc ▸ Channel.tryRecv_eq_none_iff.mp ht
    have hg : r.worker.senders = 0 := by
      rw [Channel.isDisconnected, hw.senders, hw.receivers, hc] at hd
      simpa [Caller.receivers] using hd
    have he := Worker.ending?_of_sent_eq_nil hg hs
    exact ⟨_, rfl, .nothing ((hr.finish _).mpr he) (hr.deliver.mpr hg)⟩
  case giveUp hc ht he =>
    have hs : r.worker.sent = [] := hw.pending hc ▸ Channel.tryRecv_eq_none_iff.mp ht
    refine ⟨_, rfl, .late (hr.expire.mpr he) fun a hf hd => ?_⟩
    have hn := Worker.ending?_of_sent_eq_nil (hr.deliver.mp hd) hs
    rw [(hr.finish _).mp hf] at hn
    cases hn
  all_goals cases hm

theorem caller_eq (h : r.step timeout move = some r') (hm : move.isReturn = false) : r'.caller = r.caller := by
  cases step_effect h
  case receive => cases hm
  case miss    => cases hm
  case giveUp  => cases hm
  all_goals rfl

theorem caller_eq_waiting (h : r.step timeout move = some r') (hm : move.isReturn = true) : r.caller = .waiting := by
  cases step_effect h
  case receive hc _  => exact hc
  case miss hc _ _   => exact hc
  case giveUp hc _ _ => exact hc
  all_goals cases hm

theorem Told.step (ht : Told timeout moves r.caller) (hw : r.Wired) (hr : Recorded moves r)
    (h : r.step timeout move = some r') : Told timeout (moves ++ [move]) r'.caller := by
  cases hm : move.isReturn
  case false =>
    rw [caller_eq h hm]
    cases hc : r.caller <;> rw [hc] at ht
    case waiting =>
      intro other ho
      cases List.mem_append.mp ho
      case inl ho => exact ht other ho
      case inr ho => exact List.mem_singleton.mp ho ▸ hm
    case returned result =>
      have ⟨before, last, after, he, hwa, hn⟩ := ht
      refine ⟨before, last, after ++ [move], ?_, hwa, fun other ho => ?_⟩
      case refine_1 => rw [he, List.append_assoc, List.cons_append]
      case refine_2 =>
        rw [← List.append_assoc] at ho
        cases List.mem_append.mp ho
        case inl ho => exact hn other ho
        case inr ho => exact List.mem_singleton.mp ho ▸ hm
  case true =>
    rw [caller_eq_waiting h hm] at ht
    have ⟨result, hc, hwa⟩ := warranted hw hr h hm
    rw [hc]
    refine ⟨moves, move, [], rfl, hwa, ?_⟩
    rw [List.append_nil]
    exact ht

def age (r : Race α) : Nat :=
  r.worker.age + r.expired.toNat + r.caller.age

theorem age_le (r : Race α) : r.age ≤ 5 := by
  have hw := r.worker.age_le
  have hc := r.caller.age_le
  have he := Bool.toNat_le r.expired
  unfold age
  omega

theorem age_step (h : r.step timeout move = some r') : r'.age = r.age + 1 := by
  cases step_effect h
  case begin hw  => simp only [age, hw, Worker.age]; omega
  case finish hw => simp only [age, hw, Worker.age]; omega
  case send hw _ => simp only [age, leave, hw, Worker.age]; omega
  case drop hw _ => simp only [age, leave, hw, Worker.age]; omega
  case crash hw  => simp only [age, leave, hw, Worker.age]; omega
  case expire he => simp only [age, he, Bool.toNat_false, Bool.toNat_true]; omega
  case receive hc _  => simp only [age, conclude, hc, Caller.age]
  case miss hc _ _   => simp only [age, conclude, hc, Caller.age]
  case giveUp hc _ _ => simp only [age, conclude, hc, Caller.age]

-- What every order of moves keeps.
structure Kept (timeout : Duration) (moves : List (Move α)) (r : Race α) : Prop where
  wired    : r.Wired
  recorded : Recorded moves r
  told     : Told timeout moves r.caller
  length   : moves.length = r.age

namespace Kept

theorem start : Kept timeout [] (Race.start : Race α) :=
  ⟨.start, .start, nofun, rfl⟩

theorem step (hk : Kept timeout moves r) (h : r.step timeout move = some r') : Kept timeout (moves ++ [move]) r' where
  wired    := hk.wired.step h
  recorded := hk.recorded.step h
  told     := hk.told.step hk.wired hk.recorded h
  length   := by rw [List.length_append, hk.length, age_step h]; rfl

theorem run (hk : Kept timeout before r) (h : r.run? timeout moves = some r') :
    Kept timeout (before ++ moves) r' := by
  induction moves generalizing before r
  case nil =>
    cases h
    rw [List.append_nil]
    exact hk
  case cons move moves hi =>
    have ⟨next, hs, hr⟩ := Option.bind_eq_some_iff.mp h
    have hn := hi (hk.step hs) hr
    rw [List.append_assoc] at hn
    exact hn

end Kept

-- What worker and caller can rely on, after any moves.
structure Fair (timeout : Duration) (moves : List (Move α)) (r : Race α) : Prop where
  -- The operation is started once, and only by a worker that begins.
  starts   : r.starts = r.worker.starts
  -- Either the caller still waits, or it has returned once, for a reason.
  told     : Told timeout moves r.caller
  -- Wherever the caller is, a worker whose operation has ended can go.
  delivers : ∀ ending, r.worker = .ended ending →
    ∃ r', r.step timeout .deliver = some r' ∧ r'.worker = .gone ending ∧ r'.caller = r.caller
  -- There are never more moves than these.
  length   : moves.length ≤ 5
  -- Where nothing but the operation goes on, the caller has returned, and nobody but the operation holds the worker.
  settled  : (∀ move, (∀ ending, move ≠ .finish ending) → r.step timeout move = none) →
    (∃ result, r.caller = .returned result) ∧ (r.worker = .working ∨ ∃ ending, r.worker = .gone ending)

theorem Kept.settled (hk : Kept timeout moves r)
    (h : ∀ move, (∀ ending, move ≠ .finish ending) → r.step timeout move = none) :
    (∃ result, r.caller = .returned result) ∧ (r.worker = .working ∨ ∃ ending, r.worker = .gone ending) := by
  constructor
  case left =>
    have he : r.expired = true := by
      have hn := h .expire nofun
      simpa [Race.step] using hn
    cases hc : r.caller
    case returned result => exact ⟨result, rfl⟩
    case waiting =>
      have ⟨move, r', hs, hm⟩ := returns_of_expired timeout hc he
      rw [h move fun ending hf => by subst hf; cases hm] at hs
      cases hs
  case right =>
    cases hw : r.worker
    case ready =>
      have hn := h .begin nofun
      simp [Race.step, hw] at hn
    case working => exact .inl rfl
    case ended ending =>
      have ⟨r', hs, _⟩ := hk.wired.delivers timeout hw
      rw [h .deliver nofun] at hs
      cases hs
    case gone ending => exact .inr ⟨ending, rfl⟩

theorem Kept.fair (hk : Kept timeout moves r) : Fair timeout moves r where
  starts   := hk.wired.starts
  told     := hk.told
  delivers := fun _ => hk.wired.delivers timeout
  length   := hk.length ▸ r.age_le
  settled  := hk.settled

-- An operation against a deadline is one of these races, run until nothing more can happen. How long the operation
-- takes decides which one it is.
theorem exists_run_of_within {now deadline : Moment} (h : now.after? timeout = some deadline) (job : Job α) :
    ∃ moves r result, start.run? timeout moves = some r ∧ .finish job.ending ∈ moves ∧
      r.worker = .gone job.ending ∧ r.caller = .returned result ∧
      ((Job.within (.ok job) now timeout).run Handler.none ()).outcome = .ok result ∧
      (result = .error (.timedOut timeout.millis) ↔ timeout.nanos ≤ job.elapsed) := by
  have ⟨r, hr, hv⟩ := Option.bind_eq_some_iff.mp <| Job.result?_schedule job timeout
  have hk : Kept timeout (job.schedule timeout) r := Kept.start.run hr
  have hm : .finish job.ending ∈ job.schedule timeout ∧ .deliver ∈ job.schedule timeout := by
    unfold Job.schedule
    split <;> simp
  have hg := Worker.eq_gone (hk.recorded.deliver.mp hm.right) ((hk.recorded.finish _).mp hm.left)
  have ht : job.verdict timeout = .error (.timedOut timeout.millis) ↔ timeout.nanos ≤ job.elapsed :=
    Job.verdict_eq_timedOut_iff.trans <| and_iff_left rfl
  exact ⟨_, r, job.verdict timeout, hr, hm.left, hg, result?_eq_some_iff.mp hv, Job.within_of_deadline h, ht⟩

theorem race_is_fair {now deadline : Moment} (h : now.after? timeout = some deadline) :
    (∀ (moves : List (Move α)) (r : Race α), start.run? timeout moves = some r → Fair timeout moves r) ∧
    ∀ job : Job α, ∃ moves r result, start.run? timeout moves = some r ∧ .finish job.ending ∈ moves ∧
      r.worker = .gone job.ending ∧ r.caller = .returned result ∧
      ((Job.within (.ok job) now timeout).run Handler.none ()).outcome = .ok result ∧
      (result = .error (.timedOut timeout.millis) ↔ timeout.nanos ≤ job.elapsed) :=
  ⟨fun _ _ hr => (Kept.start.run hr).fair, exists_run_of_within h⟩

-- The operation returns when the caller has given up already.
def late : List (Move Nat) :=
  [.begin, .expire, .giveUp, .finish (.returned 42), .deliver]

theorem race_is_fair_late :
    (⟨0⟩ : Moment).after? (.ofMillis 20) = some ⟨20000000⟩ ∧
    ∃ r, start.run? (.ofMillis 20) late = some r ∧ r.caller = .returned (.error <| .timedOut 20) ∧
      r.worker = .gone (.returned 42) ∧ Fair (.ofMillis 20) late r := by
  have hd : (⟨0⟩ : Moment).after? (.ofMillis 20) = some ⟨20000000⟩ := rfl
  exact ⟨hd, _, rfl, rfl, rfl, (race_is_fair hd).left late _ rfl⟩

end Race

end ProcessControl
