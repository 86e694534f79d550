import ProcessControl.Channel
import ProcessControl.Log
import ProcessControl.Program

namespace ProcessControl

inductive Ending (α : Type)
  | returned (a : α)
  | crashed
deriving DecidableEq, Repr

inductive Worker (α : Type)
  | ready
  | working
  | ended (ending : Ending α)
  -- The value has been sent or the operation has crashed; nothing more will come.
  | gone (ending : Ending α)
deriving DecidableEq, Repr

inductive Caller (α : Type)
  | waiting
  | returned (result : Except Failure α)
deriving Repr

-- Worker and caller on their way. The worker holds the one sender of the channel until it goes, the caller the one
-- receiver until it returns.
structure Race (α : Type) where
  worker : Worker α
  starts : Nat
  channel : Channel α
  expired : Bool
  caller : Caller α

namespace Race

variable {α : Type}

def start : Race α := ⟨.ready, 0, .bounded 1, false, .waiting⟩

inductive Move (α : Type)
  | begin
  | finish (ending : Ending α)
  -- The worker sends its value, if it has one, and goes.
  | deliver
  | expire
  | receive
  -- The caller finds nothing after the deadline.
  | giveUp
deriving DecidableEq, Repr

def noResult : Failure := .system "worker thread exited without a result"

def leave (r : Race α) (ending : Ending α) (channel : Channel α) : Race α :=
  { r with worker := .gone ending, channel := channel.releaseSender }

def conclude (r : Race α) (result : Except Failure α) (channel : Channel α) : Race α :=
  { r with caller := .returned result, channel := channel.releaseReceiver }

-- One move, where it is possible. A value that cannot be sent because there is no slot for it holds the worker up; one
-- that nobody could receive any more is dropped.
def step (timeout : Duration) (r : Race α) : Move α → Option (Race α)
  | .begin =>
    match r.worker with
    | .ready => some { r with worker := .working, starts := r.starts + 1 }
    | _      => none
  | .finish ending =>
    match r.worker with
    | .working => some { r with worker := .ended ending }
    | _        => none
  | .deliver =>
    match r.worker with
    | .ended (.returned a) =>
      match r.channel.trySend a with
      | .ok channel          => some <| r.leave (.returned a) channel
      | .error .disconnected => some <| r.leave (.returned a) r.channel
      | .error .full         => none
    | .ended .crashed => some <| r.leave .crashed r.channel
    | _               => none
  | .expire => if r.expired then none else some { r with expired := true }
  | .receive =>
    match r.caller, r.channel.tryRecv with
    | .waiting, some (a, channel) => some <| r.conclude (.ok a) channel
    | .waiting, none              =>
      if r.channel.isDisconnected then some <| r.conclude (.error noResult) r.channel else none
    | .returned _, _              => none
  | .giveUp =>
    match r.caller, r.channel.tryRecv with
    | .waiting, none =>
      if r.expired then some <| r.conclude (.error <| .timedOut timeout.millis) r.channel else none
    | _, _           => none

def run? (timeout : Duration) (r : Race α) : List (Move α) → Option (Race α)
  | []            => some r
  | move :: moves => (r.step timeout move).bind (run? timeout · moves)

def result? (r : Race α) : Option (Except Failure α) :=
  match r.caller with
  | .returned result => some result
  | .waiting => none

end Race

-- An operation that a worker was started on. It takes a while, in nanoseconds, and then ends.
structure Job (α : Type) where
  elapsed : Nat
  ending : Ending α

namespace Job

variable {α : Type}

-- The order of moves for an operation that is over before the deadline, and for one that is not.
def schedule (job : Job α) (timeout : Duration) : List (Race.Move α) :=
  if job.elapsed < timeout.nanos then [.begin, .finish job.ending, .deliver, .receive]
  else [.begin, .expire, .giveUp, .finish job.ending, .deliver]

def noWorker (why : String) : Failure := .system ("cannot start worker thread: " ++ why)

-- Runs an operation against a deadline, or tells why it could not be started. The deadline is worked out when the
-- worker is on its way; when it has passed, a notice tells so.
def within (start : Except String (Job α)) (now : Moment) (timeout : Duration) :
    Program Interface.none (Except Failure α) := do
  match start with
  | .error why => return .error (noWorker why)
  | .ok job =>
    match now.after? timeout with
    | none => .halt .crashed
    | some _ =>
      match (Race.start.run? timeout (job.schedule timeout)).bind Race.result? with
      | none => .halt .unfinished
      | some result =>
        if timeout.nanos ≤ job.elapsed then Program.notice (.timedOut timeout.millis)
        return result

end Job

-- What a program has threads from: a clock that only goes forward, and the start of a worker, which may be refused.
structure Threads (σ : Type) where
  clock : σ → Moment
  start : σ → Except String Unit

end ProcessControl
