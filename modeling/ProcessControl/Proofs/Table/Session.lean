import ProcessControl.Proofs.Program.History
import ProcessControl.Table

namespace ProcessControl

variable {I : Interface} {σ α β : Type}

namespace Run

def map (f : α → β) (r : Run I σ α) : Run I σ β :=
  ⟨r.outcome.map f, r.history, r.log, r.state⟩

theorem outcome_map {f : α → β} {r : Run I σ α} {b : β} (h : (r.map f).outcome = .ok b) :
    ∃ a, r.outcome = .ok a ∧ f a = b := by
  rw [map] at h
  cases ho : r.outcome <;> rw [ho] at h <;> cases h
  case ok a => exact ⟨a, rfl, rfl⟩

theorem calls_map (f : α → β) (r : Run I σ α) : (r.map f).calls = r.calls :=
  rfl

end Run

namespace Table

-- An operation of the table with its arguments.
inductive Request
  | spawn (command : String)
  | terminate (pid : Pid)
  | list (max : UInt64)
  | listInto (dest : List Record)
  | listWithin (max : UInt64) (timeout : Duration)
  | memoryOf (pid : Pid)
  | uptime
  | yieldNow
deriving DecidableEq, Repr

-- The process that is to be ended.
def Request.target? : Request → Option Pid
  | .terminate pid => some pid
  | _              => none

inductive Reply
  | spawned (result : Except Failure Record)
  | terminated (result : Except Failure Unit)
  | listed (records : List Record)
  | written (count : Nat) (dest : List Record)
  | listedWithin (result : Except Failure (List Record))
  | memory (bytes : Memory)
  | uptime (uptime : Uptime)
  | yielded

variable (t : Table I) (handler : Handler I σ) (threads : Threads σ)

def serve : Request → σ → Run I σ Reply
  | .spawn command, s          => ((t.spawn command).run handler s).map .spawned
  | .terminate pid, s          => ((t.terminate pid).run handler s).map .terminated
  | .list max, s               => ((t.list max).run handler s).map .listed
  | .listInto dest, s          => ((t.listInto dest).run handler s).map fun (count, dest) => .written count dest
  | .listWithin max timeout, s => (t.listWithin handler threads max timeout s).map .listedWithin
  | .memoryOf pid, s           => ((t.memoryOf pid).run handler s).map .memory
  | .uptime, s                 => (t.uptime.run handler s).map .uptime
  | .yieldNow, s               => (t.yieldNow.run handler s).map fun _ => .yielded

-- The requests with their runs, each from the state that the one before it left.
def session : List Request → σ → List (Request × Run I σ Reply)
  | [], _                   => []
  | request :: requests, s =>
    let run := t.serve handler threads request s
    (request, run) :: session requests run.state

variable {t handler threads}

theorem listWithin_of_start {max : UInt64} {timeout : Duration} {s : σ} (h : threads.start s = .ok ()) :
    t.listWithin handler threads max timeout s =
      let work := (t.list max).run handler s
      let elapsed := (threads.clock work.state).nanos - (threads.clock s).nanos
      let awaited := (Job.within (.ok ⟨elapsed, ending work.outcome⟩) (threads.clock s) timeout).run Handler.none ()
      ⟨awaited.outcome, work.history, awaited.log, work.state⟩ := by
  rw [listWithin, h]

-- Where no worker can be started, the system is not asked for anything.
theorem listWithin_of_refused {max : UInt64} {timeout : Duration} {s : σ} {why : String}
    (h : threads.start s = .error why) :
    t.listWithin handler threads max timeout s = ⟨.ok <| .error <| Job.noWorker why, [], [], s⟩ := by
  rw [listWithin, h]
  rfl

-- Whatever becomes of the wait, the system is asked what a listing asks, or nothing at all.
theorem history_listWithin (t : Table I) (handler : Handler I σ) (threads : Threads σ) (max : UInt64)
    (timeout : Duration) (s : σ) :
    let history := (t.listWithin handler threads max timeout s).history
    history = ((t.list max).run handler s).history ∨ history = [] := by
  cases hs : threads.start s
  case ok        => exact .inl <| congrArg Run.history <| listWithin_of_start hs
  case error why => exact .inr <| congrArg Run.history <| listWithin_of_refused hs

theorem exists_serve_of_mem_session {requests : List Request} {s : σ} {entry : Request × Run I σ Reply}
    (h : entry ∈ t.session handler threads requests s) : ∃ s', entry.2 = t.serve handler threads entry.1 s' := by
  induction requests generalizing s <;> simp only [session, List.not_mem_nil, List.mem_cons] at h
  case cons hi =>
    cases h
    case inl h => exact ⟨s, h ▸ rfl⟩
    case inr h => exact hi h

-- Whatever is made of an operation, its history is that of one run on the system.
theorem serve_answered (t : Table I) (handler : Handler I σ) (threads : Threads σ) (request : Request) (s : σ) :
    let r := t.serve handler threads request s
    Answered handler s r.history ∧ r.state = handler.after r.calls s := by
  have hp {α : Type} (p : Program I α) : let r := p.run handler s
      Answered handler s r.history ∧ r.state = handler.after r.calls s :=
    ⟨p.run_answered s, p.run_state s⟩
  cases request
  case spawn command    => exact hp (t.spawn command)
  case terminate pid    => exact hp (t.terminate pid)
  case list max         => exact hp (t.list max)
  case listInto dest    => exact hp (t.listInto dest)
  case listWithin max timeout =>
    rw [serve]
    cases hs : threads.start s
    case ok        => exact listWithin_of_start hs ▸ hp (t.list max)
    case error why => exact listWithin_of_refused hs ▸ ⟨trivial, rfl⟩
  case memoryOf pid     => exact hp (t.memoryOf pid)
  case uptime           => exact hp t.uptime
  case yieldNow         => exact hp t.yieldNow

end Table

-- What the operations of a platform may ask at most: `P` tells it apart by the process that is to be
-- ended, if one is. Only the targets that a table lets through count.
structure Platform.Confined (p : Platform I) (own : Pid) (P : Option Pid → I.Call → Prop) : Prop where
  spawn       : ∀ command, (p.spawn command).Asks (P none)
  terminate   : ∀ pid, pid ≠ 0 → pid ≠ own → (p.terminate pid).Asks (P <| some pid)
  enumerate   : ∀ max, (p.enumerate max).Asks (P none)
  probeMemory : ∀ pid, (p.probeMemory pid).Asks (P none)
  uptime      : p.uptime.Asks (P none)
  yieldNow    : p.yieldNow.Asks (P none)

namespace Table

open Program

variable {t : Table I} {P : Option Pid → I.Call → Prop}

theorem guarded_asks {Q : I.Call → Prop} {check : Except Failure Unit} {p : Program I (Except Failure α)}
    (h : check = .ok () → p.Asks Q) : (guarded check p).Asks Q := by
  cases check
  case ok    => exact h rfl
  case error => exact Asks.pure _

theorem validateTarget_eq_ok_iff {self pid : Pid} : validateTarget self pid = .ok () ↔ pid ≠ 0 ∧ pid ≠ self := by
  simp only [validateTarget]
  split
  case isTrue h => simp [h]
  case isFalse h =>
    split
    case isTrue h' => simp [h']
    case isFalse h' => simp [h, h']

theorem spawn_asks (h : t.platform.Confined t.self P) (command : String) : (t.spawn command).Asks (P none) :=
  Asks.bind (Asks.log _) fun _ =>
    Asks.bind (guarded_asks fun _ => h.spawn command) fun _ =>
      Asks.bind (Asks.logAll _) fun _ => Asks.pure _

theorem terminate_asks (h : t.platform.Confined t.self P) (pid : Pid) : (t.terminate pid).Asks (P <| some pid) := by
  refine Asks.bind (Asks.log _) fun _ => Asks.bind (Asks.log _) fun _ => ?_
  refine Asks.bind (guarded_asks fun hv => ?_) fun _ => Asks.bind (Asks.logAll _) fun _ => Asks.pure _
  have ⟨h₀, h₁⟩ := validateTarget_eq_ok_iff.mp hv
  exact h.terminate pid h₀ h₁

theorem list_asks (h : t.platform.Confined t.self P) (max : UInt64) : (t.list max).Asks (P none) := by
  unfold list
  split
  case isTrue  => exact Asks.pure _
  case isFalse => exact Asks.bind (Asks.log _) fun _ => Asks.bind (h.enumerate max) fun _ => trivial

theorem listInto_asks (h : t.platform.Confined t.self P) (dest : List Record) : (t.listInto dest).Asks (P none) := by
  unfold listInto
  split
  case isTrue  => exact Asks.pure _
  case isFalse => exact Asks.bind (list_asks h _) fun _ => Asks.pure _

theorem memoryOf_asks (h : t.platform.Confined t.self P) (pid : Pid) : (t.memoryOf pid).Asks (P none) := by
  unfold memoryOf
  split
  case isTrue  => exact Asks.pure _
  case isFalse => exact h.probeMemory pid

theorem listWithin_asks {max : UInt64} {timeout : Duration} {s : σ} {c : I.Call} (h : t.platform.Confined t.self P)
    (hc : c ∈ (t.listWithin handler threads max timeout s).calls) : P none c := by
  cases history_listWithin t handler threads max timeout s
  case inl hh =>
    rw [Run.calls, hh] at hc
    exact (list_asks h max).of_mem_calls hc
  case inr hh =>
    rw [Run.calls, hh] at hc
    cases hc

theorem mem_calls_serve (h : t.platform.Confined t.self P) {request : Request} {s : σ} {c : I.Call}
    (hc : c ∈ (t.serve handler threads request s).calls) : P request.target? c := by
  cases request <;> simp only [serve, Run.calls_map] at hc
  case spawn command => exact (spawn_asks h command).of_mem_calls hc
  case terminate pid => exact (terminate_asks h pid).of_mem_calls hc
  case list max      => exact (list_asks h max).of_mem_calls hc
  case listInto dest => exact (listInto_asks h dest).of_mem_calls hc
  case listWithin    => exact listWithin_asks h hc
  case memoryOf pid  => exact (memoryOf_asks h pid).of_mem_calls hc
  case uptime        => exact h.uptime.of_mem_calls hc
  case yieldNow      => exact h.yieldNow.of_mem_calls hc

theorem mem_calls_session (h : t.platform.Confined t.self P) {requests : List Request} {s : σ}
    {entry : Request × Run I σ Reply} (he : entry ∈ t.session handler threads requests s) {c : I.Call}
    (hc : c ∈ entry.2.calls) : P entry.1.target? c := by
  have ⟨_, hs⟩ := exists_serve_of_mem_session he
  exact mem_calls_serve h (hs ▸ hc)

end Table

end ProcessControl
