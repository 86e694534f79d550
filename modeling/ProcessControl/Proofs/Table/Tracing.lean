import ProcessControl.Operation
import ProcessControl.Proofs.Table.Gate

namespace ProcessControl

variable {I : Interface} {σ α β : Type}

namespace LogEntry

def operation? : LogEntry → Option String
  | .opened operation => some operation
  | _                 => none

def field? : LogEntry → Option Field
  | .recorded f => some f
  | _           => none

-- A warning of the table itself. That an operation was slow is told where operations are closed.
def warning? : LogEntry → Option Notice
  | .noticed n => if n.level = .warn ∧ n.target = "hostproc::process::table" then some n else none
  | _          => none

end LogEntry

-- What there is to tell of one operation.
structure Account where
  operation : String
  pid?      : Option Pid
  items?    : Option Nat
  -- Why it failed, and the warning that says so.
  failure?  : Option (Failure × Notice)

namespace Account

variable {a : Account} {own : List LogEntry}

def fields (a : Account) : List Field :=
  a.pid?.toList.map .pid ++ a.items?.toList.map .items ++ a.failure?.toList.map (.error ·.1.message) ++
    [.result a.failure?.isNone]

-- The entries tell all of the account, and nothing else is recorded or warned of.
structure Told (a : Account) (own : List LogEntry) : Prop where
  first      : own.head? = some (.opened a.operation)
  operations : own.filterMap LogEntry.operation? = [a.operation]
  fields     : own.filterMap LogEntry.field? = a.fields
  warnings   : own.filterMap LogEntry.warning? = a.failure?.toList.map (·.2)

theorem Told.close (h : a.Told own) (nanos : Nat) : a.Told (own ++ operationClose nanos) := by
  unfold operationClose
  split
  case isTrue =>
    constructor
    case first      => rw [List.head?_append, h.first]; rfl
    case operations => rw [List.filterMap_append, h.operations]; rfl
    case fields     => rw [List.filterMap_append, h.fields]; exact List.append_nil _
    case warnings   => rw [List.filterMap_append, h.warnings]; exact List.append_nil _
  case isFalse =>
    rw [List.append_nil]
    exact h

-- The account stands around what the platform tells, and holds however long the operation took.
def Recounts (a : Account) (told log : List LogEntry) : Prop :=
  ∃ front back, log = front ++ told ++ back ∧ ∀ nanos, a.Told (front ++ back ++ operationClose nanos)

variable {handler : Handler I σ} {s : σ} {p : Program I α} {r : α}

-- A platform is asked between the opening of an operation and the report of the result.
theorem recounts_report (front : List LogEntry) (report : α → List LogEntry) (f : α → β)
    (h : (p.run handler s).outcome = .ok r) (ht : a.Told (front ++ report r)) :
    a.Recounts (p.run handler s).log ((Program.logAll front >>= fun _ => p >>= fun r =>
      Program.logAll (report r) >>= fun _ => pure (f r)).run handler s).log := by
  have hl : ((p >>= fun r => Program.logAll (report r) >>= fun _ => pure (f r)).run handler s).log =
      (p.run handler s).log ++ report r := by
    rw [Program.run_bind, Run.andThen, h]
    simp only [Program.run_logAll_bind]
    exact congrArg _ <| List.append_nil _
  simp only [Program.run_logAll_bind, hl]
  exact ⟨front, report r, (List.append_assoc ..).symm, ht.close⟩

end Account

namespace Table

section Accounts

def spawnAccount (command : String) : Except Failure Record → Account
  | .ok r      => ⟨"process_spawn", some r.pid, none, none⟩
  | .error why => ⟨"process_spawn", none, none, some (why, .spawnFailed command why)⟩

def terminateAccount (pid : Pid) : Except Failure Unit → Account
  | .ok ()     => ⟨"process_terminate", some pid, none, none⟩
  | .error why => ⟨"process_terminate", some pid, none, some (why, .terminateFailed pid why)⟩

-- A listing never fails.
def listAccount (count : Nat) : Account :=
  ⟨"process_list", none, some count, none⟩

theorem told_spawnReport (command : String) (result : Except Failure Record) :
    (spawnAccount command result).Told ([.opened "process_spawn"] ++ spawnReport command result) := by
  cases result
  case ok    => exact ⟨rfl, rfl, rfl, rfl⟩
  case error => exact ⟨rfl, rfl, rfl, rfl⟩

theorem told_terminateReport (pid : Pid) (result : Except Failure Unit) :
    (terminateAccount pid result).Told
      ([.opened "process_terminate", .recorded <| .pid pid] ++ terminateReport pid result) := by
  cases result
  case ok    => exact ⟨rfl, rfl, rfl, rfl⟩
  case error => exact ⟨rfl, rfl, rfl, rfl⟩

theorem told_listing (count : Nat) : (listAccount count).Told
    ([.opened "process_list"] ++ [.recorded <| .items count, .recorded <| .result true]) :=
  ⟨rfl, rfl, rfl, rfl⟩

end Accounts

section Operations

variable (t : Table I) (handler : Handler I σ) (s : σ)

theorem spawn_recounts (command : String) {result : Except Failure Record}
    (h : ((guarded (validateCommand command) (t.platform.spawn command)).run handler s).outcome = .ok result) :
    ((t.spawn command).run handler s).outcome = .ok result ∧ (spawnAccount command result).Recounts
      ((guarded (validateCommand command) (t.platform.spawn command)).run handler s).log
      ((t.spawn command).run handler s).log := by
  have ho := (spawn_passes t handler s command).outcome.trans <| congrArg _ h
  have ht := told_spawnReport command result
  exact ⟨ho, Account.recounts_report _ (spawnReport command) id h ht⟩

theorem terminate_recounts (pid : Pid) {result : Except Failure Unit}
    (h : ((guarded (validateTarget t.self pid) (t.platform.terminate pid)).run handler s).outcome = .ok result) :
    ((t.terminate pid).run handler s).outcome = .ok result ∧ (terminateAccount pid result).Recounts
      ((guarded (validateTarget t.self pid) (t.platform.terminate pid)).run handler s).log
      ((t.terminate pid).run handler s).log := by
  have ho := (terminate_passes t handler s pid).outcome.trans <| congrArg _ h
  have ht := told_terminateReport pid result
  exact ⟨ho, Account.recounts_report _ (terminateReport pid) id h ht⟩

theorem list_recounts {max : UInt64} (hm : max ≠ 0) {records : List Record}
    (h : ((t.platform.enumerate max).run handler s).outcome = .ok records) :
    ((t.list max).run handler s).outcome = .ok (select max records) ∧
      (listAccount (select max records).length).Recounts ((t.platform.enumerate max).run handler s).log
        ((t.list max).run handler s).log := by
  have ho := (list_passes t handler s hm).outcome.trans <| congrArg _ h
  have ht := told_listing (select max records).length
  rw [list, if_neg hm] at ho ⊢
  exact ⟨ho, Account.recounts_report _ (fun records => [.recorded <| .items (select max records).length,
    .recorded <| .result true]) (select max) h ht⟩

-- The records are written where the caller wants them, and that is not told.
theorem listInto_recounts {dest : List Record} (hd : dest ≠ []) (hf : dest.length < UInt64.size) {records : List Record}
    (h : ((t.platform.enumerate <| UInt64.ofNat dest.length).run handler s).outcome = .ok records) :
    ∃ count written, ((t.listInto dest).run handler s).outcome = .ok (count, written) ∧
      (listAccount count).Recounts ((t.platform.enumerate <| UInt64.ofNat dest.length).run handler s).log
        ((t.listInto dest).run handler s).log := by
  have ⟨ho, hr⟩ := list_recounts t handler s (ofNat_length_ne_zero hd hf) h
  have he : ¬dest.isEmpty = true := fun he => hd <| List.isEmpty_iff.mp he
  refine ⟨_, _, (listInto_passes t handler s hd).outcome.trans <| congrArg _ ho, ?_⟩
  have hl : ((t.listInto dest).run handler s).log = ((t.list <| UInt64.ofNat dest.length).run handler s).log := by
    rw [listInto, if_neg he, Program.run_bind, Run.andThen, ho]
    exact List.append_nil _
  exact hl ▸ hr

end Operations

section Requests

variable (t : Table I) (handler : Handler I σ) (s : σ)

-- Where the platform is asked to do something, it comes to a result.
def Request.Returns : Request → Prop
  | .spawn command => Startable command → ∃ result, ((t.platform.spawn command).run handler s).outcome = .ok result
  | .terminate pid =>
    pid ≠ 0 ∧ pid ≠ t.self → ∃ result, ((t.platform.terminate pid).run handler s).outcome = .ok result
  | .list max => max ≠ 0 → ∃ records, ((t.platform.enumerate max).run handler s).outcome = .ok records
  | .listInto dest =>
    dest ≠ [] → ∃ records, ((t.platform.enumerate <| UInt64.ofNat dest.length).run handler s).outcome = .ok records
  | _ => True

-- What the platform itself tells of the request.
def Request.told : Request → List LogEntry
  | .spawn command => if Startable command then ((t.platform.spawn command).run handler s).log else []
  | .terminate pid => if pid ≠ 0 ∧ pid ≠ t.self then ((t.platform.terminate pid).run handler s).log else []
  | .list max      => ((t.platform.enumerate max).run handler s).log
  | .listInto dest => ((t.platform.enumerate <| UInt64.ofNat dest.length).run handler s).log
  | _              => []

-- The request is answered, and the log gives an account of the answer. Only spawns, terminations and listings are
-- operations, and a listing without room is none.
def Traced (request : Request) (r : Run I σ Reply) : Prop :=
  let told := request.told t handler s
  match request with
  | .spawn command =>
    ∃ result, r.outcome = .ok (.spawned result) ∧ (spawnAccount command result).Recounts told r.log
  | .terminate pid =>
    ∃ result, r.outcome = .ok (.terminated result) ∧ (terminateAccount pid result).Recounts told r.log
  | .list max =>
    ∃ records, r.outcome = .ok (.listed records) ∧
      (max ≠ 0 → (listAccount records.length).Recounts told r.log) ∧ (max = 0 → r.log = [])
  | .listInto dest =>
    ∃ count written, r.outcome = .ok (.written count written) ∧
      (dest ≠ [] → (listAccount count).Recounts told r.log) ∧ (dest = [] → r.log = [])
  | _ => True

end Requests

section Checks

variable {t : Table I} {handler : Handler I σ} {s : σ}

-- A request that is refused has a result all the same, of which the platform tells nothing.
theorem guarded_spawn_told {command : String} (h : (Request.spawn command).Returns t handler s) :
    let checked := (guarded (validateCommand command) (t.platform.spawn command)).run handler s
    (∃ result, checked.outcome = .ok result) ∧ checked.log = (Request.spawn command).told t handler s := by
  by_cases hs : Startable command
  case pos =>
    rw [validateCommand_of_startable hs, Request.told, if_pos hs]
    exact ⟨h hs, rfl⟩
  case neg =>
    have ⟨why, hw⟩ := validateCommand_of_not_startable hs
    rw [hw, Request.told, if_neg hs]
    exact ⟨⟨_, rfl⟩, rfl⟩

theorem guarded_terminate_told {pid : Pid} (h : (Request.terminate pid).Returns t handler s) :
    let checked := (guarded (validateTarget t.self pid) (t.platform.terminate pid)).run handler s
    (∃ result, checked.outcome = .ok result) ∧ checked.log = (Request.terminate pid).told t handler s := by
  by_cases hv : pid ≠ 0 ∧ pid ≠ t.self
  case pos =>
    rw [validateTarget_eq_ok_iff.mpr hv, Request.told, if_pos hv]
    exact ⟨h hv, rfl⟩
  case neg =>
    rw [Request.told, if_neg hv]
    cases hc : validateTarget t.self pid
    case ok        => exact absurd (validateTarget_eq_ok_iff.mp hc) hv
    case error why => exact ⟨⟨_, rfl⟩, rfl⟩

end Checks

theorem log_tells_the_reply (t : Table I) (handler : Handler I σ) (threads : Threads σ) (s : σ) {request : Request}
    (hf : request.Fits) (h : request.Returns t handler s) :
    Traced t handler s request (t.serve handler threads request s) := by
  cases request
  case spawn command =>
    have ⟨⟨result, hr⟩, hl⟩ := guarded_spawn_told h
    have ⟨ho, ha⟩ := spawn_recounts t handler s command hr
    exact ⟨result, congrArg (Except.map Reply.spawned) ho, hl ▸ ha⟩
  case terminate pid =>
    have ⟨⟨result, hr⟩, hl⟩ := guarded_terminate_told h
    have ⟨ho, ha⟩ := terminate_recounts t handler s pid hr
    exact ⟨result, congrArg (Except.map Reply.terminated) ho, hl ▸ ha⟩
  case list max =>
    by_cases hm : max = 0
    case pos =>
      subst hm
      exact ⟨[], rfl, fun hm => absurd rfl hm, fun _ => rfl⟩
    case neg =>
      have ⟨_, hr⟩ := h hm
      have ⟨ho, ha⟩ := list_recounts t handler s hm hr
      exact ⟨_, congrArg (Except.map Reply.listed) ho, fun _ => ha, fun hz => absurd hz hm⟩
  case listInto dest =>
    by_cases hd : dest = []
    case pos =>
      subst hd
      exact ⟨0, [], rfl, fun hd => absurd rfl hd, fun _ => rfl⟩
    case neg =>
      have ⟨_, hr⟩ := h hd
      have ⟨count, written, ho, ha⟩ := listInto_recounts t handler s hd hf hr
      have hw := congrArg (Except.map fun w : Nat × List Record => Reply.written w.fst w.snd) ho
      exact ⟨count, written, hw, fun _ => ha, fun hn => absurd hn hd⟩
  case listWithin => trivial
  case memoryOf   => trivial
  case uptime     => trivial
  case yieldNow   => trivial

theorem returns_of_not_crashes {name : String} {self : Pid} {s : Sim.Scripted} (h : s.crashes = false)
    (request : Request) : request.Returns ⟨Delegated.platform name, self⟩ Sim.Scripted.handler s := by
  have he (max : UInt64) :
      (((Delegated.platform name).enumerate max).run Sim.Scripted.handler s).outcome = .ok s.records := by
    cases s
    subst h
    rfl
  cases request
  case spawn      => exact fun _ => ⟨_, rfl⟩
  case terminate  => exact fun _ => ⟨_, rfl⟩
  case list       => exact fun _ => ⟨_, he _⟩
  case listInto   => exact fun _ => ⟨_, he _⟩
  case listWithin => trivial
  case memoryOf   => trivial
  case uptime     => trivial
  case yieldNow   => trivial

-- A platform that starts one command and can end nothing.
def busy : Sim.Scripted :=
  { exhausted with records := [.running 0 ⟨"idle"⟩ 0, .running 10 ⟨"a"⟩ 1], spawns := [.ok (42, 0)] }

theorem log_tells_the_reply_mixed :
    let table : Table Delegated.interface := ⟨Delegated.platform "scripted", 7⟩
    (∀ request ∈ mixed, request.Fits ∧ request.Returns table Sim.Scripted.handler busy) ∧
      ∀ request ∈ mixed, Traced table Sim.Scripted.handler busy request
        (table.serve Sim.Scripted.handler Sim.Scripted.threads request busy) := by
  intro table
  have h : ∀ request ∈ mixed, request.Fits ∧ request.Returns table Sim.Scripted.handler busy := by
    intro request hr
    refine ⟨?_, returns_of_not_crashes rfl request⟩
    revert request
    simp [mixed, Request.Fits, UInt64.size]
  refine ⟨h, fun request hr => ?_⟩
  obtain ⟨hf, ht⟩ := h request hr
  exact log_tells_the_reply table Sim.Scripted.handler Sim.Scripted.threads busy hf ht

end Table

end ProcessControl
