import ProcessControl.Delegated
import ProcessControl.Proofs.Table.Session
import ProcessControl.Sim.Scripted

namespace ProcessControl

variable {I : Interface} {σ α β γ : Type}

namespace Run

-- Nothing was asked but what another run asked, and its result is the result.
structure Passes (r : Run I σ β) (asked : Run I σ α) (f : α → β) : Prop where
  outcome : r.outcome = asked.outcome.map f
  history : r.history = asked.history
  state   : r.state = asked.state

-- Nothing was asked at all.
structure Refuses (r : Run I σ β) (s : σ) (b : β) : Prop where
  outcome : r.outcome = .ok b
  history : r.history = []
  state   : r.state = s

variable {r : Run I σ β} {asked : Run I σ α} {f : α → β} {s : σ} {b : β}

theorem Passes.map (h : r.Passes asked f) (g : β → γ) : (r.map g).Passes asked (g ∘ f) where
  outcome := by
    rw [Run.map, h.outcome]
    cases asked.outcome <;> rfl
  history := h.history
  state   := h.state

theorem Passes.trans {r' : Run I σ α} {asked : Run I σ γ} {g : γ → α} (h : r.Passes r' f) (h' : r'.Passes asked g) :
    r.Passes asked (f ∘ g) where
  outcome := by
    rw [h.outcome, h'.outcome]
    cases asked.outcome <;> rfl
  history := h.history.trans h'.history
  state   := h.state.trans h'.state

theorem Passes.calls (h : r.Passes asked f) : r.calls = asked.calls :=
  congrArg (List.map _) h.history

theorem Refuses.calls (h : r.Refuses s b) : r.calls = [] :=
  congrArg (List.map _) h.history

theorem Passes.refuses {handler : Handler I σ} {a : α} (h : r.Passes ((pure a : Program I α).run handler s) f) :
    r.Refuses s (f a) :=
  ⟨h.outcome, h.history, h.state⟩

end Run

namespace Program

theorem run_logAll_bind {handler : Handler I σ} {s : σ} (entries : List LogEntry) (p : Program I α) :
    (logAll entries >>= fun _ => p).run handler s =
      { p.run handler s with log := entries ++ (p.run handler s).log } := by
  induction entries
  case nil => rfl
  case cons entry _ hi =>
    exact congrArg (fun r : Run I σ α => { r with log := entry :: r.log }) hi

variable (handler : Handler I σ) (s : σ) (f : α → β) (p : Program I α)

theorem run_return : ((p >>= fun a => pure (f a)).run handler s).Passes (p.run handler s) f := by
  rw [run_bind, Run.andThen]
  cases h : (p.run handler s).outcome
  case error why => exact ⟨by rw [h]; rfl, rfl, rfl⟩
  case ok a      => exact ⟨by rw [h]; rfl, List.append_nil _, rfl⟩

-- Whatever is told of a result, it stays what it is.
theorem run_report (report : α → List LogEntry) :
    ((p >>= fun a => logAll (report a) >>= fun _ => pure (f a)).run handler s).Passes (p.run handler s) f := by
  rw [run_bind, Run.andThen]
  cases h : (p.run handler s).outcome
  case error why => exact ⟨by rw [h]; rfl, rfl, rfl⟩
  case ok a =>
    simp only [run_logAll_bind]
    exact ⟨by rw [h]; rfl, List.append_nil _, rfl⟩

end Program

namespace Table

-- A command that a shell can be asked to run.
def Startable (command : String) : Prop :=
  (∃ c ∈ command.toList, Text.isBlank c = false) ∧ '\x00' ∉ command.toList

instance (command : String) : Decidable (Startable command) :=
  @instDecidableAnd _ _ (List.decidableBEx _ _) inferInstance

section Checks

variable {command : String} {self pid : Pid}

theorem all_isBlank_iff : command.toList.all Text.isBlank = true ↔ ¬∃ c ∈ command.toList, Text.isBlank c = false := by
  simp

theorem validateCommand_of_startable (h : Startable command) : validateCommand command = .ok () := by
  have hb : ¬command.toList.all Text.isBlank = true := fun ha => all_isBlank_iff.mp ha h.left
  have hn : ¬command.toList.contains '\x00' = true := fun hc => h.right <| List.contains_iff_mem.mp hc
  rw [validateCommand, if_neg hb, if_neg hn]

theorem validateCommand_of_not_startable (h : ¬Startable command) :
    ∃ why, validateCommand command = .error (.invalidCommand why) := by
  unfold validateCommand
  split
  case isTrue => exact ⟨_, rfl⟩
  case isFalse hb =>
    have hn : '\x00' ∈ command.toList :=
      Classical.not_not.mp fun hn => hb <| all_isBlank_iff.mpr fun hc => h ⟨hc, hn⟩
    exact ⟨_, if_pos <| List.contains_iff_mem.mpr hn⟩

theorem validateTarget_zero : validateTarget self 0 = .error (.invalidPid 0) :=
  rfl

theorem validateTarget_self (h : pid ≠ 0) : validateTarget pid pid = .error (.selfTermination pid) := by
  rw [validateTarget, if_neg h, if_pos rfl]

end Checks

section Operations

variable (t : Table I) (handler : Handler I σ) (s : σ)

theorem spawn_passes (command : String) : ((t.spawn command).run handler s).Passes
    ((guarded (validateCommand command) (t.platform.spawn command)).run handler s) id := by
  have h := Program.run_report handler s id (guarded (validateCommand command) (t.platform.spawn command))
    (spawnReport command)
  exact ⟨h.outcome, h.history, h.state⟩

theorem terminate_passes (pid : Pid) : ((t.terminate pid).run handler s).Passes
    ((guarded (validateTarget t.self pid) (t.platform.terminate pid)).run handler s) id := by
  have h := Program.run_report handler s id (guarded (validateTarget t.self pid) (t.platform.terminate pid))
    (terminateReport pid)
  exact ⟨h.outcome, h.history, h.state⟩

theorem memoryOf_passes {pid : Pid} (h : pid ≠ 0) :
    ((t.memoryOf pid).run handler s).Passes ((t.platform.probeMemory pid).run handler s) id := by
  rw [memoryOf, if_neg h]
  exact ⟨by cases ((t.platform.probeMemory pid).run handler s).outcome <;> rfl, rfl, rfl⟩

theorem list_passes {max : UInt64} (h : max ≠ 0) :
    ((t.list max).run handler s).Passes ((t.platform.enumerate max).run handler s) (select max) := by
  have hr := Program.run_report handler s (select max) (t.platform.enumerate max) fun records =>
    [.recorded <| .items (select max records).length, .recorded <| .result true]
  rw [list, if_neg h]
  exact ⟨hr.outcome, hr.history, hr.state⟩

-- Every listing is what was selected of some records.
theorem exists_eq_select {max : UInt64} {listed : List Record} (h : ((t.list max).run handler s).outcome = .ok listed) :
    ∃ records, listed = select max records := by
  by_cases hm : max = 0
  case pos =>
    subst hm
    cases h
    exact ⟨[], rfl⟩
  case neg =>
    rw [(list_passes t handler s hm).outcome] at h
    cases ho : ((t.platform.enumerate max).run handler s).outcome <;> rw [ho] at h <;> cases h
    case ok records => exact ⟨records, rfl⟩

theorem ofNat_length_ne_zero {dest : List Record} (hd : dest ≠ []) (hf : dest.length < UInt64.size) :
    UInt64.ofNat dest.length ≠ 0 := by
  intro hz
  have hl := congrArg UInt64.toNat hz
  rw [UInt64.toNat_ofNat', Nat.mod_eq_of_lt hf] at hl
  exact hd <| List.eq_nil_of_length_eq_zero hl

theorem listInto_passes {dest : List Record} (hd : dest ≠ []) :
    ((t.listInto dest).run handler s).Passes ((t.list <| UInt64.ofNat dest.length).run handler s)
      fun records => (records.length, records ++ dest.drop records.length) := by
  have he : ¬dest.isEmpty = true := fun he => hd <| List.isEmpty_iff.mp he
  rw [listInto, if_neg he]
  exact Program.run_return ..

end Operations

-- A destination has a length that a machine word can tell.
def Request.Fits : Request → Prop
  | .listInto dest => dest.length < UInt64.size
  | _              => True

-- What an operation makes of its platform and of the state that it finds: nothing but the one operation of the
-- platform that it stands for, where its arguments let it through, and nothing at all where they do not.
def Gated (t : Table I) (handler : Handler I σ) (threads : Threads σ) (s : σ) : Request → Run I σ Reply → Prop
  | .spawn command, r =>
    (Startable command → r.Passes ((t.platform.spawn command).run handler s) .spawned) ∧
    (¬Startable command → ∃ why, r.Refuses s (.spawned <| .error <| .invalidCommand why))
  | .terminate pid, r =>
    (pid ≠ 0 ∧ pid ≠ t.self → r.Passes ((t.platform.terminate pid).run handler s) .terminated) ∧
    (pid = 0 → r.Refuses s (.terminated <| .error <| .invalidPid 0)) ∧
    (pid ≠ 0 ∧ pid = t.self → r.Refuses s (.terminated <| .error <| .selfTermination pid))
  | .list max, r =>
    (max ≠ 0 → r.Passes ((t.platform.enumerate max).run handler s) fun records => .listed (select max records)) ∧
    (max = 0 → r.Refuses s (.listed []))
  | .listInto dest, r =>
    let max := UInt64.ofNat dest.length
    (dest ≠ [] → r.Passes ((t.platform.enumerate max).run handler s) fun records =>
      .written (select max records).length (select max records ++ dest.drop (select max records).length)) ∧
    (dest = [] → r.Refuses s (.written 0 []))
  | .listWithin max _, r =>
    (max ≠ 0 → threads.start s = .ok () → r.calls = ((t.platform.enumerate max).run handler s).calls) ∧
    (max = 0 → r.calls = []) ∧
    (∀ why, threads.start s = .error why → r.Refuses s (.listedWithin <| .error <| Job.noWorker why))
  | .memoryOf pid, r =>
    (pid ≠ 0 → r.Passes ((t.platform.probeMemory pid).run handler s) .memory) ∧
    (pid = 0 → r.Refuses s (.memory 0))
  | .uptime, r => r.Passes (t.platform.uptime.run handler s) .uptime
  | .yieldNow, r => r.Passes (t.platform.yieldNow.run handler s) fun _ => .yielded

variable {t : Table I} {handler : Handler I σ} {threads : Threads σ}

theorem serve_gated {request : Request} (h : request.Fits) (s : σ) :
    Gated t handler threads s request (t.serve handler threads request s) := by
  cases request
  case spawn command =>
    have hp := (spawn_passes t handler s command).map Reply.spawned
    constructor
    case left =>
      intro hs
      rw [validateCommand_of_startable hs] at hp
      exact hp
    case right =>
      intro hs
      obtain ⟨why, hw⟩ := validateCommand_of_not_startable hs
      rw [hw] at hp
      exact ⟨why, hp.refuses⟩
  case terminate pid =>
    have hp := (terminate_passes t handler s pid).map Reply.terminated
    refine ⟨fun hv => ?_, fun hz => ?_, fun hv => ?_⟩
    case refine_1 =>
      rw [validateTarget_eq_ok_iff.mpr hv] at hp
      exact hp
    case refine_2 =>
      subst hz
      rw [validateTarget_zero] at hp
      exact hp.refuses
    case refine_3 =>
      obtain ⟨hz, hs⟩ := hv
      subst hs
      rw [validateTarget_self hz] at hp
      exact hp.refuses
  case list max =>
    refine ⟨fun hm => (list_passes t handler s hm).map Reply.listed, fun hm => ?_⟩
    subst hm
    exact ⟨rfl, rfl, rfl⟩
  case listInto dest =>
    refine ⟨fun hd => ?_, fun hd => ?_⟩
    case refine_1 =>
      have hl := list_passes t handler s <| ofNat_length_ne_zero hd h
      exact ((listInto_passes t handler s hd).trans hl).map fun written => Reply.written written.fst written.snd
    case refine_2 =>
      subst hd
      exact ⟨rfl, rfl, rfl⟩
  case listWithin max timeout =>
    refine ⟨fun hm hs => ?passed, fun hm => ?empty, fun why hs => ?refused⟩
    case passed =>
      rw [serve, listWithin_of_start hs]
      exact (list_passes t handler s hm).calls
    case empty =>
      subst hm
      cases history_listWithin t handler threads 0 timeout s
      case inl hh => exact congrArg (·.map (·.call)) hh
      case inr hh => exact congrArg (·.map (·.call)) hh
    case refused =>
      rw [serve, listWithin_of_refused hs]
      exact ⟨rfl, rfl, rfl⟩
  case memoryOf pid =>
    refine ⟨fun hm => (memoryOf_passes t handler s hm).map Reply.memory, fun hm => ?_⟩
    subst hm
    exact ⟨rfl, rfl, rfl⟩
  case uptime   => exact ⟨rfl, rfl, rfl⟩
  case yieldNow => exact ⟨rfl, rfl, rfl⟩

-- The same of operations one after the other, each of which finds the state that the one before it left.
def AllGated (t : Table I) (handler : Handler I σ) (threads : Threads σ) : σ → List (Request × Run I σ Reply) → Prop
  | _, []                      => True
  | s, (request, run) :: later => Gated t handler threads s request run ∧ AllGated t handler threads run.state later

theorem session_gated {requests : List Request} (h : ∀ request ∈ requests, request.Fits) (s : σ) :
    AllGated t handler threads s (t.session handler threads requests s) := by
  induction requests generalizing s
  case nil => trivial
  case cons request requests hi =>
    have ⟨hf, hr⟩ := List.forall_mem_cons.mp h
    exact ⟨serve_gated hf s, hi hr _⟩

-- What an operation asks a platform that takes each operation as one question.
def Request.reached (self : Pid) : Request → List Delegated.interface.Call
  | .spawn command    => if Startable command then [.spawn command] else []
  | .terminate pid    => if pid ≠ 0 ∧ pid ≠ self then [.terminate pid] else []
  | .list max         => if max ≠ 0 then [.enumerate max] else []
  | .listInto dest    => if dest ≠ [] then [.enumerate <| UInt64.ofNat dest.length] else []
  | .listWithin max _ => if max ≠ 0 then [.enumerate max] else []
  | .memoryOf pid     => if pid ≠ 0 then [.probeMemory pid] else []
  | .uptime           => [.uptime]
  | .yieldNow         => [.yieldNow]

theorem calls_enumerate {name : String} {handler : Handler Delegated.interface σ} {s : σ} {max : UInt64} :
    (((Delegated.platform name).enumerate max).run handler s).calls = [.enumerate max] := by
  simp only [Delegated.platform, Program.run_bind]
  cases h : (handler (.enumerate max) s).fst <;> simp only [Run.andThen, Program.call, Program.run, h] <;> rfl

theorem calls_of_gated {name : String} {self : Pid} {handler : Handler Delegated.interface σ} {threads : Threads σ}
    {s : σ} {request : Request} {run : Run Delegated.interface σ Reply}
    (ht : ∀ max timeout, request = .listWithin max timeout → threads.start s = .ok ())
    (h : Gated ⟨Delegated.platform name, self⟩ handler threads s request run) : run.calls = request.reached self := by
  cases request <;> simp only [Request.reached]
  case spawn command =>
    split
    case isTrue hs => exact (h.left hs).calls
    case isFalse hs =>
      have ⟨_, hr⟩ := h.right hs
      exact hr.calls
  case terminate pid =>
    split
    case isTrue hv => exact (h.left hv).calls
    case isFalse hv =>
      by_cases hz : pid = 0
      case pos => exact (h.right.left hz).calls
      case neg => exact (h.right.right ⟨hz, Classical.not_not.mp fun hs => hv ⟨hz, hs⟩⟩).calls
  case list max =>
    split
    case isTrue hm  => exact (h.left hm).calls.trans calls_enumerate
    case isFalse hm => exact (h.right <| Classical.not_not.mp hm).calls
  case listInto dest =>
    split
    case isTrue hd  => exact (h.left hd).calls.trans calls_enumerate
    case isFalse hd => exact (h.right <| Classical.not_not.mp hd).calls
  case listWithin max timeout =>
    split
    case isTrue hm  => exact (h.left hm <| ht max timeout rfl).trans calls_enumerate
    case isFalse hm => exact h.right.left <| Classical.not_not.mp hm
  case memoryOf pid =>
    split
    case isTrue hm  => exact (h.left hm).calls
    case isFalse hm => exact (h.right <| Classical.not_not.mp hm).calls
  case uptime   => exact Run.Passes.calls h
  case yieldNow => exact Run.Passes.calls h

theorem calls_session {name : String} {self : Pid} {handler : Handler Delegated.interface σ} {threads : Threads σ}
    {requests : List Request} (h : ∀ request ∈ requests, request.Fits)
    (ht : ∀ max timeout, .listWithin max timeout ∈ requests → ∀ s, threads.start s = .ok ()) (s : σ) :
    (session ⟨Delegated.platform name, self⟩ handler threads requests s).map (·.2.calls) =
      requests.map (·.reached self) := by
  induction requests generalizing s
  case nil => rfl
  case cons request requests hi =>
    have ⟨hf, hr⟩ := List.forall_mem_cons.mp h
    have ht₀ (max : UInt64) (timeout : Duration) (he : request = .listWithin max timeout) : threads.start s = .ok () :=
      ht max timeout (he ▸ List.mem_cons_self) s
    have hl := hi hr fun max timeout hm => ht max timeout <| List.mem_cons_of_mem _ hm
    simp only [session, List.map_cons, hl, calls_of_gated ht₀ <| serve_gated hf s]

theorem only_the_valid_is_passed_on (self : Pid) {requests : List Request} (h : ∀ request ∈ requests, request.Fits) :
    (∀ {I : Interface} {σ : Type} (p : Platform I) (handler : Handler I σ) (threads : Threads σ) (s : σ),
      AllGated ⟨p, self⟩ handler threads s (session ⟨p, self⟩ handler threads requests s)) ∧
    (∀ {σ : Type} (name : String) (handler : Handler Delegated.interface σ) (threads : Threads σ) (s : σ),
      (∀ max timeout, .listWithin max timeout ∈ requests → ∀ s, threads.start s = .ok ()) →
      (session ⟨Delegated.platform name, self⟩ handler threads requests s).map (·.2.calls) =
        requests.map (·.reached self)) :=
  ⟨fun _ _ _ s => session_gated h s, fun _ _ _ s ht => calls_session h ht s⟩

-- Requests on both sides of each check: blanks of any kind, a NUL, identifiers that cannot be ended, no room.
def mixed : List Request := [
  .spawn " ls\u00A0", .spawn "\u2003 \u0085", .spawn "a\x00b", .terminate 0, .terminate 7, .terminate 42,
  .list 0, .list 5, .listInto [], .listInto [.empty, .empty], .memoryOf 0, .memoryOf 42]

-- A platform with nothing to answer.
def exhausted : Sim.Scripted := ⟨[], [], [], [], .sinceBoot 0, .ofMillis 0, false, ⟨0⟩⟩

theorem only_the_valid_is_passed_on_mixed :
    (∀ request ∈ mixed, request.Fits) ∧
    AllGated ⟨Delegated.platform "scripted", 7⟩ Sim.Scripted.handler Sim.Scripted.threads exhausted
      (session ⟨Delegated.platform "scripted", 7⟩ Sim.Scripted.handler Sim.Scripted.threads mixed exhausted) ∧
    (session ⟨Delegated.platform "scripted", 7⟩ Sim.Scripted.handler Sim.Scripted.threads mixed exhausted).map
        (·.2.calls) =
      [[.spawn " ls\u00A0"], [], [], [], [], [.terminate 42], [], [.enumerate 5], [], [.enumerate 2], [],
        [.probeMemory 42]] := by
  have hf : ∀ request ∈ mixed, request.Fits := by
    simp [mixed, Request.Fits, UInt64.size]
  have h := only_the_valid_is_passed_on 7 hf
  have hs := h.right "scripted" Sim.Scripted.handler Sim.Scripted.threads exhausted fun _ _ _ _ => rfl
  exact ⟨hf, h.left _ _ _ _, hs.trans rfl⟩

end Table

end ProcessControl
