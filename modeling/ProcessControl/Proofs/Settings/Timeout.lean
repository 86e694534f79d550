import ProcessControl.Proofs.Deadline
import ProcessControl.Proofs.Json.Kept
import ProcessControl.Proofs.Settings
import ProcessControl.Proofs.Settings.Variables
import ProcessControl.Proofs.Table.Session
import ProcessControl.Sim.Scripted
import ProcessControl.Snapshot

namespace ProcessControl

theorem Duration.millis_ofMillis (n : UInt64) : (Duration.ofMillis n).millis = n := by
  rw [millis, ofMillis, Nat.mul_div_cancel _ (by decide), UInt64.ofNat_toNat]

-- The clock can tell the end of such a span, if it has gone no further than through half of its range.
theorem Moment.after?_ofMillis {now : Moment} (h : now.nanos < 0x4000000000000000 * 1000000000) (n : UInt64) :
    now.after? (.ofMillis n) = some ⟨now.nanos + n.toNat * 1000000⟩ := by
  have hn := n.toNat_lt_size
  unfold UInt64.size at hn
  refine if_pos ?_
  simp only [Duration.ofMillis, limit]
  omega

namespace Settings

open Json.Reader Text

variable {s : Settings} {lookup : String → Option String} {n : Nat} {millis : UInt64}

-- The number of milliseconds that the variables ask for.
inductive AsksFor (lookup : String → Option String) : Nat → Prop
  | number {value n} : lookup Key.timeout.variable = some value → Means value n → AsksFor lookup n
  | standard : (∀ value, lookup Key.timeout.variable = some value → ∀ n, ¬Means value n) → AsksFor lookup 5000

theorem exists_asksFor (lookup : String → Option String) : ∃ n, AsksFor lookup n := by
  by_cases h : ∃ value n, lookup Key.timeout.variable = some value ∧ Means value n
  case pos =>
    have ⟨_, n, hl, hm⟩ := h
    exact ⟨n, .number hl hm⟩
  case neg => exact ⟨5000, .standard fun value hl n hm => h ⟨value, n, hl, hm⟩⟩

theorem AsksFor.nanos_eq (h : AsksFor lookup n) : (ofLookup lookup).fst.operationTimeout.nanos = n * 1000000 := by
  have hk : Key.timeout ≠ .traceJson := nofun
  cases h
  case number hl hm => exact (reading_of_means hk hl hm).left
  case standard hn =>
    cases hl : lookup Key.timeout.variable
    case none       => exact (reading_of_unset hk hl).left
    case some value => exact (reading_of_not_means hk hl <| hn value hl).left

-- What comes of a wait of so many milliseconds. The clock can tell its end, it comes to a result, and if it was too
-- short for what was waited for the failure tells how long it was.
structure Waits {α : Type} (timeout : Duration) (n : Nat) (now : Moment) (elapsed : Nat)
    (outcome : Except Halt (Except Failure α)) : Prop where
  deadline : now.after? timeout = some ⟨now.nanos + n * 1000000⟩
  returns  : ∃ result, outcome = .ok result
  expires  : (∃ millis, outcome = .ok (.error <| .timedOut millis)) ↔ n * 1000000 ≤ elapsed
  payload  : ∀ millis, outcome = .ok (.error <| .timedOut millis) → millis.toNat = n

section Waiting

variable {timeout : Duration} (ht : timeout = .ofMillis millis)

include ht

theorem waits_within {α : Type} {now : Moment} (h : now.nanos < 0x4000000000000000 * 1000000000) (job : Job α) :
    Waits timeout millis.toNat now job.elapsed ((Job.within (.ok job) now timeout).run Handler.none ()).outcome := by
  have hd : now.after? timeout = some ⟨now.nanos + millis.toNat * 1000000⟩ := ht ▸ Moment.after?_ofMillis h millis
  have hn : timeout.nanos = millis.toNat * 1000000 := congrArg Duration.nanos ht
  have hm : timeout.millis = millis := ht ▸ Duration.millis_ofMillis millis
  rw [Job.within_of_deadline hd]
  refine ⟨hd, ⟨_, rfl⟩, ?_, fun millis' he => ?_⟩
  case refine_1 =>
    simp only [Except.ok.injEq, Job.verdict_eq_timedOut_iff, hn]
    exact ⟨fun ⟨_, hl, _⟩ => hl, fun hl => ⟨_, hl, rfl⟩⟩
  case refine_2 =>
    have ⟨_, he⟩ := Job.verdict_eq_timedOut_iff.mp <| Except.ok.inj he
    rw [← he, hm]

-- The timeout is a variable here: the kernel would count through its nanoseconds if it were written out.
theorem waits_listWithin {I : Interface} {σ : Type} (t : Table I) (handler : Handler I σ) {threads : Threads σ}
    (max : UInt64) {s₀ : σ} (h : (threads.clock s₀).nanos < 0x4000000000000000 * 1000000000)
    (hs : threads.start s₀ = .ok ()) :
    let run := t.listWithin handler threads max timeout s₀
    Waits timeout millis.toNat (threads.clock s₀) ((threads.clock run.state).nanos - (threads.clock s₀).nanos)
      run.outcome := by
  rw [Table.listWithin_of_start hs]
  exact waits_within ht h ⟨_, Table.ending ((t.list max).run handler s₀).outcome⟩

end Waiting

-- That the timeout of settings is so many milliseconds, wherever it goes.
structure Exact (s : Settings) (n : Nat) : Prop where
  nanos    : s.operationTimeout.nanos = n * 1000000
  millis   : s.operationTimeout.millis.toNat = n
  logged   : (Snapshot.notices s).filterMap (·.fields.lookup "timeout_ms") = [.nat n]
  written  : s.toJson.get? "operation_timeout" = some (.nat n)
  readBack : read.readAll (Utf8.encode s.toJson.render.toList) = .ok s
  waits    : ∀ {I : Interface} {σ : Type} (t : Table I) (handler : Handler I σ) (threads : Threads σ) (max : UInt64)
    (s₀ : σ), (threads.clock s₀).nanos < 0x4000000000000000 * 1000000000 →
    let run := t.listWithin handler threads max s.operationTimeout s₀
    (threads.start s₀ = .ok () → Waits s.operationTimeout n (threads.clock s₀)
      ((threads.clock run.state).nanos - (threads.clock s₀).nanos) run.outcome) ∧
    (∀ why, threads.start s₀ = .error why → run.outcome = .ok (.error <| Job.noWorker why))

theorem exact_of_ofMillis (h : s.operationTimeout = .ofMillis millis) : Exact s millis.toNat := by
  have hm : s.operationTimeout.millis = millis := h ▸ Duration.millis_ofMillis millis
  have hb : s.readBack = s := by rw [Settings.readBack, hm, ← h]
  refine ⟨by rw [h, Duration.ofMillis], by rw [hm], ?logged, ?written, ?readBack, ?waits⟩
  case logged   => exact hm ▸ rfl
  case written  => exact hm ▸ rfl
  case readBack => exact (reads_toJson s).readAll.trans <| congrArg _ hb
  case waits =>
    intro I σ t handler threads max s₀ hn run
    exact ⟨waits_listWithin h t handler max hn, fun _ hs => congrArg Run.outcome <| Table.listWithin_of_refused hs⟩

theorem operationTimeout_of_complete {d : Draft} (h : d.complete = .ok s) :
    d.operationTimeout? = some s.operationTimeout := by
  rcases d with ⟨_ | _, _ | _, _ | _, _ | _⟩ <;> cases h
  rfl

-- A draft without a timeout, or with one of whole milliseconds.
def Draft.InMillis (d : Draft) : Prop :=
  ∀ timeout, d.operationTimeout? = some timeout → ∃ millis, timeout = .ofMillis millis

theorem inMillis_empty : Draft.empty.InMillis := by
  intro timeout he
  cases he

theorem keeps_inMillis : Keeps members Draft.InMillis := by
  simp only [members, Keeps, List.forall_mem_cons]
  refine ⟨fun d hd => ?list, fun d hd => ?event, fun d hd => ?json, fun d _ => ?timeout, nofun⟩
  case list    => exact .after fun _ => givesOnly_pure hd
  case event   => exact .after fun _ => givesOnly_pure hd
  case json    => exact .after fun _ => givesOnly_pure hd
  case timeout => exact .after fun _ => givesOnly_pure fun _ he => ⟨_, (Option.some.inj he).symm⟩

theorem givesOnly_read : read.GivesOnly fun s => ∃ millis, s.operationTimeout = .ofMillis millis :=
  givesOnly_aggregate keeps_inMillis inMillis_empty (fun _ _ hd hs => hd _ <| operationTimeout_of_complete hs) _

-- Variables always ask for some timeout, and it is exact; so is the timeout of settings that are read from any text.
theorem timeouts_are_exact :
    (∀ lookup, (∃ n, AsksFor lookup n) ∧
      ∀ n, AsksFor lookup n → n < UInt64.size ∧ Exact (ofLookup lookup).fst n) ∧
    ∀ bytes s, read.readAll bytes = .ok s → ∃ n, n < UInt64.size ∧ Exact s n := by
  constructor
  case left =>
    refine fun lookup => ⟨exists_asksFor lookup, fun n ha => ?_⟩
    have ⟨millis, hm⟩ : ∃ millis, (ofLookup lookup).fst.operationTimeout = .ofMillis millis := ⟨_, rfl⟩
    have hx := exact_of_ofMillis hm
    have hn : n = millis.toNat := Nat.eq_of_mul_eq_mul_right (by decide) <| ha.nanos_eq.symm.trans hx.nanos
    exact hn ▸ ⟨millis.toNat_lt_size, hx⟩
  case right =>
    intro bytes s hr
    have ⟨millis, hm⟩ := givesOnly_read.of_readAll hr
    exact ⟨_, millis.toNat_lt_size, exact_of_ofMillis hm⟩

-- The longest timeout that variables can ask for.
def patience : String → Option String
  | "HOSTPROC_TIMEOUT_MS" => some "18446744073709551615"
  | _                     => none

-- Settings as somebody else may write them.
def terse : List UInt8 :=
  Utf8.encode "[1, 2, true, 7]".toList

-- A system that is slower than these settings allow for, at the last moment of the first half of the clock.
def sluggish : Sim.Scripted where
  records      := [.running 10 ⟨"a"⟩ 1]
  memory       := []
  spawns       := []
  terminations := []
  uptime       := .sinceBoot 0
  delay        := .ofMillis 20
  crashes      := false
  clock        := ⟨0x4000000000000000 * 1000000000 - 1⟩

theorem timeouts_are_exact_longest :
    AsksFor patience 18446744073709551615 ∧ Exact (ofLookup patience).fst 18446744073709551615 ∧
    ∃ s, read.readAll terse = .ok s ∧ Exact s 7 ∧
      let table : Table Delegated.interface := ⟨Delegated.platform "scripted", 1⟩
      ∃ millis, millis.toNat = 7 ∧
        (table.listWithin Sim.Scripted.handler Sim.Scripted.threads 2 s.operationTimeout sluggish).outcome =
          .ok (.error <| .timedOut millis) := by
  have hd : "18446744073709551615".toList.all Decimal.isDigit = true := rfl
  have hp : Padded "18446744073709551615".toList "18446744073709551615".toList := ⟨[], [], nofun, nofun, rfl⟩
  have hm : Means "18446744073709551615" 18446744073709551615 :=
    ⟨by decide, _, hp, .plain nofun <| List.all_eq_true.mp hd⟩
  have ha : AsksFor patience 18446744073709551615 := .number rfl hm
  obtain ⟨hv, hr⟩ := timeouts_are_exact
  have ht : read.readAll terse = .ok ⟨1, 2, true, .ofMillis 7⟩ := rfl
  obtain ⟨n, _, hx⟩ := hr terse _ ht
  have hn : n = 7 := hx.millis.symm.trans <| by decide
  subst hn
  have hw := (hx.waits ⟨Delegated.platform "scripted", 1⟩ Sim.Scripted.handler Sim.Scripted.threads 2 sluggish
    (by decide)).left rfl
  obtain ⟨millis, ho⟩ := hw.expires.mpr (by decide)
  exact ⟨ha, ((hv patience).right _ ha).right, _, ht, hx, millis, hw.payload millis ho, ho⟩

end Settings

end ProcessControl
