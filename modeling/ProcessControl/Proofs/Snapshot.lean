import ProcessControl.Proofs.Json.Indented
import ProcessControl.Proofs.Record
import ProcessControl.Proofs.Settings.Timeout
import ProcessControl.Proofs.Table.Gate

namespace ProcessControl

open Json Json.Reader Text

-- Whatever stands around it, the value is read back as `a` from the lines that are printed of it.
def Json.Value.ReadsBack {α : Type} (v : Json.Value) (r : Reader α) (a : α) : Prop :=
  ∀ depth, r.readAll (Utf8.encode <| v.indentedChars depth) = .ok a

theorem Record.skipsBlanks_members : ∀ m ∈ Record.members, ∀ d, (m.read d).SkipsBlanks := by
  simp only [members, List.forall_mem_cons]
  refine ⟨fun d => ?pid, fun d => ?name, fun d => ?memory, fun d => ?status, nofun⟩
  case pid    => exact (skipsBlanks_natural _ _).bind _
  case name   => exact (skipsBlanks_optional _).bind _
  case memory => exact (skipsBlanks_natural _ _).bind _
  case status => exact (skipsBlanks_oneOf _).bind _

theorem UptimeSource.reads_toJson (source : UptimeSource) : UptimeSource.read.Reads source.toJson source := by
  cases source
  case bootClock => exact reads_oneOf rfl
  case wallClock => exact reads_oneOf rfl

theorem Uptime.skipsBlanks_members : ∀ m ∈ Uptime.members, ∀ d, (m.read d).SkipsBlanks := by
  simp only [members, List.forall_mem_cons]
  refine ⟨fun d => ?seconds, fun d => ?source, nofun⟩
  case seconds => exact (skipsBlanks_natural _ _).bind _
  case source  => exact (skipsBlanks_oneOf _).bind _

theorem Uptime.fits_toJson (nesting : Nat) (u : Uptime) : Fits (nesting + 1) u.toJson := by
  refine .obj ?_
  simp only [List.forall_mem_cons]
  exact ⟨.nat u.seconds.toNat_lt_size, .str _, nofun⟩

theorem Uptime.readsBack_toJson (u : Uptime) : u.toJson.ReadsBack Uptime.read u := by
  have hf : Fills members .empty [("seconds", .nat u.seconds.toNat), ("source", u.source.toJson)]
      ⟨some u.seconds, some u.source⟩ := by
    refine .cons rfl rfl ((reads_natural "u64" u.seconds.toNat_lt_size u.seconds.toNat_lt_size).map _) <|
      .cons rfl rfl (u.source.reads_toJson.map _) ?_
    rw [UInt64.ofNat_toNat]
    exact .nil _
  have hc : Draft.complete ⟨some u.seconds, some u.source⟩ = .ok u := rfl
  exact fun depth => (aggregate_readsAt "struct Uptime" hf hc (u.fits_toJson 0) skipsBlanks_members depth).readAll

namespace Table

variable {I : Interface} {σ : Type} {table : Table I} {handler : Handler I σ} {threads : Threads σ} {s : σ}
  {max : UInt64} {timeout : Duration} {listed : List Record}

theorem ending_eq_returned_iff {outcome : Except Halt (List Record)} :
    ending outcome = .returned listed ↔ outcome = .ok listed := by
  cases outcome <;> simp [ending]

theorem listWithin_eq_ok_iff :
    (table.listWithin handler threads max timeout s).outcome = .ok (.ok listed) ↔
      threads.start s = .ok () ∧ (∃ deadline, (threads.clock s).after? timeout = some deadline) ∧
        (threads.clock ((table.list max).run handler s).state).nanos - (threads.clock s).nanos < timeout.nanos ∧
          ((table.list max).run handler s).outcome = .ok listed := by
  cases hs : threads.start s
  case error why =>
    rw [listWithin_of_refused hs]
    exact iff_of_false nofun nofun
  case ok =>
    rw [listWithin_of_start hs]
    simp only [Job.within_eq_ok_iff, ending_eq_returned_iff, Except.ok.injEq, exists_eq_left', true_and]

theorem length_le_of_list (h : ((table.list max).run handler s).outcome = .ok listed) : listed.length ≤ max.toNat := by
  have ⟨_, he⟩ := exists_eq_select table handler s h
  rw [he]
  exact List.length_take_le _ _

end Table

namespace Snapshot

section Order

-- The same processes, those with the most memory first, and those with equal memory in the order that they had.
structure Ranked (listed processes : List Record) : Prop where
  perm     : processes.Perm listed
  descends : processes.Pairwise fun a b => b.memory ≤ a.memory
  stable   : ∀ m, processes.filter (·.memory = m) = listed.filter (·.memory = m)

theorem ranked_byMemory (records : List Record) : Ranked records (byMemory records) := by
  have hp : (byMemory records).Perm records := List.mergeSort_perm _ _
  have ht (a b c : Record) (hab : decide (b.memory ≤ a.memory) = true) (hbc : decide (c.memory ≤ b.memory) = true) :
      decide (c.memory ≤ a.memory) = true :=
    decide_eq_true <| UInt64.le_trans (of_decide_eq_true hbc) (of_decide_eq_true hab)
  have hc (a b : Record) : (decide (b.memory ≤ a.memory) || decide (a.memory ≤ b.memory)) = true := by
    simpa using UInt64.le_total b.memory a.memory
  refine ⟨hp, ?descends, fun m => ?stable⟩
  case descends => exact (List.pairwise_mergeSort ht hc records).imp of_decide_eq_true
  case stable =>
    -- The processes with this memory stand in order already, so the sorting leaves them in that order.
    have he : (records.filter (·.memory = m)).Pairwise fun a b => decide (b.memory ≤ a.memory) = true :=
      List.pairwise_of_forall_mem_list fun a ha b hb => by
        have ha := of_decide_eq_true (List.mem_filter.mp ha).right
        have hb := of_decide_eq_true (List.mem_filter.mp hb).right
        exact decide_eq_true <| UInt64.le_of_eq <| hb.trans ha.symm
    have hs : (records.filter (·.memory = m)).Sublist (byMemory records) :=
      List.sublist_mergeSort ht hc he List.filter_sublist
    have hs := hs.filter (·.memory = m)
    rw [List.filter_filter] at hs
    simp only [Bool.and_self] at hs
    exact (hs.eq_of_length_le (hp.filter _).length_eq.le).symm

end Order

section Report

variable {shot : Snapshot}

theorem fits_record (nesting : Nat) (r : Record) : Fits (nesting + 1) (toJson.record r) := by
  have hn : Fits nesting ((r.name?.map Name.toJson).getD .null) := by
    cases r.name?
    case none      => exact .null
    case some name => exact .str name.text
  have hp : r.pid.toNat < UInt64.size := Nat.lt_trans r.pid.toNat_lt_size (by decide)
  refine .obj ?_
  simp only [List.forall_mem_cons]
  exact ⟨hn, .nat r.memory.toNat_lt_size, .nat hp, .str _, nofun⟩

theorem record_readsBack (r : Record) : (toJson.record r).ReadsBack Record.read r := by
  have hf : Fills Record.members .empty
      [("display_name", (r.name?.map Name.toJson).getD .null), ("memory_usage", .nat r.memory.toNat),
        ("pid", .nat r.pid.toNat), ("status", r.status.toJson)]
      ⟨some r.pid, some r.name?, some r.memory, some r.status⟩ := by
    have hp : r.pid.toNat < UInt64.size := Nat.lt_trans r.pid.toNat_lt_size (by decide)
    refine .cons rfl rfl ((Name.reads_toJson? r.name?).map _) <|
      .cons rfl rfl ((reads_natural "usize" r.memory.toNat_lt_size r.memory.toNat_lt_size).map _) <|
      .cons rfl rfl ((reads_natural "u32" hp r.pid.toNat_lt_size).map _) <|
      .cons rfl rfl (r.status.reads_toJson.map _) ?_
    simp only [UInt32.ofNat_toNat, UInt64.ofNat_toNat]
    exact .nil _
  have hc : Record.Draft.complete ⟨some r.pid, some r.name?, some r.memory, some r.status⟩ = .ok r := rfl
  exact fun depth =>
    (aggregate_readsAt "struct ProcessRecord" hf hc (fits_record 0 r) Record.skipsBlanks_members depth).readAll

theorem fits_toJson (h : shot.processes.length < UInt64.size) : Fits nestingLimit shot.toJson := by
  have hi : Fits 126 (.arr <| shot.processes.map toJson.record) :=
    .arr <| List.forall_mem_map.mpr fun r _ => fits_record _ r
  refine .obj ?_
  simp only [List.forall_mem_cons]
  exact ⟨.nat h, hi, shot.uptime.fits_toJson _, nofun⟩

-- A value that reports the uptime and the processes, in this order.
structure Tells (v : Json.Value) (items : List Json.Value) (uptime : Uptime) (processes : List Record) : Prop where
  count  : v.get? "count" = some (.nat items.length)
  array  : v.get? "processes" = some (.arr items)
  each   : List.Forall₂ (·.ReadsBack Record.read ·) items processes
  uptime : ∃ u, v.get? "uptime" = some u ∧ u.ReadsBack Uptime.read uptime

theorem tells_toJson (shot : Snapshot) :
    Tells shot.toJson (shot.processes.map toJson.record) shot.uptime shot.processes where
  count  := by
    rw [List.length_map]
    rfl
  array  := rfl
  each   := by
    rw [List.forall₂_map_left_iff, List.forall₂_same]
    exact fun r _ => record_readsBack r
  uptime := ⟨_, rfl, shot.uptime.readsBack_toJson⟩

-- The report on an uptime and on the processes that were listed is printed, and the program succeeds.
structure Prints (o : Output) (capacity : UInt64) (uptime : Uptime) (listed : List Record) : Prop where
  succeeds : o.exitCode = 0
  report   : ∃ text v items processes, o.report? = some text ∧ anyValue.readAll (Utf8.encode text.toList) = .ok v ∧
    Tells v items uptime processes ∧ Ranked listed processes ∧ items.length ≤ capacity.toNat

-- There is no report, and the program fails. The log is all that may be printed.
structure Fails (filter : Log.Filter) (o : Output) : Prop where
  fails  : o.exitCode ≠ 0
  report : o.report? = none
  log    : ∀ notice ∈ o.log, filter.allows notice = true

end Report

section Runs

variable {I : Interface} {σ : Type} {table : Table I} {handler : Handler I σ} {threads : Threads σ}
  {settings : Settings} {s : σ} {filter : Log.Filter} {uptime : Uptime} {listed : List Record}
  {run : Run I σ (Except Failure Snapshot)} {shot : Snapshot}

-- The listing that follows the reading of the uptime.
def listingOf (table : Table I) (handler : Handler I σ) (settings : Settings) (s : σ) : Run I σ (List Record) :=
  (table.list settings.listCapacity).run handler (table.uptime.run handler s).state

-- The uptime is read, and then the listing is started and finishes before its time is over.
structure Finishes (table : Table I) (handler : Handler I σ) (threads : Threads σ) (settings : Settings) (s : σ)
    (uptime : Uptime) (listed : List Record) : Prop where
  uptime  : (table.uptime.run handler s).outcome = .ok uptime
  started : threads.start (table.uptime.run handler s).state = .ok ()
  listing : (listingOf table handler settings s).outcome = .ok listed
  inTime  : (threads.clock (listingOf table handler settings s).state).nanos -
    (threads.clock (table.uptime.run handler s).state).nanos < settings.operationTimeout.nanos

theorem map_map_eq_ok_iff {α β : Type} {outcome : Except Halt (Except Failure α)} {f : α → β} {b : β} :
    outcome.map (·.map f) = .ok (.ok b) ↔ ∃ a, outcome = .ok (.ok a) ∧ f a = b := by
  rcases outcome with _ | _ | _ <;> simp [Except.map]

-- A snapshot is taken where the listing finishes, and of the processes that it gave.
theorem take_eq_ok_iff : (take table handler threads settings s).outcome = .ok (.ok shot) ↔
    (∃ deadline, (threads.clock (table.uptime.run handler s).state).after? settings.operationTimeout = some deadline) ∧
      ∃ listed, Finishes table handler threads settings s shot.uptime listed ∧ shot.processes = byMemory listed := by
  cases hu : (table.uptime.run handler s).outcome
  case error why =>
    have ht : (take table handler threads settings s).outcome = .error why := by simp only [take, hu]
    rw [ht]
    refine iff_of_false nofun fun ⟨_, _, hf, _⟩ => ?_
    cases hu.symm.trans hf.uptime
  case ok uptime =>
    have ht : (take table handler threads settings s).outcome =
        (table.listWithin handler threads settings.listCapacity settings.operationTimeout
          (table.uptime.run handler s).state).outcome.map (·.map fun records => ⟨uptime, byMemory records⟩) := by
      simp only [take, hu]
    simp only [ht, map_map_eq_ok_iff, Table.listWithin_eq_ok_iff]
    constructor
    case mp =>
      rintro ⟨listed, ⟨hs, hd, hi, ho⟩, rfl⟩
      exact ⟨hd, listed, ⟨hu, hs, ho, hi⟩, rfl⟩
    case mpr =>
      rintro ⟨hd, listed, hf, hp⟩
      cases hu.symm.trans hf.uptime
      exact ⟨listed, ⟨hf.started, hd, hf.inTime, hf.listing⟩, by rw [← hp]⟩

theorem report?_eq_some_iff {text : String} :
    (output filter settings run).report? = some text ↔ ∃ shot, run.outcome = .ok (.ok shot) ∧ shot.text = text := by
  unfold output
  rcases run.outcome with _ | _ | shot <;> simp [conclude]

theorem exitCode_eq_zero_iff :
    (output filter settings run).exitCode = 0 ↔ ∃ shot, run.outcome = .ok (.ok shot) := by
  unfold output
  rcases run.outcome with _ | _ | shot <;> simp [conclude]

theorem allows_of_mem_log {notice : Notice} (h : notice ∈ (output filter settings run).log) :
    filter.allows notice = true := by
  rcases List.mem_append.mp h with h | h
  case inl => exact (List.mem_filter.mp h).right
  case inr => exact (List.mem_filter.mp h).right

theorem prints_of_take (hr : run.outcome = .ok (.ok shot)) (hp : shot.processes = byMemory listed)
    (hl : listed.length ≤ settings.listCapacity.toNat) :
    Prints (output filter settings run) settings.listCapacity shot.uptime listed where
  succeeds := exitCode_eq_zero_iff.mpr ⟨shot, hr⟩
  report   := by
    have hk : Ranked listed shot.processes := hp ▸ ranked_byMemory listed
    have hn : shot.processes.length ≤ settings.listCapacity.toNat := hk.perm.length_eq.symm ▸ hl
    have hf : Fits nestingLimit shot.toJson := fits_toJson <| Nat.lt_of_le_of_lt hn settings.listCapacity.toNat_lt_size
    refine ⟨_, _, _, _, report?_eq_some_iff.mpr ⟨shot, hr, rfl⟩, readAll_indented hf, tells_toJson shot, hk, ?_⟩
    rwa [List.length_map]

theorem fails_of_take (hr : ∀ shot, run.outcome ≠ .ok (.ok shot)) : Fails filter (output filter settings run) where
  fails  := fun he => by
    have ⟨shot, ho⟩ := exitCode_eq_zero_iff.mp he
    exact hr shot ho
  report := Option.eq_none_iff_forall_ne_some.mpr fun text he => by
    have ⟨shot, ho, _⟩ := report?_eq_some_iff.mp he
    exact hr shot ho
  log    := fun _ => allows_of_mem_log

-- Whatever the variables ask for and whatever the system answers: if the listing finishes in time there is a report on
-- it, and if not there is none.
theorem in_time_or_no_report (table : Table I) (handler : Handler I σ) (threads : Threads σ) (filter : Log.Filter)
    (lookup : String → Option String) (s : σ) :
    let settings := (Settings.ofLookup lookup).fst
    let o := output filter settings (take table handler threads settings s)
    ((threads.clock (table.uptime.run handler s).state).nanos < 0x4000000000000000 * 1000000000 →
      ∀ uptime listed, Finishes table handler threads settings s uptime listed →
        Prints o settings.listCapacity uptime listed) ∧
    ((∀ uptime listed, ¬Finishes table handler threads settings s uptime listed) → Fails filter o) := by
  intro settings o
  constructor
  case left =>
    intro hc uptime listed hf
    have ⟨millis, hm⟩ : ∃ millis, settings.operationTimeout = .ofMillis millis := ⟨_, rfl⟩
    have hd := hm ▸ Moment.after?_ofMillis hc millis
    have ht : (take table handler threads settings s).outcome = .ok (.ok ⟨uptime, byMemory listed⟩) :=
      take_eq_ok_iff.mpr ⟨⟨_, hd⟩, listed, hf, rfl⟩
    exact prints_of_take ht rfl <| Table.length_le_of_list hf.listing
  case right =>
    intro hn
    refine fails_of_take fun shot ho => ?_
    have ⟨_, listed, hf, _⟩ := take_eq_ok_iff.mp ho
    exact hn shot.uptime listed hf

end Runs

-- A system with two processes of one size and one that is larger, and with a record that names none.
def crowded : Sim.Scripted where
  records      := [.running 10 ⟨"a"⟩ 1, ⟨0, none, 9, .unknown⟩, .running 11 ⟨"\"b\"\n"⟩ 7, .running 12 ⟨"c"⟩ 1,
    .running 13 ⟨"d"⟩ 8]
  memory       := []
  spawns       := []
  terminations := []
  uptime       := .sinceBoot 90
  delay        := .ofMillis 20
  crashes      := false
  clock        := ⟨0⟩

-- Variables with room for fewer processes than there are.
def narrow : String → Option String
  | "HOSTPROC_LIST_CAPACITY" => some "3"
  | _                        => none

-- Variables with no time for a listing.
def hurried : String → Option String
  | "HOSTPROC_TIMEOUT_MS" => some "0"
  | _                     => none

def scripted : Table Delegated.interface :=
  ⟨Delegated.platform "scripted", 1⟩

theorem in_time_or_no_report_crowded :
    let settings := (Settings.ofLookup narrow).fst
    let short := (Settings.ofLookup hurried).fst
    let listed := [.running 10 ⟨"a"⟩ 1, .running 11 ⟨"\"b\"\n"⟩ 7, .running 12 ⟨"c"⟩ 1]
    Finishes scripted Sim.Scripted.handler Sim.Scripted.threads settings crowded (.sinceBoot 90) listed ∧
    Prints (output .standard settings (take scripted Sim.Scripted.handler Sim.Scripted.threads settings crowded)) 3
      (.sinceBoot 90) listed ∧
    (∀ uptime listed, ¬Finishes scripted Sim.Scripted.handler Sim.Scripted.threads short crowded uptime listed) ∧
    Fails .standard
      (output .standard short (take scripted Sim.Scripted.handler Sim.Scripted.threads short crowded)) := by
  intro settings short listed
  have hf : Finishes scripted Sim.Scripted.handler Sim.Scripted.threads settings crowded (.sinceBoot 90) listed :=
    ⟨rfl, rfl, rfl, by decide⟩
  have hn : ∀ uptime listed,
      ¬Finishes scripted Sim.Scripted.handler Sim.Scripted.threads short crowded uptime listed := by
    intro uptime listed hf
    have ht : ¬20000000 < short.operationTimeout.nanos := by decide
    exact ht hf.inTime
  have hp := in_time_or_no_report scripted Sim.Scripted.handler Sim.Scripted.threads .standard narrow crowded
  have hh := in_time_or_no_report scripted Sim.Scripted.handler Sim.Scripted.threads .standard hurried crowded
  exact ⟨hf, hp.left (by decide) _ _ hf, hn, hh.right hn⟩

-- Nothing is printed on standard output.
def Silent (o : Output) : Prop :=
  o.log = [] ∧ o.report? = none

-- The log is written there too, and it tells that the time was over.
theorem overdue_listing_is_not_silent :
    let settings := (Settings.ofLookup hurried).fst
    let run := take scripted Sim.Scripted.handler Sim.Scripted.threads settings crowded
    run.outcome = .ok (.error <| .timedOut 0) ∧ ¬Silent (output (.ofVariable none) settings run) := by
  intro settings run
  have ha : (Log.Filter.ofVariable none).allows (.timedOut 0) = true := by decide
  have hl : run.log = [.noticed <| .timedOut 0] := by decide
  refine ⟨by decide, fun hs => ?_⟩
  have hm : Notice.timedOut 0 ∈ (output (.ofVariable none) settings run).log := by
    rw [output, hl]
    exact List.mem_append_right _ <| List.mem_filter.mpr ⟨List.mem_singleton.mpr rfl, ha⟩
  rw [hs.left] at hm
  exact absurd hm List.not_mem_nil

end Snapshot

end ProcessControl
