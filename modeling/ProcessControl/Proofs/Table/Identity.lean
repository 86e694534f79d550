import ProcessControl.Proofs.Deadline
import ProcessControl.Proofs.Table.Gate

namespace ProcessControl.Table

variable {I : Interface} {σ : Type} {t : Table I} {handler : Handler I σ} {threads : Threads σ} {s : σ}

-- The records that are handed back. What of a destination was not written is the caller's own.
def Reply.records : Reply → List Record
  | .spawned (.ok r)             => [r]
  | .listed records              => records
  | .written count dest          => dest.take count
  | .listedWithin (.ok records)  => records
  | _                            => []

section Listings

variable {max : UInt64} {records : List Record} {r : Record}

theorem pid_ne_zero_of_mem_select (h : r ∈ select max records) : r.pid ≠ 0 := by
  have hf := (List.mem_filter.mp <| List.mem_of_mem_take h).right
  simpa using hf

theorem pid_ne_zero_of_list (h : ((t.list max).run handler s).outcome = .ok records) (hr : r ∈ records) :
    r.pid ≠ 0 := by
  have ⟨_, he⟩ := exists_eq_select t handler s h
  exact pid_ne_zero_of_mem_select <| he ▸ hr

theorem pid_ne_zero_of_listInto {dest written : List Record} {count : Nat}
    (h : ((t.listInto dest).run handler s).outcome = .ok (count, written)) (hr : r ∈ written.take count) :
    r.pid ≠ 0 := by
  by_cases hd : dest = []
  case pos =>
    subst hd
    cases h
    cases hr
  case neg =>
    rw [(listInto_passes t handler s hd).outcome] at h
    cases he : ((t.list <| UInt64.ofNat dest.length).run handler s).outcome <;> rw [he] at h <;> cases h
    case ok =>
      rw [List.take_left] at hr
      exact pid_ne_zero_of_list he hr

theorem pid_ne_zero_of_listWithin {timeout : Duration}
    (h : (t.listWithin handler threads max timeout s).outcome = .ok (.ok records)) (hr : r ∈ records) : r.pid ≠ 0 := by
  cases hs : threads.start s
  case error why =>
    rw [listWithin_of_refused hs] at h
    cases h
  case ok =>
    rw [listWithin_of_start hs] at h
    have ⟨_, hj, _, _, he⟩ := Job.within_eq_ok_iff.mp h
    rw [← Except.ok.inj hj] at he
    cases hl : ((t.list max).run handler s).outcome <;> rw [hl] at he <;> cases he
    case ok => exact pid_ne_zero_of_list hl hr

end Listings

variable {request : Request} {reply : Reply} {r : Record}

theorem pid_ne_zero_of_serve (hs : ∀ command, request ≠ .spawn command)
    (h : (t.serve handler threads request s).outcome = .ok reply) (hr : r ∈ reply.records) : r.pid ≠ 0 := by
  cases request <;> have ⟨a, ha, hb⟩ := Run.outcome_map h <;> subst hb
  case spawn command => exact absurd rfl <| hs command
  case terminate     => cases hr
  case list          => exact pid_ne_zero_of_list ha hr
  case listInto      => exact pid_ne_zero_of_listInto ha hr
  case listWithin =>
    cases a
    case error => cases hr
    case ok    => exact pid_ne_zero_of_listWithin ha hr
  case memoryOf => cases hr
  case uptime   => cases hr
  case yieldNow => cases hr

theorem outcome_serve_spawn_iff {command : String} :
    (t.serve handler threads (.spawn command) s).outcome = .ok (.spawned <| .ok r) ↔
      Startable command ∧ ((t.platform.spawn command).run handler s).outcome = .ok (.ok r) := by
  have hf : (Request.spawn command).Fits := trivial
  have ⟨hp, hn⟩ : Gated t handler threads s (.spawn command) (t.serve handler threads (.spawn command) s) :=
    serve_gated hf s
  by_cases hs : Startable command
  case pos =>
    rw [(hp hs).outcome]
    cases ((t.platform.spawn command).run handler s).outcome
    case error => exact ⟨nofun, fun h => nomatch h.right⟩
    case ok result =>
      constructor
      case mp  => exact fun h => ⟨hs, by cases h; rfl⟩
      case mpr => exact fun h => by cases h.right; rfl
  case neg =>
    have ⟨why, hw⟩ := hn hs
    rw [hw.outcome]
    exact ⟨nofun, fun h => absurd h.left hs⟩

theorem zero_of_serve_iff :
    (∃ reply, (t.serve handler threads request s).outcome = .ok reply ∧ ∃ r ∈ reply.records, r.pid = 0) ↔
      ∃ command r, request = .spawn command ∧ Startable command ∧ r.pid = 0 ∧
        ((t.platform.spawn command).run handler s).outcome = .ok (.ok r) where
  mp := fun ⟨reply, ho, r, hr, hz⟩ => by
    by_cases hs : ∃ command, request = .spawn command
    case neg => exact absurd hz <| pid_ne_zero_of_serve (fun command hc => hs ⟨command, hc⟩) ho hr
    case pos =>
      have ⟨command, hc⟩ := hs
      subst hc
      have ⟨result, _, hb⟩ := Run.outcome_map ho
      subst hb
      cases result
      case error => cases hr
      case ok =>
        cases List.mem_singleton.mp hr
        have ⟨hs, hp⟩ := outcome_serve_spawn_iff.mp ho
        exact ⟨command, r, rfl, hs, hz, hp⟩
  mpr := fun ⟨command, r, hc, hs, hz, hp⟩ =>
    ⟨.spawned <| .ok r, hc ▸ outcome_serve_spawn_iff.mpr ⟨hs, hp⟩, r, .head _, hz⟩

theorem zero_is_handed_back_iff (t : Table I) (handler : Handler I σ) (threads : Threads σ) (requests : List Request)
    (s : σ) : ∀ entry ∈ t.session handler threads requests s, ∃ s', entry.2 = t.serve handler threads entry.1 s' ∧
      ((∃ reply, entry.2.outcome = .ok reply ∧ ∃ r ∈ reply.records, r.pid = 0) ↔
        ∃ command r, entry.1 = .spawn command ∧ Startable command ∧ r.pid = 0 ∧
          ((t.platform.spawn command).run handler s').outcome = .ok (.ok r)) := by
  intro entry he
  have ⟨s', hs⟩ := exists_serve_of_mem_session he
  exact ⟨s', hs, hs ▸ zero_of_serve_iff⟩

-- A platform that lists an idle process, and gives the next process that it starts no identifier either.
def idling : Sim.Scripted :=
  ⟨[.running 0 ⟨"idle"⟩ 0, .running 10 ⟨"a"⟩ 1], [], [.ok (0, 0)], [], .sinceBoot 0, .ofMillis 0, false, ⟨0⟩⟩

def scripted : Table Delegated.interface :=
  ⟨Delegated.platform "scripted", 7⟩

def listAndSpawn : List (Request × Run Delegated.interface Sim.Scripted Reply) :=
  scripted.session Sim.Scripted.handler Sim.Scripted.threads [.list 3, .spawn "true"] idling

theorem zero_is_handed_back_iff_listAndSpawn :
    let listing := scripted.serve Sim.Scripted.handler Sim.Scripted.threads (.list 3) idling
    (.list 3, listing) ∈ listAndSpawn ∧ listing.outcome = .ok (.listed [.running 10 ⟨"a"⟩ 1]) ∧
    ∃ s', listing = scripted.serve Sim.Scripted.handler Sim.Scripted.threads (.list 3) s' ∧
      ((∃ reply, listing.outcome = .ok reply ∧ ∃ r ∈ reply.records, r.pid = 0) ↔
        ∃ command r, .list 3 = Request.spawn command ∧ Startable command ∧ r.pid = 0 ∧
          ((scripted.platform.spawn command).run Sim.Scripted.handler s').outcome = .ok (.ok r)) := by
  intro listing
  have hm : (.list 3, listing) ∈ listAndSpawn := .head _
  exact ⟨hm, rfl, zero_is_handed_back_iff scripted Sim.Scripted.handler Sim.Scripted.threads _ idling _ hm⟩

-- The listing is freed of the idle process, the spawn is not.
theorem zero_is_handed_back_by_spawn :
    ¬∀ entry ∈ listAndSpawn, ∀ reply, entry.2.outcome = .ok reply → ∀ r ∈ reply.records, r.pid ≠ 0 := by
  intro h
  exact h _ (.tail _ <| .head _) (.spawned <| .ok <| .running 0 ⟨"true"⟩ 0) rfl _ (.head _) rfl

end ProcessControl.Table
