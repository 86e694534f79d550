import ProcessControl.Proofs.Linux.Defunct
import ProcessControl.Proofs.Unix.Kill

namespace ProcessControl.Unix

-- A process that has ended is a zombie until it is collected.
inductive Phase
  | alive
  | zombie
  | gone
deriving DecidableEq, Repr

namespace Phase

def age : Phase → Nat
  | alive  => 0
  | zombie => 1
  | gone   => 2

instance : LE Phase := ⟨fun p q => p.age ≤ q.age⟩

instance (p q : Phase) : Decidable (p ≤ q) := inferInstanceAs <| Decidable (p.age ≤ q.age)

variable {p q r : Phase}

theorem le_trans (h₁ : p ≤ q) (h₂ : q ≤ r) : p ≤ r :=
  Nat.le_trans h₁ h₂

theorem zombie_le_iff : zombie ≤ p ↔ p ≠ alive := by
  cases p
  case alive  => exact ⟨fun h => absurd h (by decide), fun h => absurd rfl h⟩
  case zombie => exact ⟨fun _ => nofun, fun _ => Nat.le_refl _⟩
  case gone   => exact ⟨fun _ => nofun, fun _ => Nat.le_succ _⟩

theorem gone_le_iff : gone ≤ p ↔ p = gone := by
  cases p
  case alive  => exact ⟨fun h => absurd h (by decide), nofun⟩
  case zombie => exact ⟨fun h => absurd h (by decide), nofun⟩
  case gone   => exact ⟨fun _ => rfl, fun _ => Nat.le_refl _⟩

-- What the kernel says to any signal. A zombie still takes signals.
def answer : Phase → Except Errno Unit
  | gone => .error .noSuchProcess
  | _    => .ok ()

theorem answer_of_gone_le (h : gone ≤ p) : p.answer = .error .noSuchProcess := by
  rw [gone_le_iff.mp h]
  rfl

theorem isGone_answer_iff : isGone p.answer = true ↔ p = gone := by
  cases p <;> decide

end Phase

variable {J : Interface} {σ α : Type} {handler : Handler (interface.sum J) σ} {isDefunct : Pid → Program J Bool}
  {pid : Pid} {phase : σ → Phase}

-- A system in which the process only ever gets older. It may do so before and after any question is answered, so the
-- answer is that of some phase on the way.
structure Mortal (handler : Handler (interface.sum J) σ) (isDefunct : Pid → Program J Bool) (pid : Pid)
    (phase : σ → Phase) : Prop where
  ages : ∀ call s, phase s ≤ phase (handler call s).snd
  signalled : ∀ signal s, ∃ p : Phase,
    phase s ≤ p ∧ p ≤ phase (handler (.inl <| .signal (Int32.ofNat pid.toNat) signal) s).snd ∧
    (handler (.inl <| .signal (Int32.ofNat pid.toNat) signal) s).fst = p.answer
  checked : ∀ s, ∃ p : Phase,
    phase s ≤ p ∧ p ≤ phase ((isDefunct pid).inr.run handler s).state ∧
    ((isDefunct pid).inr.run handler s).outcome = .ok (p == .zombie)

-- The time is what a wait asks for last when it gives up, and only then.
def HasSettled (r : Run (interface.sum J) σ α) : Prop :=
  r.calls.getLast? ≠ some (.inl .clock)

section Settle

variable {target : Int32} {deadline : Moment} {polls : Nat} {s s' : σ} {history : List (interface.sum J).Exchange}
  {b : Bool}

-- How one look at a killed process ends a wait, or goes on with it.
inductive Look (handler : Handler (interface.sum J) σ) (isDefunct : Pid → Program J Bool) (pid : Pid)
    (target : Int32) (deadline : Moment) (polls : Nat) (s : σ) : List (interface.sum J).Exchange → Bool → σ → Prop
  | gone (h : isGone (handler (.inl <| .signal target .null) s).fst = true) :
    Look handler isDefunct pid target deadline polls s
      [⟨.inl <| .signal target .null, (handler (.inl <| .signal target .null) s).fst⟩] true
      (handler (.inl <| .signal target .null) s).snd
  | defunct {seen : List (interface.sum J).Exchange} {s' : σ}
      (h : (isDefunct pid).inr.Leads handler (handler (.inl <| .signal target .null) s).snd seen true s') :
    Look handler isDefunct pid target deadline polls s
      (⟨.inl <| .signal target .null, (handler (.inl <| .signal target .null) s).fst⟩ :: seen) true s'
  | late {seen : List (interface.sum J).Exchange} {now : Moment} {s' : σ} :
    Look handler isDefunct pid target deadline polls s (seen ++ [⟨.inl .clock, now⟩]) false s'
  | again {seen rest : List (interface.sum J).Exchange} {b : Bool} {s₁ s' : σ}
      (h : (settle pid target isDefunct deadline polls).Leads handler s₁ rest b s') :
    Look handler isDefunct pid target deadline polls s (seen ++ rest) b s'

theorem settle_look (h : (settle pid target isDefunct deadline (polls + 1)).Leads handler s history b s') :
    Look handler isDefunct pid target deadline polls s history b s' := by
  rw [settle] at h
  have ⟨answer, s₁, front, rest, hn, h₁, hh⟩ := Program.Leads.bind_iff.mp h
  have ⟨ha, hf, hs⟩ := Program.Leads.call_iff (I := interface.sum J) (c := .inl _) |>.mp hn
  subst ha hf hs hh
  split at h₁
  case isTrue hg =>
    have ⟨hb, hr, hs⟩ := Program.Leads.pure_iff.mp h₁
    subst hb hr hs
    exact .gone hg
  case isFalse =>
    have ⟨defunct, s₂, seen, rest, hd, h₂, hh⟩ := Program.Leads.bind_iff.mp h₁
    subst hh
    split at h₂
    case isTrue ht =>
      have ⟨hb, hr, hs⟩ := Program.Leads.pure_iff.mp h₂
      subst hb hr hs ht
      rw [List.append_nil]
      exact .defunct hd
    case isFalse =>
      have ⟨now, s₃, front, rest, hn, h₃, hh⟩ := Program.Leads.bind_iff.mp h₂
      have ⟨_, hf, _⟩ := Program.Leads.call_iff (I := interface.sum J) (c := .inl _) |>.mp hn
      subst hf hh
      split at h₃
      case isTrue =>
        have ⟨hb, hr, _⟩ := Program.Leads.pure_iff.mp h₃
        subst hb hr
        rw [List.append_nil, ← List.append_assoc]
        exact .late
      case isFalse =>
        have ⟨_, _, front, rest, _, h₄, hh⟩ := Program.Leads.bind_iff.mp h₃
        subst hh
        rw [← List.append_assoc, ← List.append_assoc, ← List.append_assoc]
        exact .again h₄

-- What a check asks is its own affair and not the time.
theorem call_ne_clock_of_leads {p : Program J α} {a : α} {seen : List (interface.sum J).Exchange}
    (h : p.inr.Leads handler s seen a s') {e : (interface.sum J).Exchange} (he : e ∈ seen) :
    e.call ≠ .inl .clock := by
  have hp : (p.inr : Program (interface.sum J) α).Asks fun c => c ≠ Sum.inl .clock :=
    Program.Asks.inr <| Program.Asks.of_forall (fun _ => Sum.inr_ne_inl) p
  have hc : e.call ∈ (p.inr.run handler s).calls := by
    rw [Run.calls, h.history]
    exact List.mem_map_of_mem he
  exact hp.of_mem_calls hc

theorem settle_last (h : (settle pid target isDefunct deadline polls).Leads handler s history b s') :
    ∃ e, history.getLast? = some e ∧ (e.call = .inl .clock ↔ b = false) := by
  induction polls generalizing s history
  case zero => cases h.outcome
  case succ polls hi =>
    cases settle_look h
    case gone => exact ⟨_, rfl, nofun, nofun⟩
    case defunct seen hd =>
      refine ⟨_, List.getLast?_cons, fun hc => ?_, nofun⟩
      cases List.mem_cons.mp <| List.mem_of_getLast? List.getLast?_cons
      case inl he => cases he ▸ hc
      case inr he => exact absurd hc <| call_ne_clock_of_leads hd he
    case late seen now =>
      exact ⟨⟨.inl .clock, now⟩, List.getLast?_concat, fun _ => rfl, fun _ => rfl⟩
    case again hr =>
      have ⟨e, he, hc⟩ := hi hr
      exact ⟨e, by rw [List.getLast?_append, he]; rfl, hc⟩

theorem kill_leads_ok (h : (kill isDefunct pid polls).Leads handler s history (.ok ()) s') :
    ∃ deadline s₁ front rest b,
      (settle pid (Int32.ofNat pid.toNat) isDefunct deadline polls).Leads handler s₁ rest b s' ∧
      history = front ++ rest := by
  rw [kill] at h
  split at h
  case h_1 => cases h.outcome
  case h_2 target ht =>
    obtain ⟨_, _, ht⟩ := Pid.target?_eq_some_iff.mp ht
    subst ht
    obtain ⟨defunct, s₁, front₁, _, _, h₁, hh₁⟩ := Program.Leads.bind_iff.mp h
    split at h₁
    case isTrue => cases h₁.outcome
    case isFalse =>
      obtain ⟨answer, s₂, front₂, _, _, h₂, hh₂⟩ := Program.Leads.bind_iff.mp h₁
      cases answer
      case error => cases h₂.outcome
      case ok =>
        obtain ⟨start, s₃, front₃, _, _, h₃, hh₃⟩ := Program.Leads.bind_iff.mp h₂
        obtain ⟨b, s₄, rest, _, hs, h₄, hh₄⟩ := Program.Leads.bind_iff.mp h₃
        obtain ⟨_, hr, he⟩ := Program.Leads.pure_iff.mp h₄
        subst hr he
        refine ⟨_, s₃, front₁ ++ front₂ ++ front₃, rest, b, hs, ?_⟩
        rw [hh₁, hh₂, hh₃, hh₄]
        simp only [List.append_nil, List.append_assoc]

end Settle

namespace Mortal

variable {deadline : Moment} {polls : Nat} {s s' : σ} {history : List (interface.sum J).Exchange}

theorem run_ages (m : Mortal handler isDefunct pid phase) (p : Program (interface.sum J) α) :
    phase s ≤ phase (p.run handler s).state := by
  induction p generalizing s
  case done            => exact Nat.le_refl _
  case halt            => exact Nat.le_refl _
  case note hi         => exact hi
  case ask call _ hi   => exact Phase.le_trans (m.ages call s) (hi _)

-- Both ways to see that a wait is over show a process that has ended.
theorem zombie_le_of_settle (m : Mortal handler isDefunct pid phase)
    (h : (settle pid (Int32.ofNat pid.toNat) isDefunct deadline polls).Leads handler s history true s') :
    .zombie ≤ phase s' := by
  induction polls generalizing s history
  case zero => cases h.outcome
  case succ polls hi =>
    cases settle_look h
    case gone hg =>
      have ⟨p, _, hp, ha⟩ := m.signalled .null s
      rw [ha, Phase.isGone_answer_iff] at hg
      exact Phase.le_trans (hg ▸ by decide) hp
    case defunct hd =>
      have ⟨p, _, hp, ho⟩ := m.checked (handler (.inl <| .signal (Int32.ofNat pid.toNat) .null) s).snd
      have hz : (p == .zombie) = true := Except.ok.inj <| ho ▸ hd.outcome
      rw [hd.state] at hp
      exact beq_iff_eq.mp hz ▸ hp
    case again hr => exact hi hr

theorem kill_of_zombie_le (m : Mortal handler isDefunct pid phase) (h₀ : 1 ≤ pid.toNat) (h₁ : pid.toNat ≤ 0x7FFFFFFF)
    (h : .zombie ≤ phase s) :
    ((kill isDefunct pid polls).run handler s).outcome = .ok (.error <| .notFound pid) := by
  have ht : pid.target? = some (Int32.ofNat pid.toNat) := Pid.target?_eq_some_iff.mpr ⟨h₀, h₁, rfl⟩
  have ⟨p, hp, hp', hc⟩ := m.checked s
  simp only [kill, ht]
  rw [Program.outcome_bind hc]
  cases p
  case alive  => exact absurd rfl <| Phase.zombie_le_iff.mp <| Phase.le_trans h hp
  case zombie => rfl
  case gone =>
    -- The check does not tell a process that is gone, but the signal does.
    obtain ⟨q, hq, _, ha⟩ := m.signalled .kill ((isDefunct pid).inr.run handler s).state
    rw [Phase.answer_of_gone_le <| Phase.le_trans hp' hq] at ha
    have ho : ((sendSignal (Int32.ofNat pid.toNat) .kill).inl.run handler
        ((isDefunct pid).inr.run handler s).state).outcome = .ok (.error .noSuchProcess) :=
      congrArg Except.ok ha
    rw [if_neg (by decide), Program.outcome_bind ho]
    rfl

theorem zombie_le_of_kill (m : Mortal handler isDefunct pid phase)
    (h : ((kill isDefunct pid polls).run handler s).outcome = .ok (.ok ()))
    (hs : HasSettled ((kill isDefunct pid polls).run handler s)) :
    .zombie ≤ phase ((kill isDefunct pid polls).run handler s).state := by
  have ⟨deadline, s₁, front, rest, b, hw, hh⟩ := kill_leads_ok <| Program.Leads.of_outcome h
  have ⟨e, he, hc⟩ := settle_last hw
  cases b
  case true => exact m.zombie_le_of_settle hw
  case false =>
    refine absurd ?_ hs
    rw [Run.calls, hh, List.map_append, List.getLast?_append, List.getLast?_map, he]
    exact congrArg some <| hc.mpr rfl

end Mortal

theorem killed_is_not_found_again (m : Mortal handler isDefunct pid phase) (h₀ : 1 ≤ pid.toNat)
    (h₁ : pid.toNat ≤ 0x7FFFFFFF) (polls : Nat) (s : σ) :
    (phase s ≠ .alive →
      ((kill isDefunct pid polls).run handler s).outcome = .ok (.error <| .notFound pid)) ∧
    (((kill isDefunct pid polls).run handler s).outcome = .ok (.ok ()) →
      HasSettled ((kill isDefunct pid polls).run handler s) →
      ∀ (between : Program (interface.sum J) Unit) (polls' : Nat),
        ((kill isDefunct pid polls').run handler
            (between.run handler ((kill isDefunct pid polls).run handler s).state).state).outcome =
          .ok (.error <| .notFound pid)) := by
  constructor
  case left =>
    intro h
    exact m.kill_of_zombie_le h₀ h₁ <| Phase.zombie_le_iff.mpr h
  case right =>
    intro ho hs between polls'
    exact m.kill_of_zombie_le h₀ h₁ <| Phase.le_trans (m.zombie_le_of_kill ho hs) (m.run_ages between)

namespace Phase

def older : Phase → Phase
  | alive => zombie
  | _     => gone

theorem le_older (p : Phase) : p ≤ p.older := by
  cases p <;> decide

-- What the process file system shows of a process.
def stat (pid : Pid) : Phase → Except PathFailure (List UInt8)
  | alive  => .ok <| Linux.statLine pid (Text.Utf8.encode "sleep".toList) 'S' (Text.Utf8.encode "1".toList)
  | zombie => .ok <| Linux.statLine pid (Text.Utf8.encode "sleep".toList) 'Z' (Text.Utf8.encode "1".toList)
  | gone   => .error <| .system .noSuchEntry

end Phase

-- What lies before a process: after which questions it gets older.
structure Fate where
  phase : Phase
  moves : List Bool

def Fate.next (f : Fate) : Fate :=
  match f.moves with
  | []            => f
  | true :: rest  => ⟨f.phase.older, rest⟩
  | false :: rest => ⟨f.phase, rest⟩

theorem Fate.le_next (f : Fate) : f.phase ≤ f.next.phase := by
  unfold next
  split
  case h_1 => exact Nat.le_refl _
  case h_2 => exact f.phase.le_older
  case h_3 => exact Nat.le_refl _

-- A system with one process, on which no time passes.
def fated (pid : Pid) : Handler (interface.sum Linux.files) Fate
  | .inl (.signal _ _), f => (f.phase.answer, f.next)
  | .inl .clock, f        => (⟨0⟩, f.next)
  | .inl (.pause _), f    => ((), f.next)
  | .inl (.start _), f    => (.error .permissionDenied, f.next)
  | .inl .wallClock, f    => ((0 : UInt64), f.next)
  | .inr .listRoot, f     => (.ok [], f.next)
  | .inr (.readFile _), f => (f.phase.stat pid, f.next)
  | .inr .bootClock, f    => (.ok 0, f.next)
  | .inr .pageSize, f     => (.ok none, f.next)

theorem fated_mortal : Mortal (fated 42) Linux.isDefunct 42 Fate.phase where
  ages call f      := by cases call <;> rename_i call <;> cases call <;> exact f.le_next
  signalled _ f    := ⟨f.phase, Nat.le_refl _, f.le_next, rfl⟩
  checked := by
    intro ⟨phase, moves⟩
    cases phase
    case alive  => exact ⟨_, Nat.le_refl _, Fate.le_next ⟨.alive, moves⟩, rfl⟩
    case zombie => exact ⟨_, Nat.le_refl _, Fate.le_next ⟨.zombie, moves⟩, rfl⟩
    case gone   => exact ⟨_, Nat.le_refl _, Fate.le_next ⟨.gone, moves⟩, rfl⟩

-- The process dies of the signal, is seen as a zombie, and is collected before the second kill. One that had died
-- before is collected while it is checked.
theorem killed_is_not_found_again_at_42 :
    let fate : Fate := ⟨.alive, [false, true, false, false, true]⟩
    let corpse : Fate := ⟨.zombie, [true]⟩
    let first := (kill Linux.isDefunct 42 3).run (fated 42) fate
    Mortal (fated 42) Linux.isDefunct 42 Fate.phase ∧
    first.outcome = .ok (.ok ()) ∧ HasSettled first ∧ first.state.phase = .gone ∧
    ((kill Linux.isDefunct 42 3).run (fated 42) first.state).outcome = .ok (.error <| .notFound 42) ∧
    ((kill Linux.isDefunct 42 3).run (fated 42) corpse).outcome = .ok (.error <| .notFound 42) := by
  intro fate corpse first
  have ho : first.outcome = .ok (.ok ()) := rfl
  have hs : HasSettled first := by
    simp only [HasSettled]
    exact fun h => nomatch h
  have h := killed_is_not_found_again fated_mortal (by decide) (by decide) 3
  exact ⟨fated_mortal, ho, hs, rfl, (h fate).right ho hs (.done ()) 3, (h corpse).left nofun⟩

end ProcessControl.Unix
