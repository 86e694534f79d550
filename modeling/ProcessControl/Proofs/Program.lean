import ProcessControl.Program

namespace ProcessControl

-- Goes on from where a run came to, unless it was stopped.
def Run.andThen {I : Interface} {σ α β : Type} (r : Run I σ α) (next : α → σ → Run I σ β) : Run I σ β :=
  match r.outcome with
  | .error why => { r with outcome := .error why }
  | .ok a =>
    let n := next a r.state
    { n with history := r.history ++ n.history, log := r.log ++ n.log }

namespace Program

variable {I J : Interface} {σ α β γ : Type}

theorem bind_done (p : Program I α) : p.bind done = p := by
  induction p
  case done => rfl
  case halt => rfl
  case note entry rest hi => exact congrArg (note entry) hi
  case ask call next hi   => exact congrArg (ask call) <| funext hi

theorem bind_assoc (p : Program I α) (k : α → Program I β) (l : β → Program I γ) :
    (p.bind k).bind l = p.bind fun a => (k a).bind l := by
  induction p
  case done => rfl
  case halt => rfl
  case note entry rest hi => exact congrArg (note entry) hi
  case ask call next hi   => exact congrArg (ask call) <| funext hi

instance : LawfulMonad (Program I) :=
  LawfulMonad.mk' _ bind_done (fun _ _ => rfl) bind_assoc

theorem run_bind {handler : Handler I σ} {s : σ} {p : Program I α} {k : α → Program I β} :
    (p >>= k).run handler s = (p.run handler s).andThen fun a => (k a).run handler := by
  induction p generalizing s
  case done => rfl
  case halt => rfl
  case note entry rest hi =>
    simp only [Bind.bind, bind, run] at hi ⊢
    rw [hi]
    cases h : (rest.run handler s).outcome <;> simp [Run.andThen, h]
  case ask call next hi =>
    simp only [Bind.bind, bind, run] at hi ⊢
    rw [hi]
    cases h : ((next (handler call s).fst).run handler (handler call s).snd).outcome <;> simp [Run.andThen, h]

theorem outcome_bind {handler : Handler I σ} {s : σ} {p : Program I α} {k : α → Program I β} {a : α}
    (h : (p.run handler s).outcome = .ok a) :
    ((p >>= k).run handler s).outcome = ((k a).run handler (p.run handler s).state).outcome := by
  rw [run_bind, Run.andThen, h]

theorem run_ask {handler : Handler I σ} {s : σ} {c : I.Call} {next : I.Answer c → Program I α} {answer : I.Answer c}
    (h : (handler c s).fst = answer) :
    (ask c next).run handler s =
      let r := (next answer).run handler (handler c s).snd
      { r with history := ⟨c, answer⟩ :: r.history } :=
  h ▸ rfl

-- Every question on every path of the tree satisfies `P`. The answers are left open, so this is a
-- statement about all systems at once.
def Asks (P : I.Call → Prop) : Program I α → Prop
  | done _        => True
  | halt _        => True
  | note _ rest   => rest.Asks P
  | ask call next => P call ∧ ∀ answer, (next answer).Asks P

namespace Asks

variable {P : I.Call → Prop} {p : Program I α}

theorem pure (a : α) : (Pure.pure a : Program I α).Asks P :=
  trivial

theorem call {c : I.Call} (h : P c) : (Program.call c).Asks P :=
  ⟨h, fun _ => trivial⟩

theorem log (entry : LogEntry) : (Program.log entry : Program I Unit).Asks P :=
  trivial

theorem bind {k : α → Program I β} (h : p.Asks P) (hk : ∀ a, (k a).Asks P) : (p >>= k).Asks P := by
  induction p
  case done a       => exact hk a
  case halt         => trivial
  case note hi      => exact hi h
  case ask hi       => exact ⟨h.left, fun answer => hi answer (h.right answer)⟩

theorem logAll (entries : List LogEntry) : (Program.logAll entries : Program I Unit).Asks P := by
  induction entries
  case nil       => trivial
  case cons _ hi => exact bind (log _) fun _ => hi

theorem inl {P : (I.sum J).Call → Prop} (h : p.Asks (P <| .inl ·)) : (p.inl : Program (I.sum J) α).Asks P := by
  induction p
  case done    => trivial
  case halt    => trivial
  case note hi => exact hi h
  case ask hi  => exact ⟨h.left, fun answer => hi answer (h.right answer)⟩

theorem inr {P : (J.sum I).Call → Prop} (h : p.Asks (P <| .inr ·)) : (p.inr : Program (J.sum I) α).Asks P := by
  induction p
  case done    => trivial
  case halt    => trivial
  case note hi => exact hi h
  case ask hi  => exact ⟨h.left, fun answer => hi answer (h.right answer)⟩

theorem of_forall (h : ∀ c, P c) (p : Program I α) : p.Asks P := by
  induction p
  case done    => trivial
  case halt    => trivial
  case note hi => exact hi
  case ask hi  => exact ⟨h _, hi⟩

-- What the tree promises, each run keeps.
theorem of_mem_calls {handler : Handler I σ} {s : σ} {c : I.Call}
    (h : p.Asks P) (hc : c ∈ (p.run handler s).calls) : P c := by
  induction p generalizing s <;> simp only [run, Run.calls, List.map_nil, List.not_mem_nil] at hc
  case note hi => exact hi h hc
  case ask call next hi =>
    simp only [List.map_cons, List.mem_cons] at hc
    cases hc
    case inl hc => exact hc ▸ h.left
    case inr hc => exact hi _ (h.right _) hc

end Asks

-- A run that comes to a result, with what was asked on the way and the state in which it ends.
structure Leads (handler : Handler I σ) (p : Program I α) (s : σ) (history : List I.Exchange) (a : α) (s' : σ) :
    Prop where
  outcome : (p.run handler s).outcome = .ok a
  history : (p.run handler s).history = history
  state   : (p.run handler s).state = s'

namespace Leads

variable {handler : Handler I σ} {p : Program I α} {k : α → Program I β} {s s' : σ} {history : List I.Exchange}
  {a a' : α} {b : β}

theorem of_outcome (h : (p.run handler s).outcome = .ok a) :
    p.Leads handler s (p.run handler s).history a (p.run handler s).state :=
  ⟨h, rfl, rfl⟩

theorem pure_iff : (pure a' : Program I α).Leads handler s history a s' ↔ a' = a ∧ history = [] ∧ s' = s where
  mp h   := ⟨Except.ok.inj h.outcome, h.history.symm, h.state.symm⟩
  mpr := fun ⟨ha, hh, hs⟩ => ⟨congrArg _ ha, hh.symm, hs.symm⟩

-- What comes out of two parts went through the first one, then through the second one.
theorem bind_iff : (p >>= k).Leads handler s history b s' ↔ ∃ a s₁ front rest,
    p.Leads handler s front a s₁ ∧ (k a).Leads handler s₁ rest b s' ∧ history = front ++ rest where
  mp := fun ⟨ho, hh, hs⟩ => by
    rw [run_bind, Run.andThen] at ho hh hs
    cases hp : (p.run handler s).outcome
    case error why =>
      rw [hp] at ho
      cases ho
    case ok a =>
      rw [hp] at ho hh hs
      exact ⟨a, _, _, _, of_outcome hp, ⟨ho, rfl, hs⟩, hh.symm⟩
  mpr := fun ⟨a, s₁, front, rest, h₁, h₂, hh⟩ => by
    have hr : (p >>= k).run handler s = (p.run handler s).andThen fun a => (k a).run handler := run_bind
    rw [Run.andThen, h₁.outcome, h₁.history, h₁.state] at hr
    exact ⟨hr ▸ h₂.outcome, by rw [hr, hh, ← h₂.history], hr ▸ h₂.state⟩

theorem call_iff {c : I.Call} {answer : I.Answer c} : (call c).Leads handler s history answer s' ↔
    (handler c s).fst = answer ∧ history = [⟨c, answer⟩] ∧ s' = (handler c s).snd where
  mp h := by
    have ha : (handler c s).fst = answer := Except.ok.inj h.outcome
    exact ⟨ha, ha ▸ h.history.symm, h.state.symm⟩
  mpr := fun ⟨ha, hh, hs⟩ => ⟨congrArg _ ha, by rw [hh, ← ha]; rfl, hs.symm⟩

end Leads

end Program

end ProcessControl
