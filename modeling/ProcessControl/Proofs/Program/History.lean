import Mathlib.Data.List.Forall2
import ProcessControl.Proofs.Program

namespace ProcessControl

variable {I J : Interface} {σ τ α β γ : Type}

namespace Handler

-- The state of a system that was asked some questions.
def after (handler : Handler I σ) (asked : List I.Call) (s : σ) : σ :=
  asked.foldl (fun s c => (handler c s).snd) s

-- The right one of two systems that share a state.
def right (handler : Handler (J.sum I) σ) : Handler I σ :=
  fun c => handler (.inr c)

theorem after_append (handler : Handler I σ) (front later : List I.Call) (s : σ) :
    handler.after (front ++ later) s = handler.after later (handler.after front s) :=
  List.foldl_append

theorem after_map_inr (handler : Handler (J.sum I) σ) (asked : List I.Call) (s : σ) :
    handler.after (asked.map .inr) s = handler.right.after asked s :=
  List.foldl_map

end Handler

-- The answers are those that the system gives to these questions in this order.
def Answered (handler : Handler I σ) : σ → List I.Exchange → Prop
  | _, []                   => True
  | s, ⟨c, answer⟩ :: later => (handler c s).fst = answer ∧ Answered handler (handler c s).snd later

theorem Answered.append_iff {handler : Handler I σ} {s : σ} {front later : List I.Exchange} :
    Answered handler s (front ++ later) ↔
      Answered handler s front ∧ Answered handler (handler.after (front.map (·.call)) s) later := by
  induction front generalizing s
  case nil => exact (and_iff_right trivial).symm
  case cons e front hi =>
    rw [List.cons_append, Answered, Answered, hi, and_assoc]
    rfl

theorem Answered.exists_of_mem {handler : Handler I σ} {s : σ} {history : List I.Exchange} {e : I.Exchange}
    (h : Answered handler s history) (he : e ∈ history) : ∃ s', (handler e.call s').fst = e.answer := by
  induction history generalizing s
  case nil => cases he
  case cons hi =>
    cases he
    case head    => exact ⟨s, h.left⟩
    case tail he => exact hi h.right he

-- The states that a system goes through during a run, from the first one to the last.
def Run.moments (r : Run I σ α) (handler : Handler I σ) (s : σ) : List σ :=
  r.calls.scanl (fun s c => (handler c s).snd) s

namespace Program

variable {handler : Handler I σ} {s s' s₁ : σ} {p : Program I α} {k : α → Program I β}
  {history front later : List I.Exchange} {a : α} {b : β}

theorem Leads.done (a : α) : (pure a : Program I α).Leads handler s [] a s :=
  pure_iff.mpr ⟨rfl, rfl, rfl⟩

theorem Leads.asked {c : I.Call} {answer : I.Answer c} (h : (handler c s).fst = answer) :
    (call c).Leads handler s [⟨c, answer⟩] answer (handler c s).snd :=
  call_iff.mpr ⟨h, rfl, rfl⟩

theorem Leads.noticed (n : Notice) : (notice n : Program I Unit).Leads handler s [] () s :=
  ⟨rfl, rfl, rfl⟩

theorem Leads.bind (h₁ : p.Leads handler s front a s₁) (h₂ : (k a).Leads handler s₁ later b s') :
    (p >>= k).Leads handler s (front ++ later) b s' :=
  bind_iff.mpr ⟨a, s₁, front, later, h₁, h₂, rfl⟩

theorem Leads.of_pos {c : Prop} {_ : Decidable c} {q : Program I α} (hc : c) (h : p.Leads handler s history a s') :
    (if c then p else q).Leads handler s history a s' := by
  rwa [if_pos hc]

theorem Leads.of_neg {c : Prop} {_ : Decidable c} {q : Program I α} (hc : ¬c) (h : p.Leads handler s history a s') :
    (if c then q else p).Leads handler s history a s' := by
  rwa [if_neg hc]

theorem run_answered (p : Program I α) (s : σ) : Answered handler s (p.run handler s).history := by
  induction p generalizing s
  case done    => trivial
  case halt    => trivial
  case note hi => exact hi s
  case ask hi  => exact ⟨rfl, hi _ _⟩

theorem run_state (p : Program I α) (s : σ) : (p.run handler s).state = handler.after (p.run handler s).calls s := by
  induction p generalizing s
  case done    => rfl
  case halt    => rfl
  case note hi => exact hi s
  case ask hi  => exact hi _ _

theorem Leads.answered (h : p.Leads handler s history a s') : Answered handler s history :=
  h.history ▸ run_answered p s

end Program

namespace Interface.Exchange

-- An exchange with the right one of two interfaces.
def inr (e : I.Exchange) : (J.sum I).Exchange :=
  ⟨.inr e.call, e.answer⟩

theorem map_inr_call (history : List I.Exchange) :
    (history.map (inr (J := J))).map (·.call) = (history.map (·.call)).map Sum.inr := by
  rw [List.map_map, List.map_map]
  rfl

end Interface.Exchange

theorem Answered.of_map_inr {handler : Handler (J.sum I) σ} {s : σ} {history : List I.Exchange}
    (h : Answered handler s (history.map .inr)) : Answered handler.right s history := by
  induction history generalizing s
  case nil       => trivial
  case cons _ hi => exact ⟨h.left, hi h.right⟩

namespace Program

theorem run_inr (handler : Handler (J.sum I) σ) (p : Program I α) (s : σ) :
    let r := p.run handler.right s
    (p.inr : Program (J.sum I) α).run handler s = ⟨r.outcome, r.history.map .inr, r.log, r.state⟩ := by
  induction p generalizing s
  case done => rfl
  case halt => rfl
  case note entry rest hi =>
    exact congrArg (fun r : Run (J.sum I) σ α => { r with log := entry :: r.log }) (hi s)
  case ask call next hi =>
    let e : I.Exchange := ⟨call, (handler.right call s).fst⟩
    exact congrArg (fun r : Run (J.sum I) σ α => { r with history := e.inr :: r.history }) (hi e.answer _)

theorem Leads.inr {handler : Handler (J.sum I) σ} {p : Program I α} {s s' : σ} {history : List I.Exchange} {a : α}
    (h : p.Leads handler.right s history a s') :
    (p.inr : Program (J.sum I) α).Leads handler s (history.map .inr) a s' := by
  have hr := run_inr handler p s
  exact ⟨hr ▸ h.outcome, by rw [hr, ← h.history], hr ▸ h.state⟩

end Program

-- That things were looked at one after the other, and what came of it. How a single one is looked at is said by
-- `look`, which tells a thing, the questions about it, and what they came to.
inductive Surveyed (look : α → List I.Exchange → β → Prop) : List α → List I.Exchange → List β → Prop
  | nil : Surveyed look [] [] []
  | cons {a front b as later bs} : look a front b → Surveyed look as later bs →
    Surveyed look (a :: as) (front ++ later) (b :: bs)

namespace Surveyed

variable {look : α → List I.Exchange → β → Prop} {as : List α} {history : List I.Exchange} {bs : List β}

theorem length_eq (h : Surveyed look as history bs) : bs.length = as.length := by
  induction h
  case nil         => rfl
  case cons _ _ hi => rw [List.length_cons, List.length_cons, hi]

theorem forall_mem (h : Surveyed look as history bs) {P : β → Prop}
    (hp : ∀ a ∈ as, ∀ front b, look a front b → P b) : ∀ b ∈ bs, P b := by
  induction h
  case nil => exact List.forall_mem_nil _
  case cons hl _ hi =>
    have ⟨ha, hl'⟩ := List.forall_mem_cons.mp hp
    exact List.forall_mem_cons.mpr ⟨ha _ _ hl, hi hl'⟩

-- Where the system answers, in whatever state, so that a thing comes to one result, all of them do.
theorem eq_map {handler : Handler I σ} {s : σ} (h : Surveyed look as history bs) (ha : Answered handler s history)
    {f : α → β} (hf : ∀ a ∈ as, ∀ front b s, look a front b → Answered handler s front → b = f a) :
    bs = as.map f := by
  induction h generalizing s
  case nil => rfl
  case cons hl _ hi =>
    have ⟨hb, hf'⟩ := List.forall_mem_cons.mp hf
    have ⟨hfront, hlater⟩ := Answered.append_iff.mp ha
    rw [List.map_cons, hb _ _ _ hl hfront, hi hlater hf']

end Surveyed

theorem Program.mapM_leads {look : α → List I.Exchange → β → Prop} {handler : Handler I σ} {f : α → Program I β}
    {as : List α} (h : ∀ a ∈ as, ∀ s, ∃ front b s', look a front b ∧ (f a).Leads handler s front b s') (s : σ) :
    ∃ history bs s', Surveyed look as history bs ∧ (as.mapM f).Leads handler s history bs s' := by
  induction as generalizing s
  case nil => exact ⟨[], [], s, .nil, .done _⟩
  case cons a as hi =>
    have ⟨ha, has⟩ := List.forall_mem_cons.mp h
    have ⟨front, b, s₁, hl, h₁⟩ := ha s
    have ⟨later, bs, s₂, hs, h₂⟩ := hi has s₁
    refine ⟨front ++ later, b :: bs, s₂, .cons hl hs, ?_⟩
    rw [List.mapM_cons, ← List.append_nil later]
    exact h₁.bind <| h₂.bind <| .done _

end ProcessControl
