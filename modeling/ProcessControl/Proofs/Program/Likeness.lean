import ProcessControl.Proofs.Program.History

namespace ProcessControl

variable {I J : Interface} {σ τ α β γ δ : Type}

-- Two systems that give the same answers whenever both were asked the same before. Some questions are excepted.
def SameBut (excepted : I.Call → Bool) (f : Handler I σ) (s : σ) (g : Handler I τ) (t : τ) : Prop :=
  ∀ asked c, excepted c = false → (f c (f.after asked s)).fst = (g c (g.after asked t)).fst

namespace SameBut

variable {excepted : I.Call → Bool} {f : Handler I σ} {g : Handler I τ} {s : σ} {t : τ}

theorem answer (h : SameBut excepted f s g t) {c : I.Call} (hc : excepted c = false) : (f c s).fst = (g c t).fst :=
  h [] c hc

theorem after (h : SameBut excepted f s g t) (asked : List I.Call) :
    SameBut excepted f (f.after asked s) g (g.after asked t) := by
  intro later c hc
  have ha := h (asked ++ later) c hc
  rwa [Handler.after_append, Handler.after_append] at ha

theorem right {excepted : (J.sum I).Call → Bool} {f : Handler (J.sum I) σ} {g : Handler (J.sum I) τ}
    (h : SameBut excepted f s g t) : SameBut (excepted <| .inr ·) f.right s g.right t := by
  intro asked c hc
  rw [← Handler.after_map_inr, ← Handler.after_map_inr]
  exact h (asked.map .inr) (.inr c) hc

end SameBut

-- Two results are alike, or both runs were stopped for the same reason.
def Alike (R : α → β → Prop) : Except Halt α → Except Halt β → Prop
  | .ok a, .ok b            => R a b
  | .error why, .error why' => why = why'
  | _, _                    => False

-- Two runs that asked the same and came to results that are alike.
structure Paired (R : α → β → Prop) (left : Run I σ α) (right : Run I τ β) : Prop where
  outcome : Alike R left.outcome right.outcome
  calls   : left.calls = right.calls

namespace Program

-- The programs run alike on any two systems that differ only in what is excepted.
structure Steady (excepted : I.Call → Bool) (p : Program I α) (q : Program I β) (R : α → β → Prop) : Prop where
  paired {σ τ : Type} {f : Handler I σ} {g : Handler I τ} {s : σ} {t : τ} :
    SameBut excepted f s g t → Paired R (p.run f s) (q.run g t)

namespace Steady

variable {excepted : I.Call → Bool} {p : Program I α} {q : Program I β} {R : α → β → Prop} {S : γ → δ → Prop}

theorem pure {a : α} {b : β} (h : R a b) : Steady excepted (Pure.pure a) (Pure.pure b) R :=
  ⟨fun _ => ⟨h, rfl⟩⟩

theorem log (entry entry' : LogEntry) : Steady excepted (Program.log entry) (Program.log entry') Eq :=
  ⟨fun _ => ⟨rfl, rfl⟩⟩

theorem call {c : I.Call} (hc : excepted c = false) : Steady excepted (Program.call c) (Program.call c) Eq :=
  ⟨fun h => ⟨h.answer hc, rfl⟩⟩

-- Nothing is known of the answers to a question that is excepted.
theorem probe (c : I.Call) : Steady excepted (Program.call c) (Program.call c) fun _ _ => True :=
  ⟨fun _ => ⟨trivial, rfl⟩⟩

-- Both systems were asked the same in the first part, so they still differ in nothing more in the second one.
theorem bind {k : α → Program I γ} {l : β → Program I δ} (h : Steady excepted p q R)
    (hk : ∀ a b, R a b → Steady excepted (k a) (l b) S) : Steady excepted (p >>= k) (q >>= l) S := by
  refine ⟨fun {σ τ f g s t} hs => ?_⟩
  obtain ⟨ho, hc⟩ := h.paired hs
  rw [run_bind, run_bind, Run.andThen, Run.andThen]
  cases hp : (p.run f s).outcome <;> cases hq : (q.run g t).outcome <;> rw [hp, hq] at ho
  case error.error => exact ⟨ho, hc⟩
  case error.ok    => exact ho.elim
  case ok.error    => exact ho.elim
  case ok.ok a b =>
    have hs' : SameBut excepted f (p.run f s).state g (q.run g t).state := by
      rw [run_state, run_state, ← hc]
      exact hs.after _
    obtain ⟨ho', hc'⟩ := (hk a b ho).paired hs'
    refine ⟨ho', ?_⟩
    simp only [Run.calls, List.map_append] at hc hc' ⊢
    rw [hc, hc']

-- A program that asks nothing that is excepted comes to the same result.
theorem of_asks {p : Program I α} (h : p.Asks (excepted · = false)) : Steady excepted p p Eq := by
  refine ⟨fun {σ τ f g s t} hs => ?_⟩
  induction p generalizing s t
  case done    => exact ⟨rfl, rfl⟩
  case halt    => exact ⟨rfl, rfl⟩
  case note hi => exact ⟨(hi h hs).outcome, (hi h hs).calls⟩
  case ask c next hi =>
    have hn := hi (f c s).fst (h.right _) (hs.after [c])
    simp only [run, ← hs.answer h.left]
    exact ⟨hn.outcome, congrArg (c :: ·) hn.calls⟩

theorem mapM {R : β → β → Prop} {as : List α} {k : α → Program I β} (h : ∀ a ∈ as, Steady excepted (k a) (k a) R) :
    Steady excepted (as.mapM k) (as.mapM k) (List.Forall₂ R) := by
  induction as
  case nil => exact pure .nil
  case cons a as hi =>
    have ⟨ha, has⟩ := List.forall_mem_cons.mp h
    rw [List.mapM_cons]
    exact ha.bind fun _ _ hr => (hi has).bind fun _ _ hrs => pure <| .cons hr hrs

theorem inr {excepted : (J.sum I).Call → Bool} (h : Steady (excepted <| .inr ·) p q R) :
    Steady excepted (p.inr : Program (J.sum I) α) q.inr R := by
  refine ⟨fun hs => ?_⟩
  have ⟨ho, hc⟩ := h.paired hs.right
  rw [run_inr, run_inr]
  refine ⟨ho, ?_⟩
  simp only [Run.calls, Interface.Exchange.map_inr_call] at hc ⊢
  rw [hc]

end Steady

end Program

end ProcessControl
