import MmuFirmware.Lib.Transducer

/-!
Forward simulation: a machine implements another one if each of its steps amounts to a step of
the other, which may depend on the state it is taken in, between related states.
-/

namespace Transducer

variable {σ τ α β γ δ : Type*} (step : σ → α → σ × β) (step' : τ → γ → τ × δ)

/-- The steps of the other machine that a run amounts to. -/
def viewed (view : σ → α → γ) (s : σ) (as : List α) : List γ :=
  (steps step s as).map fun p => view p.1 p.2

@[simp] theorem viewed_nil (view : σ → α → γ) (s : σ) : viewed step view s [] = [] := rfl

@[simp] theorem viewed_cons (view : σ → α → γ) (s : σ) (a : α) (as : List α) :
    viewed step view s (a :: as) = view s a :: viewed step view (step s a).1 as := rfl

/-- Related states stay related along every run, if each of its steps may be taken and so may
what it amounts to. -/
theorem run_refines (R : σ → τ → Prop) (view : σ → α → γ) (Assume : σ → α → Prop)
    (Permits : τ → γ → Prop)
    (hstep : ∀ s t a, R s t → Assume s a → Permits t (view s a) →
      R (step s a).1 (step' t (view s a)).1)
    (s : σ) (t : τ) (h : R s t) (as : List α) (hassume : ∀ p ∈ steps step s as, Assume p.1 p.2)
    (hpermits : ∀ p ∈ steps step' t (viewed step view s as), Permits p.1 p.2) :
    R (run step s as) (run step' t (viewed step view s as)) := by
  induction as generalizing s t with
  | nil => exact h
  | cons a as ih =>
      rw [steps_cons, List.forall_mem_cons] at hassume
      rw [viewed_cons, steps_cons, List.forall_mem_cons] at hpermits
      rw [viewed_cons, run_cons, run_cons]
      exact ih _ _ (hstep s t a h hassume.1 hpermits.1) hassume.2 hpermits.2

/-- The steps of the other machine that a run amounts to, where a step may amount to none or to
several. -/
def expanded (view : σ → α → List γ) (s : σ) (as : List α) : List γ :=
  (steps step s as).flatMap fun p => view p.1 p.2

@[simp] theorem expanded_nil (view : σ → α → List γ) (s : σ) : expanded step view s [] = [] := rfl

@[simp] theorem expanded_cons (view : σ → α → List γ) (s : σ) (a : α) (as : List α) :
    expanded step view s (a :: as) = view s a ++ expanded step view (step s a).1 as := rfl

/-- Related states stay related if each step amounts to some steps of the other machine. -/
theorem run_expands (R : σ → τ → Prop) (view : σ → α → List γ)
    (hstep : ∀ s t a, R s t → R (step s a).1 (run step' t (view s a))) (s : σ) (t : τ)
    (h : R s t) (as : List α) : R (run step s as) (run step' t (expanded step view s as)) := by
  induction as generalizing s t with
  | nil => exact h
  | cons a as ih =>
      rw [expanded_cons, run_cons, run_append]
      exact ih _ _ (hstep s t a h)

end Transducer
