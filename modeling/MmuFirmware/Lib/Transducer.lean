import Mathlib.Data.List.Induction

/-!
Deterministic transducers. A step consumes one input and yields the next state together
with one output; `run` is the state after a whole input and `trace` pairs the output of
every step with the state the step leads to.

The rules below are the only inductions over an input stream: composition along an append,
invariants that may mention the input read so far, and streams made of encoded items each
of which takes a ready state back to a ready state.
-/
namespace Transducer

variable {σ α β γ ι : Type*} (step : σ → α → σ × β)

def run : σ → List α → σ
  | s, [] => s
  | s, a :: as => run (step s a).1 as

def trace : σ → List α → List (β × σ)
  | _, [] => []
  | s, a :: as => ((step s a).2, (step s a).1) :: trace (step s a).1 as

@[simp] theorem run_nil (s : σ) : run step s [] = s := rfl

@[simp] theorem run_cons (s : σ) (a : α) (as : List α) :
    run step s (a :: as) = run step (step s a).1 as := rfl

@[simp] theorem trace_nil (s : σ) : trace step s [] = [] := rfl

@[simp] theorem trace_cons (s : σ) (a : α) (as : List α) :
    trace step s (a :: as) =
      ((step s a).2, (step s a).1) :: trace step (step s a).1 as := rfl

@[simp] theorem run_append (s : σ) (as bs : List α) :
    run step s (as ++ bs) = run step (run step s as) bs := by
  induction as generalizing s with
  | nil => rfl
  | cons a as ih => simp only [List.cons_append, run_cons, ih]

@[simp] theorem trace_append (s : σ) (as bs : List α) :
    trace step s (as ++ bs) = trace step s as ++ trace step (run step s as) bs := by
  induction as generalizing s with
  | nil => rfl
  | cons a as ih => simp only [List.cons_append, trace_cons, run_cons, ih]

@[simp] theorem length_trace (s : σ) (as : List α) :
    (trace step s as).length = as.length := by
  induction as generalizing s with
  | nil => rfl
  | cons a as ih => simp [ih]

theorem mem_trace_iff (s : σ) (as : List α) (o : β × σ) :
    o ∈ trace step s as ↔
      ∃ pre a post, as = pre ++ a :: post ∧
        o = ((step (run step s pre) a).2, (step (run step s pre) a).1) := by
  induction as generalizing s with
  | nil => simp
  | cons a as ih =>
      rw [trace_cons, List.mem_cons, ih]
      constructor
      · rintro (rfl | ⟨pre, b, post, rfl, rfl⟩)
        · exact ⟨[], a, as, rfl, rfl⟩
        · exact ⟨a :: pre, b, post, rfl, rfl⟩
      · rintro ⟨pre, b, post, heq, rfl⟩
        cases pre with
        | nil =>
            obtain ⟨rfl, rfl⟩ := List.cons.inj heq
            exact .inl rfl
        | cons c pre =>
            obtain ⟨rfl, rfl⟩ := List.cons.inj heq
            exact .inr ⟨pre, b, post, rfl, rfl⟩

/-- An invariant of the state and of the input read so far. -/
theorem run_invariant (I : σ → List α → Prop) (s : σ) (hstart : I s [])
    (hstep : ∀ t pre a, I t pre → I (step t a).1 (pre ++ [a])) (as : List α) :
    I (run step s as) as := by
  induction as using List.reverseRecOn with
  | nil => exact hstart
  | append_singleton as a ih => simpa using hstep _ _ a ih

/-- Every step of a run: the state it is taken in and its input. -/
def steps : σ → List α → List (σ × α)
  | _, [] => []
  | s, a :: as => (s, a) :: steps (step s a).1 as

@[simp] theorem steps_nil (s : σ) : steps step s [] = [] := rfl

@[simp] theorem steps_cons (s : σ) (a : α) (as : List α) :
    steps step s (a :: as) = (s, a) :: steps step (step s a).1 as := rfl

theorem steps_append (s : σ) (as bs : List α) :
    steps step s (as ++ bs) = steps step s as ++ steps step (run step s as) bs := by
  induction as generalizing s with
  | nil => rfl
  | cons a as ih => simp only [List.cons_append, steps_cons, run_cons, ih]

theorem snd_mem_of_mem_steps {s : σ} {as : List α} {p : σ × α} (h : p ∈ steps step s as) :
    p.2 ∈ as := by
  induction as generalizing s with
  | nil => simp at h
  | cons a as ih =>
      rw [steps_cons, List.mem_cons] at h
      rcases h with rfl | h
      · exact List.mem_cons_self
      · exact List.mem_cons_of_mem a (ih h)

/-- What every step guarantees, given the invariant and an assumption on the step, every step
of a run guarantees all steps of which meet the assumption. -/
theorem steps_guarantee (I : σ → Prop) (Assume Guarantee : σ → α → Prop)
    (hstep : ∀ s a, I s → Assume s a → I (step s a).1 ∧ Guarantee s a)
    (s : σ) (hs : I s) (as : List α) (hassume : ∀ p ∈ steps step s as, Assume p.1 p.2) :
    I (run step s as) ∧ ∀ p ∈ steps step s as, I p.1 ∧ Guarantee p.1 p.2 := by
  induction as generalizing s with
  | nil => exact ⟨hs, by simp⟩
  | cons a as ih =>
      rw [steps_cons, List.forall_mem_cons] at hassume ⊢
      obtain ⟨hnext, hhere⟩ := hstep s a hs hassume.1
      obtain ⟨hend, hrest⟩ := ih _ hnext hassume.2
      exact ⟨hend, ⟨hs, hhere⟩, hrest⟩

/-- What every step preserves holds wherever a run has got to. -/
theorem steps_invariant (I : σ → Prop) (hstep : ∀ s a, I s → I (step s a).1) (s : σ) (hs : I s)
    (as : List α) : ∀ p ∈ steps step s as, I p.1 := by
  have hguarantee := steps_guarantee step I (fun _ _ => True) (fun _ _ => True)
    (fun s a hs _ => ⟨hstep s a hs, trivial⟩) s hs as fun _ _ => trivial
  exact fun p hp => (hguarantee.2 p hp).1

/-- What is spoilt stays spoilt, and out of a good state exactly the bad steps spoil it. Then a run
is not spoilt if and only if none of its steps is bad. -/
theorem not_spoilt_run_iff (Good Spoilt : σ → Prop) (Bad : σ → α → Prop)
    (hgood : ∀ s a, Good s → ¬ Bad s a → Good (step s a).1)
    (hbad : ∀ s a, Good s → Bad s a → Spoilt (step s a).1)
    (hspoilt : ∀ s a, Spoilt s → Spoilt (step s a).1) (hclean : ∀ s, Good s → ¬ Spoilt s)
    (s : σ) (hs : Good s) (as : List α) :
    ¬ Spoilt (run step s as) ↔ ∀ p ∈ steps step s as, ¬ Bad p.1 p.2 := by
  have hstays : ∀ (as : List α) (s : σ), Spoilt s → Spoilt (run step s as) := by
    intro as
    induction as with
    | nil => exact fun _ h => h
    | cons a as ih => exact fun s h => ih _ (hspoilt s a h)
  induction as generalizing s with
  | nil => exact ⟨fun _ p hp => absurd hp (List.not_mem_nil), fun _ => hclean s hs⟩
  | cons a as ih =>
      rw [run_cons, steps_cons, List.forall_mem_cons]
      by_cases hstep : Bad s a
      · exact ⟨fun hrun => absurd (hstays as _ (hbad s a hs hstep)) hrun,
          fun hsteps => absurd hstep hsteps.1⟩
      · have hrest := ih _ (hgood s a hs hstep)
        exact ⟨fun hrun => ⟨hstep, hrest.mp hrun⟩, fun hsteps => hrest.mpr hsteps.2⟩

/-- What is observed over a stream is the concatenation of what each item shows. -/
theorem trace_flatMap (Ready : σ → Prop) (enc : ι → List α) (view : β × σ → γ)
    (out : ι → List γ) (items : List ι)
    (hready : ∀ i ∈ items, ∀ s, Ready s → Ready (run step s (enc i)))
    (hout : ∀ i ∈ items, ∀ s, Ready s → (trace step s (enc i)).map view = out i)
    (s : σ) (hs : Ready s) :
    (trace step s (items.flatMap enc)).map view = items.flatMap out := by
  induction items generalizing s with
  | nil => rfl
  | cons i items ih =>
      rw [List.flatMap_cons, trace_append, List.map_append, List.flatMap_cons,
        hout i List.mem_cons_self s hs]
      congr 1
      apply ih (fun j hj => hready j (List.mem_cons_of_mem i hj))
        (fun j hj => hout j (List.mem_cons_of_mem i hj))
      exact hready i List.mem_cons_self s hs

/-- Two transducers that take related states to related states, with outputs that agree, show
outputs that agree along every input. -/
theorem trace_simulation {τ δ : Type*} {step' : τ → α → τ × δ} (R : σ → τ → Prop)
    (Agree : β → δ → Prop)
    (hstep : ∀ s t a, R s t → R (step s a).1 (step' t a).1 ∧ Agree (step s a).2 (step' t a).2)
    (s : σ) (t : τ) (h : R s t) (as : List α) :
    List.Forall₂ (fun o o' => Agree o.1 o'.1 ∧ R o.2 o'.2) (trace step s as)
      (trace step' t as) := by
  induction as generalizing s t with
  | nil => exact .nil
  | cons a as ih =>
      obtain ⟨hnext, hagree⟩ := hstep s t a h
      exact .cons ⟨hagree, hnext⟩ (ih _ _ hnext)

section Passes

variable {step} {quiet : β}

/-- The input takes `s` to `t` and every step's output is `quiet`. -/
structure Passes (step : σ → α → σ × β) (quiet : β) (s : σ) (as : List α) (t : σ) : Prop where
  run_eq : run step s as = t
  quiet_of_mem : ∀ o ∈ trace step s as, o.1 = quiet

namespace Passes

theorem nil (s : σ) : Passes step quiet s [] s := ⟨rfl, by simp⟩

theorem cons {s t u : σ} {a : α} {as : List α} (h : step s a = (t, quiet))
    (htail : Passes step quiet t as u) : Passes step quiet s (a :: as) u := by
  refine ⟨by rw [run_cons, h, htail.run_eq], ?_⟩
  intro o ho
  rw [trace_cons, h, List.mem_cons] at ho
  rcases ho with rfl | ho
  · rfl
  · exact htail.quiet_of_mem o ho

theorem append {s t u : σ} {as bs : List α} (h : Passes step quiet s as t)
    (h' : Passes step quiet t bs u) : Passes step quiet s (as ++ bs) u := by
  refine ⟨by rw [run_append, h.run_eq, h'.run_eq], ?_⟩
  intro o ho
  rw [trace_append, h.run_eq, List.mem_append] at ho
  exact ho.elim (h.quiet_of_mem o) (h'.quiet_of_mem o)

/-- A loop over a run of inputs whose state is a function of what the loop has read. -/
theorem loop (f : List α → σ) (as : List α)
    (h : ∀ pre, ∀ a ∈ as, step (f pre) a = (f (pre ++ [a]), quiet)) (pre : List α) :
    Passes step quiet (f pre) as (f (pre ++ as)) := by
  induction as generalizing pre with
  | nil => simpa using nil (f pre)
  | cons a as ih =>
      refine cons (h pre a List.mem_cons_self) ?_
      have hrest := ih (fun pre b hb => h pre b (List.mem_cons_of_mem a hb)) (pre ++ [a])
      rwa [List.append_assoc, List.singleton_append] at hrest

end Passes

end Passes

end Transducer
