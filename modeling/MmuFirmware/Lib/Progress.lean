import MmuFirmware.Lib.Transducer

/-!
Bounds on how long a run takes. Where every step shortens the way that is left, its length is
enough; where a repeated step cannot lengthen it, and two of it in a row shorten it, twice its
length is.
-/

namespace Transducer

variable {σ α β : Type*} (step : σ → α → σ × β) (a : α)

/-- The state after a number of the same step. -/
def repeated (s : σ) (n : Nat) : σ := run step s (List.replicate n a)

@[simp] theorem repeated_zero (s : σ) : repeated step a s 0 = s := rfl

theorem repeated_succ (s : σ) (n : Nat) :
    repeated step a s (n + 1) = repeated step a (step s a).1 n := rfl

/-- Once no way is left, none is. -/
theorem ahead_zero_repeated (Ahead : σ → Nat → Prop)
    (hkeeps : ∀ s k, Ahead s k → ∃ k' ≤ k, Ahead (step s a).1 k') (s : σ) (h : Ahead s 0)
    (n : Nat) : Ahead (repeated step a s n) 0 := by
  induction n generalizing s with
  | zero => exact h
  | succ n ih =>
      obtain ⟨k, hle, hafter⟩ := hkeeps s 0 h
      obtain rfl := Nat.le_zero.mp hle
      exact ih _ hafter

theorem ahead_zero_of_two (Ahead : σ → Nat → Prop)
    (hkeeps : ∀ s k, Ahead s k → ∃ k' ≤ k, Ahead (step s a).1 k')
    (htwo : ∀ s k, Ahead s (k + 1) → ∃ k' ≤ k, Ahead (step (step s a).1 a).1 k')
    (s : σ) (k : Nat) (h : Ahead s k) (n : Nat) (hn : 2 * k ≤ n) :
    Ahead (repeated step a s n) 0 := by
  induction n using Nat.strongRecOn generalizing s k with
  | ind n ih =>
      cases k with
      | zero => exact ahead_zero_repeated step a Ahead hkeeps s h n
      | succ k =>
          obtain ⟨k', hle, hafter⟩ := htwo s k h
          obtain ⟨m, rfl⟩ : ∃ m, n = m + 2 := ⟨n - 2, by omega⟩
          rw [repeated_succ, repeated_succ]
          exact ih m (by omega) _ k' hafter (by omega)

/-- Each step the input allows takes the run one further. -/
theorem ahead_zero_of_length (Ahead : σ → Nat → Prop) (Allowed : σ → α → Prop)
    (hstep : ∀ s k b, Ahead s k → Allowed s b → Ahead (step s b).1 (k - 1)) (s : σ) (k : Nat)
    (h : Ahead s k) (inputs : List α) (hallowed : ∀ p ∈ steps step s inputs, Allowed p.1 p.2) :
    Ahead (run step s inputs) (k - inputs.length) := by
  induction inputs generalizing s k with
  | nil => exact h
  | cons b inputs ih =>
      rw [steps_cons, List.forall_mem_cons] at hallowed
      have hafter := ih _ _ (hstep s k b h hallowed.1) hallowed.2
      rw [List.length_cons, Nat.add_comm, ← Nat.sub_sub]
      exact hafter

end Transducer
