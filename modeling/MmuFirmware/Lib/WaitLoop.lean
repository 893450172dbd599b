import Mathlib.Data.Nat.Find
import Mathlib.Tactic.ByContra

/-!
A loop that calls its step until the step says that the loop is over. Each step reads an input
of its own. Where a step either waits, and then changes nothing, or takes the loop forward by
a measure, the loop comes to its end when and only when every wait of it does.
-/
namespace WaitLoop

variable {σ ι : Type*} {step : ι → σ → Bool × σ} {s : σ} {inputs : Nat → ι}

/-- Whether the loop is over after at most `n` steps, and where it then is. -/
def after (step : ι → σ → Bool × σ) (s : σ) (inputs : Nat → ι) : Nat → Bool × σ
  | 0 => (false, s)
  | n + 1 =>
      let r := after step s inputs n
      if r.1 then r else step (inputs n) r.2

theorem after_succ_of_over {n : Nat} (h : (after step s inputs n).1 = true) :
    after step s inputs (n + 1) = after step s inputs n := by
  rw [after]
  exact if_pos h

theorem after_succ {n : Nat} (h : (after step s inputs n).1 = false) :
    after step s inputs (n + 1) = step (inputs n) (after step s inputs n).2 := by
  rw [after]
  exact if_neg (by simp [h])

theorem after_of_over {n m : Nat} (h : (after step s inputs n).1 = true) (hle : n ≤ m) :
    after step s inputs m = after step s inputs n := by
  induction m, hle using Nat.le_induction with
  | base => rfl
  | succ m _ ih => rw [after_succ_of_over (by rw [ih]; exact h), ih]

/-- What a step does to a loop that is `m` steps that count from its end, at most. -/
structure Advances (step : ι → σ → Bool × σ) (Waits : ι → σ → Prop) (Ahead : Nat → σ → Prop)
    (Ended : σ → Prop) : Prop where
  waits : ∀ {m s i}, Ahead m s → Waits i s → step i s = (false, s)
  advances : ∀ {m s i}, Ahead m s → ¬ Waits i s →
    ((step i s).1 = true ∧ Ended (step i s).2) ∨
      (step i s).1 = false ∧ ∃ m' < m, Ahead m' (step i s).2

namespace Advances

variable {Waits : ι → σ → Prop} {Ahead : Nat → σ → Prop} {Ended : σ → Prop}
  (h : Advances step Waits Ahead Ended)
include h

theorem ended_or_ahead {m : Nat} (hs : Ahead m s) (inputs : Nat → ι) (n : Nat) :
    ((after step s inputs n).1 = true ∧ Ended (after step s inputs n).2) ∨
      (after step s inputs n).1 = false ∧ ∃ m', Ahead m' (after step s inputs n).2 := by
  induction n with
  | zero => exact .inr ⟨rfl, m, hs⟩
  | succ n ih =>
      obtain hover | ⟨hgoing, m', hahead⟩ := ih
      · rw [after_succ_of_over hover.1]
        exact .inl hover
      · rw [after_succ hgoing]
        by_cases hwaits : Waits (inputs n) (after step s inputs n).2
        · rw [h.waits hahead hwaits]
          exact .inr ⟨rfl, m', hahead⟩
        · obtain hended | ⟨hgoing', m'', _, hahead'⟩ := h.advances hahead hwaits
          · exact .inl hended
          · exact .inr ⟨hgoing', m'', hahead'⟩

/-- A loop that waits is where it was as long as it waits. -/
theorem after_of_waits {m n k : Nat} (hs : Ahead m s) (hgoing : (after step s inputs n).1 = false)
    (hle : n ≤ k) (hwaits : ∀ l, n ≤ l → l < k → Waits (inputs l) (after step s inputs n).2) :
    after step s inputs k = after step s inputs n := by
  induction k, hle using Nat.le_induction with
  | base => rfl
  | succ k hle ih =>
      have hk := ih fun l hl hlk => hwaits l hl (by omega)
      obtain hover | ⟨_, m', hahead⟩ := h.ended_or_ahead hs inputs n
      · exact absurd (hgoing.symm.trans hover.1) Bool.false_ne_true
      · rw [after_succ (by rw [hk]; exact hgoing), hk,
          h.waits hahead (hwaits k hle (Nat.lt_succ_self k))]
        exact Prod.ext hgoing.symm rfl

theorem over_of_waits_end {m n : Nat} (hs : Ahead m s)
    (hend : ∀ n, (after step s inputs n).1 = false →
      ∃ k ≥ n, ¬ Waits (inputs k) (after step s inputs n).2)
    {m' : Nat} (hahead : Ahead m' (after step s inputs n).2) :
    ∃ k, (after step s inputs k).1 = true := by
  classical
  induction m' using Nat.strong_induction_on generalizing n with
  | h m' ih =>
      cases hover : (after step s inputs n).1 with
      | true => exact ⟨n, hover⟩
      | false =>
          obtain ⟨d, hd, hmin⟩ :
              ∃ k, (n ≤ k ∧ ¬ Waits (inputs k) (after step s inputs n).2) ∧
                ∀ l < k, ¬ (n ≤ l ∧ ¬ Waits (inputs l) (after step s inputs n).2) :=
            ⟨_, Nat.find_spec (hend n hover), fun l hl => Nat.find_min (hend n hover) hl⟩
          have hsame := h.after_of_waits hs hover hd.1 fun l hl hld => by
            by_contra hnot
            exact hmin l hld ⟨hl, hnot⟩
          have hstep : after step s inputs (d + 1) =
              step (inputs d) (after step s inputs n).2 := by
            rw [after_succ (by rw [hsame]; exact hover), hsame]
          obtain hended | ⟨_, m'', hlt, hahead'⟩ := h.advances hahead hd.2
          · exact ⟨d + 1, by rw [hstep]; exact hended.1⟩
          · rw [← hstep] at hahead'
            exact ih m'' hlt hahead'

theorem over_iff {m : Nat} (hs : Ahead m s) (inputs : Nat → ι) :
    (∃ n, (after step s inputs n).1 = true) ↔
      ∀ n, (after step s inputs n).1 = false →
        ∃ k ≥ n, ¬ Waits (inputs k) (after step s inputs n).2 := by
  constructor
  · intro ⟨n, hover⟩ k hgoing
    by_contra hnever
    have hwaits : ∀ l ≥ k, Waits (inputs l) (after step s inputs k).2 := by
      intro l hl
      by_contra hnot
      exact hnever ⟨l, hl, hnot⟩
    have hlt : k ≤ n := by
      by_contra hgt
      rw [after_of_over hover (by omega)] at hgoing
      exact absurd (hgoing.symm.trans hover) Bool.false_ne_true
    have hsame := h.after_of_waits hs hgoing hlt fun l hl _ => hwaits l hl
    rw [hsame] at hover
    exact absurd (hgoing.symm.trans hover) Bool.false_ne_true
  · intro hend
    exact h.over_of_waits_end (n := 0) hs hend hs

end Advances

end WaitLoop
