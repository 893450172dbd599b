import MmuFirmware.Modules.Debouncer
import Mathlib.Data.Nat.Init
import Mathlib.Tactic.ByContra

/-!
Which presses the debouncer reports. A press begins with a pressed sample that finds the
debouncer waiting and lasts as long as the samples stay pressed; it is reported from the first
sample on that comes late enough on the clock, whatever the clock has done in between.
-/
namespace MmuFirmware
namespace Debouncer

/-- The debouncer before sample `n`. -/
def after (d : Debouncer) (samples : Nat → UInt16 × Bool) : Nat → Debouncer
  | 0 => d
  | n + 1 => (after d samples n).step (samples n).1 (samples n).2

/-- Sample `i` finds the debouncer waiting, and from there to `k` all samples are pressed. -/
structure PressedFrom (d : Debouncer) (samples : Nat → UInt16 × Bool) (i k : Nat) : Prop where
  waiting : (d.after samples i).state = .waiting
  le : i ≤ k
  pressed : ∀ l, i ≤ l → l ≤ k → (samples l).2 = true

/-- The clock differs by the timeout at least. -/
def Elapsed (debounceTimeout : UInt8) (samples : Nat → UInt16 × Bool) (i j : Nat) : Prop :=
  (samples j).1 - (samples i).1 ≥ debounceTimeout.toUInt16

section Steps

variable {d : Debouncer} {time : UInt16} {press : Bool}

@[simp] theorem debounceTimeout_step (d : Debouncer) (time : UInt16) (press : Bool) :
    (d.step time press).debounceTimeout = d.debounceTimeout := by
  rw [step]
  split <;> (try split) <;> (try split) <;> rfl

/-- A level is only remembered for a press. -/
theorem tmp_step (htmp : d.state = .detected → d.tmp = true)
    (hstate : (d.step time press).state = .detected) : (d.step time press).tmp = true := by
  unfold step at hstate ⊢
  split at hstate
  · next hwaiting =>
      cases press with
      | true => rfl
      | false => exact absurd (hwaiting.symm.trans hstate) (by decide)
  · next hdetected =>
      have htmp := htmp hdetected
      cases press with
      | true => split at hstate <;> grind
      | false => simp [htmp] at hstate
  · next hrelease => cases press <;> simp_all
  · next hupdate => simp at hstate

/-- A step that leads to a press goes on with one or begins it. -/
theorem pressed_of_step (htmp : d.state = .detected → d.tmp = true)
    (hstate : (d.step time press).state = .detected ∨ (d.step time press).state = .waitForRelease) :
    press = true ∧ (d.state = .waiting ∨ d.state = .detected ∨ d.state = .waitForRelease) := by
  unfold step at hstate
  split at hstate
  · next hwaiting => cases press <;> simp_all
  · next hdetected =>
      have htmp := htmp hdetected
      cases press <;> simp_all
  · next hrelease => cases press <;> simp_all
  · next hupdate => simp at hstate

end Steps

section Runs

variable {d : Debouncer} {samples : Nat → UInt16 × Bool}

theorem debounceTimeout_after (n : Nat) :
    (d.after samples n).debounceTimeout = d.debounceTimeout := by
  induction n with
  | zero => rfl
  | succ n ih => rw [after, debounceTimeout_step, ih]

theorem tmp_after (htmp : d.state = .detected → d.tmp = true) (n : Nat)
    (hstate : (d.after samples n).state = .detected) : (d.after samples n).tmp = true := by
  induction n with
  | zero => exact htmp hstate
  | succ n ih => exact tmp_step ih hstate

/-- What the debouncer has come to in the course of a press. -/
theorem after_pressedFrom {i k : Nat} (h : PressedFrom d samples i k) :
    ((∃ j, i < j ∧ j ≤ k ∧ Elapsed d.debounceTimeout samples i j) ∧
      (d.after samples (k + 1)).state = .waitForRelease) ∨
    ((¬ ∃ j, i < j ∧ j ≤ k ∧ Elapsed d.debounceTimeout samples i j) ∧
      (d.after samples (k + 1)).state = .detected ∧ (d.after samples (k + 1)).tmp = true ∧
      (d.after samples (k + 1)).timeLastChange = (samples i).1) := by
  obtain ⟨hwaiting, hle, hpressed⟩ := h
  induction k, hle using Nat.le_induction with
  | base =>
      right
      refine ⟨by rintro ⟨j, hlt, hle, -⟩; omega, ?_⟩
      rw [after, step, hwaiting, hpressed i (Nat.le_refl i) (Nat.le_refl i)]
      exact ⟨rfl, rfl, rfl⟩
  | succ k hle ih =>
      have hpress := hpressed (k + 1) (by omega) (Nat.le_refl _)
      rw [after, step, hpress]
      rcases ih fun l hil hlk => hpressed l hil (Nat.le_succ_of_le hlk) with
        ⟨⟨j, hij, hjk, helapsed⟩, hstate⟩ | ⟨hearlier, hstate, htmp, htime⟩
      · left
        rw [hstate]
        exact ⟨⟨j, hij, Nat.le_succ_of_le hjk, helapsed⟩, hstate⟩
      · rw [hstate, htmp, htime, debounceTimeout_after]
        simp only [beq_self_eq_true, if_true]
        by_cases helapsed : (samples (k + 1)).1 - (samples i).1 ≥ d.debounceTimeout.toUInt16
        · left
          rw [if_pos helapsed]
          exact ⟨⟨k + 1, by omega, Nat.le_refl _, helapsed⟩, rfl⟩
        · right
          rw [if_neg helapsed]
          refine ⟨?_, hstate, htmp, htime⟩
          rintro ⟨j, hij, hjk, hj⟩
          rcases Nat.lt_succ_iff_lt_or_eq.mp (Nat.lt_succ_of_le hjk) with hlt | rfl
          · exact hearlier ⟨j, hij, Nat.le_of_lt_succ hlt, hj⟩
          · exact helapsed hj

/-- A debouncer that has detected a press is in the course of one. -/
theorem pressedFrom_after (hstart : d.state = .waiting) (k : Nat)
    (hstate : (d.after samples (k + 1)).state = .detected ∨
      (d.after samples (k + 1)).state = .waitForRelease) :
    ∃ i, PressedFrom d samples i k := by
  have htmp : d.state = .detected → d.tmp = true := fun hdetected =>
    absurd (hstart.symm.trans hdetected) (by decide)
  induction k with
  | zero =>
      obtain ⟨hpress, -⟩ := pressed_of_step (tmp_after htmp 0) hstate
      refine ⟨0, hstart, Nat.le_refl 0, fun l _ hl => ?_⟩
      rw [Nat.le_zero.mp hl]
      exact hpress
  | succ k ih =>
      obtain ⟨hpress, hwaiting | hbefore⟩ := pressed_of_step (tmp_after htmp (k + 1)) hstate
      · refine ⟨k + 1, hwaiting, Nat.le_refl _, fun l hkl hlk => ?_⟩
        rw [Nat.le_antisymm hlk hkl]
        exact hpress
      · obtain ⟨i, hwaiting, hle, hpressed⟩ := ih hbefore
        refine ⟨i, hwaiting, Nat.le_succ_of_le hle, fun l hil hlk => ?_⟩
        rcases Nat.lt_succ_iff_lt_or_eq.mp (Nat.lt_succ_of_le hlk) with hlt | rfl
        · exact hpressed l hil (Nat.le_of_lt_succ hlt)
        · exact hpress

end Runs

/-- In the course of a press `Pressed()` holds from the first late enough sample on, an
unpressed sample ends it, and outside of presses it never holds. -/
theorem pressed_iff_stable (debounceTimeout : UInt8) (samples : Nat → UInt16 × Bool) :
    (∀ i k, PressedFrom { debounceTimeout } samples i k →
      ((after { debounceTimeout } samples (k + 1)).pressed = true ↔
        ∃ j, i < j ∧ j ≤ k ∧ Elapsed debounceTimeout samples i j)) ∧
    (∀ k, (samples k).2 = false → (after { debounceTimeout } samples (k + 1)).pressed = false) ∧
    ∀ k, (after { debounceTimeout } samples k).pressed = true →
      ∃ i < k, PressedFrom { debounceTimeout } samples i (k - 1) := by
  have hpress : ∀ k, (after { debounceTimeout } samples k).pressed = true →
      ∃ i < k, PressedFrom { debounceTimeout } samples i (k - 1) := fun k hpressed => by
    cases k with
    | zero => exact absurd hpressed Bool.false_ne_true
    | succ k =>
        have hrelease : (after { debounceTimeout } samples (k + 1)).state = .waitForRelease := by
          simpa [pressed] using hpressed
        obtain ⟨i, h⟩ := pressedFrom_after rfl k (.inr hrelease)
        exact ⟨i, Nat.lt_succ_of_le h.le, h⟩
  refine ⟨fun i k h => ?_, fun k hreleased => ?_, hpress⟩
  · rcases after_pressedFrom h with ⟨hlate, hstate⟩ | ⟨hearly, hstate, -⟩
    · simpa [pressed, hstate] using hlate
    · simpa [pressed, hstate] using hearly
  · by_contra hpressed
    obtain ⟨i, -, h⟩ := hpress (k + 1) (by simpa using hpressed)
    have hsample := h.pressed k h.le (Nat.le_refl k)
    rw [hreleased] at hsample
    exact absurd hsample (by decide)

end Debouncer
end MmuFirmware
