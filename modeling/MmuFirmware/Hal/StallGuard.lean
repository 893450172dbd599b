import MmuFirmware.Hal.Tmc2130
import MmuFirmware.Lib.ReflectedWalk
import MmuFirmware.Lib.Transducer

/-!
The filter of the StallGuard signal. The counter is a store that active samples of the DIAG pin
drain and inactive ones fill again; the driver has stalled once it is empty.
-/
namespace MmuFirmware

namespace TMC2130

variable {drv : TMC2130}

theorem toNat_isr (drv : TMC2130) (diag : Bool) :
    (drv.isr diag).sgFilterCounter.toNat =
      ReflectedWalk.drain drv.sgFilterThreshold.toNat drv.sgFilterCounter.toNat diag := by
  have hbound := drv.sgFilterThreshold.isLt
  have hzero : drv.sgFilterCounter = 0 ↔ drv.sgFilterCounter.toNat = 0 := BitVec.toNat_eq
  rw [isr, ReflectedWalk.drain]
  by_cases hempty : drv.sgFilterCounter = 0
  · rw [if_neg (not_not.mpr hempty), if_pos (hzero.mp hempty)]
    exact hzero.mp hempty
  · have hsome := mt hzero.mpr hempty
    rw [if_pos hempty, if_neg hsome]
    cases diag with
    | true => exact BitVec.toNat_sub_of_le (BitVec.le_def.mpr (Nat.pos_of_ne_zero hsome))
    | false =>
        simp only [Bool.false_eq_true, if_false, BitVec.lt_def]
        split
        · next hroom => exact BitVec.toNat_add_of_lt (Nat.lt_of_le_of_lt hroom hbound)
        · rfl

theorem isr_frame (drv : TMC2130) (diag : Bool) :
    (drv.isr diag).sgFilterThreshold = drv.sgFilterThreshold ∧
      (drv.isr diag).enabled = drv.enabled := by
  rw [isr]
  split
  · split
    · exact ⟨rfl, rfl⟩
    · split <;> exact ⟨rfl, rfl⟩
  · exact ⟨rfl, rfl⟩

/-- What reaches the filter. -/
inductive Signal where
  | isr (diag : Bool)
  | clearStallguard
  | setEnabled (enabled : Bool)
  deriving DecidableEq

def signal (drv : TMC2130) : Signal → TMC2130 × Unit
  | .isr diag => (drv.isr diag, ())
  | .clearStallguard => (drv.clearStallguard, ())
  | .setEnabled enabled => (drv.setEnabled enabled, ())

/-- The samples since the filter was last cleared; switching the motor on or off clears it. -/
def sinceCleared : Bool → List Bool → List Signal → List Bool
  | _, samples, [] => samples
  | enabled, samples, .isr diag :: signals => sinceCleared enabled (samples ++ [diag]) signals
  | enabled, _, .clearStallguard :: signals => sinceCleared enabled [] signals
  | enabled, samples, .setEnabled enabled' :: signals =>
      sinceCleared enabled' (if enabled ≠ enabled' then [] else samples) signals

/-- The counter is what the samples have left of the threshold. -/
structure Counts (drv : TMC2130) (threshold : BitVec 8) (samples : List Bool) : Prop where
  filter : drv.sgFilterThreshold = threshold
  counter : drv.sgFilterCounter.toNat =
    samples.foldl (ReflectedWalk.drain threshold.toNat) threshold.toNat

variable {threshold : BitVec 8} {samples : List Bool}

theorem counts_cleared (h : drv.sgFilterThreshold = threshold) :
    drv.clearStallguard.Counts threshold [] :=
  ⟨h, congrArg BitVec.toNat h⟩

theorem Counts.isr (h : drv.Counts threshold samples) (diag : Bool) :
    (drv.isr diag).Counts threshold (samples ++ [diag]) := by
  refine ⟨(drv.isr_frame diag).1.trans h.filter, ?_⟩
  rw [toNat_isr, h.filter, h.counter, List.foldl_append]
  rfl

theorem Counts.setEnabled (h : drv.Counts threshold samples) (enabled : Bool) :
    (drv.setEnabled enabled).Counts threshold
      (if drv.enabled ≠ enabled then [] else samples) := by
  unfold TMC2130.setEnabled
  split
  · exact ⟨h.filter, congrArg BitVec.toNat h.filter⟩
  · exact ⟨h.filter, h.counter⟩

theorem Counts.run (h : drv.Counts threshold samples) (signals : List Signal) :
    (Transducer.run signal drv signals).Counts threshold
      (sinceCleared drv.enabled samples signals) := by
  induction signals generalizing drv samples with
  | nil => exact h
  | cons s signals ih =>
      cases s with
      | isr diag =>
          have hrun := ih (h.isr diag)
          rwa [(drv.isr_frame diag).2] at hrun
      | clearStallguard => exact ih (counts_cleared h.filter)
      | setEnabled enabled => exact ih (h.setEnabled enabled)

theorem Counts.stalled_iff (h : drv.Counts threshold samples) (hpos : threshold ≠ 0) :
    drv.stalled = true ↔
      ∃ part, part <:+: samples ∧ ReflectedWalk.Climbs threshold.toNat part := by
  have hthreshold : 0 < threshold.toNat :=
    Nat.pos_of_ne_zero fun hzero => hpos (BitVec.toNat_eq.mpr hzero)
  rw [← ReflectedWalk.drained_iff hthreshold, ← h.counter, stalled, beq_iff_eq, BitVec.toNat_eq]
  rfl

/-- Along every run from a cleared filter on: the driver has stalled just if in some stretch of
the samples since the filter was last cleared the active ones exceed the others by the
threshold; with the threshold an initialisation sets, just if two in a row were active. -/
theorem stalled_run_iff (drv : TMC2130) (hpos : drv.sgFilterThreshold ≠ 0)
    (signals : List Signal) :
    let after := Transducer.run signal drv.clearStallguard signals
    let samples := sinceCleared drv.enabled [] signals
    (after.stalled = true ↔ ∃ part, part <:+: samples ∧
        part.count false + drv.sgFilterThreshold.toNat ≤ part.count true) ∧
      (drv.sgFilterThreshold = 2 → (after.stalled = true ↔ [true, true] <:+: samples)) := by
  intro after samples
  have hstalled := ((counts_cleared (rfl : drv.sgFilterThreshold = _)).run signals).stalled_iff hpos
  refine ⟨hstalled, fun htwo => ?_⟩
  rw [htwo] at hstalled
  exact hstalled.trans (ReflectedWalk.climbs_two_iff samples)

theorem stalled_run_iff_twice :
    ¬ [true, true] <:+: sinceCleared false []
      [.isr true, .isr false, .isr true, .clearStallguard, .isr true] := by
  have hstalled := (stalled_run_iff { sgFilterThreshold := 2 } (by decide)
    [.isr true, .isr false, .isr true, .clearStallguard, .isr true]).2 rfl
  exact mt hstalled.mpr (by decide)

end TMC2130

end MmuFirmware
