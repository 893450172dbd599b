import MmuFirmware.Modules.Plans
import MmuFirmware.Modules.SpeedTable

/-!
The rates moves are planned with. The base class plans no move; the movables plan theirs with the
speeds of the globals, and the pulley with the speed it is given. At speeds up to a limit of each
axis these are rates the step timer can follow.
-/
namespace MmuFirmware

theorem AxisScale.toNat_toSteps (a : AxisScale) (n : Nat) :
    (a.toSteps n).toNat = n * a.num / a.den := by
  rw [toSteps, ← Int.natCast_mul, Int.tdiv_eq_ediv_of_nonneg (Int.natCast_nonneg _)]
  rfl

namespace Axis

/-- Millimetres or degrees a second in steps a second. -/
def feedRate : Axis → UInt16 → Nat
  | pulley => Pulley.feedRate
  | selector => Selector.feedRate
  | idler => Idler.feedRate

/-- The fastest speed the step timer can follow, in millimetres or degrees a second. -/
def topSpeed : Axis → UInt16
  | pulley => 478
  | selector => 200
  | idler => 4500

theorem feedRate_le_iff (axis : Axis) (speed : UInt16) :
    axis.feedRate speed ≤ Config.maxStepFrequency.toNat ↔ speed ≤ axis.topSpeed := by
  have hmax : Config.maxStepFrequency.toNat = 40000 := rfl
  rw [UInt16.le_iff_toNat_le, hmax]
  cases axis with
  | pulley =>
      have htop : (topSpeed pulley).toNat = 478 := rfl
      rw [feedRate, Pulley.feedRate, AxisScale.toNat_toSteps, pulleyScale]
      dsimp only
      omega
  | selector =>
      have htop : (topSpeed selector).toNat = 200 := rfl
      rw [feedRate, Selector.feedRate, AxisScale.toNat_toSteps, selectorScale]
      dsimp only
      omega
  | idler =>
      have htop : (topSpeed idler).toNat = 4500 := rfl
      rw [feedRate, Idler.feedRate, AxisScale.toNat_toSteps, idlerScale]
      dsimp only
      omega

end Axis

/-- Speeds the step timer can follow. -/
structure Feedrates.InRange (f : Feedrates) : Prop where
  pulleyLoad : f.pulleyLoad ≤ Axis.pulley.topSpeed
  pulleySlow : f.pulleySlow ≤ Axis.pulley.topSpeed
  pulleyUnload : f.pulleyUnload ≤ Axis.pulley.topSpeed
  selector : f.selector ≤ Axis.selector.topSpeed
  selectorHoming : f.selectorHoming ≤ Axis.selector.topSpeed
  idler : f.idler ≤ Axis.idler.topSpeed
  idlerHoming : f.idlerHoming ≤ Axis.idler.topSpeed

/-- The speeds after power-on are. -/
theorem Feedrates.inRange_init (storage : PermanentStorage) :
    (Globals.init storage).feedrates.InRange where
  pulleyLoad := (by decide : Config.pulleyLoadFeedrate ≤ Axis.pulley.topSpeed)
  pulleySlow := (by decide : Config.pulleySlowFeedrate ≤ Axis.pulley.topSpeed)
  pulleyUnload := (by decide : Config.pulleyUnloadFeedrate ≤ Axis.pulley.topSpeed)
  selector := (by decide : Config.selectorFeedrate ≤ Axis.selector.topSpeed)
  selectorHoming := (by decide : Config.selectorHomingFeedrate ≤ Axis.selector.topSpeed)
  idler := (by decide : Config.idlerFeedrate ≤ Axis.idler.topSpeed)
  idlerHoming := (by decide : Config.idlerHomingFeedrate ≤ Axis.idler.topSpeed)

/-- No move has been planned faster than the step timer can follow. -/
def AxisData.Paced (a : AxisData) : Prop := a.topRate ≤ Config.maxStepFrequency.toNat

namespace AxisData

variable {a a' : AxisData}

theorem Paced.congr (h : a.Paced) (htop : a'.topRate = a.topRate) : a'.Paced :=
  le_of_eq_of_le htop h

theorem Paced.run (h : a.Paced) (c : AxisCall) : (c.run a).Paced := h.congr (c.topRate_run a)

theorem Paced.planMoveTo (h : a.Paced) {axis : Axis} {speed : UInt16}
    (hspeed : speed ≤ axis.topSpeed) (pos : Int) (endRate : Nat) :
    (a.planMoveTo pos (axis.feedRate speed) endRate).Paced := by
  rw [Paced, topRate_planMoveTo]
  exact Nat.max_le.mpr ⟨h, (axis.feedRate_le_iff speed).mpr hspeed⟩

theorem Paced.planMove (h : a.Paced) {axis : Axis} {speed : UInt16}
    (hspeed : speed ≤ axis.topSpeed) (delta : Int) (endRate : Nat) :
    (a.planMove delta (axis.feedRate speed) endRate).Paced :=
  h.planMoveTo hspeed _ endRate

end AxisData

theorem Movable.ofPlan_paced {ε : Type} : OfPlan fun m : Movable ε => m.axis.Paced :=
  fun h _ _ _ htop => h.congr htop

section Movables

variable {g : Globals} (hg : g.feedrates.InRange)
include hg

namespace Idler

open Movable (ofPlan_paced)

variable {i : Idler} (h : i.axis.Paced)
include h

theorem paced_prepareMove : (prepareMoveToPlannedSlot g i).axis.Paced :=
  h.planMoveTo hg.idler _ 0

theorem paced_finishHoming : (finishHomingAndPlanMoveToParkPos g i).2.axis.Paced := by
  rw [finishHomingAndPlanMoveToParkPos]
  dsimp only
  split
  · exact h
  · refine ofPlan_paced.initMovement ?_ fun _ h => paced_prepareMove hg h
    split <;> exact h

theorem paced_planHomingMoveForward : (planHomingMoveForward g i).axis.Paced := by
  have hhome : (i.axis.setPosition (idlerScale.toSteps Config.idlerOffsetFromHome)).Paced := h
  exact hhome.planMove hg.idlerHoming _ 0

theorem paced_planHomingMoveBack : (planHomingMoveBack g i).axis.Paced := by
  have hend : (i.axis.setPosition (idlerScale.toSteps Config.idlerLength)).Paced := h
  exact hend.planMove hg.idlerHoming _ 0

theorem paced_planHome : (Idler.planHome i g).2.axis.Paced :=
  ofPlan_paced.planHome h _ fun _ h => paced_planHomingMoveForward hg h

theorem paced_planMoveInner (slot : UInt8) (plannedOp : IdlerOperation) :
    (i.planMoveInner g slot plannedOp).2.axis.Paced := by
  rw [Idler.planMoveInner]
  dsimp only
  split
  · exact h
  · split
    · exact h
    · split
      · exact paced_planHome (i := { i with plannedSlot := slot, ext := _ }) hg h
      · split
        · exact h
        · exact paced_prepareMove (i := { i with plannedSlot := slot, ext := _ }) hg h

theorem paced_step : (i.step g).axis.Paced := by
  rw [Idler.step]
  split
  · exact h
  · dsimp only
    have hchecked := ofPlan_paced.checkUnlessFailed h
    generalize (if i.state = .tmcFailed then i else i.checkTMC) = i' at hchecked ⊢
    split
    · exact ofPlan_paced.performMove hchecked fun _ h => h
    · exact ofPlan_paced.performHomeForward hchecked fun _ h => paced_planHomingMoveBack hg h
    · exact ofPlan_paced.performHomeBack hchecked g fun _ h => paced_finishHoming hg h
    · split
      · exact paced_planHome hg hchecked
      · exact hchecked
    · exact hchecked

theorem paced_init : (i.init g).axis.Paced := by
  rw [Idler.init]
  split
  · exact paced_planHome hg h
  · exact h

end Idler

namespace Selector

open Movable (ofPlan_paced)

variable {s : Selector} (h : s.axis.Paced)
include h

theorem paced_prepareMove : (prepareMoveToPlannedSlot g s).axis.Paced :=
  h.planMoveTo hg.selector _ 0

theorem paced_planHomingMoveBack : (planHomingMoveBack g s).axis.Paced := by
  have hend : (s.axis.setPosition 0).Paced := h
  exact hend.planMove hg.selectorHoming _ 0

theorem paced_finishHoming : (finishHomingAndPlanMoveToParkPos g s).2.axis.Paced := by
  rw [finishHomingAndPlanMoveToParkPos]
  dsimp only
  split
  · exact h
  · refine ofPlan_paced.initMovement ?_ fun _ h => paced_prepareMove hg h
    split <;> exact h

omit hg in
theorem paced_planHome (g : Globals) : (Selector.planHome s g).2.axis.Paced :=
  ofPlan_paced.planHome h _ fun _ h => h

theorem paced_moveToSlot (finda : Bool) (slot : UInt8) :
    (s.moveToSlot g finda slot).2.axis.Paced := by
  rw [Selector.moveToSlot]
  dsimp only
  split
  · exact h
  · split
    · exact h
    · split
      · exact h
      · split
        · exact h
        · split
          · exact paced_planHome (s := { s with plannedSlot := slot }) h g
          · exact paced_prepareMove (s := { s with plannedSlot := slot }) hg h

theorem paced_step (finda idlerHomingValid : Bool) :
    (s.step g finda idlerHomingValid).axis.Paced := by
  rw [Selector.step]
  split
  · exact h
  · dsimp only
    have hchecked := ofPlan_paced.checkUnlessFailed h
    generalize (if s.state = .tmcFailed then s else s.checkTMC) = s' at hchecked ⊢
    split
    · exact ofPlan_paced.performMove hchecked fun _ h => h.congr (AxisData.topRate_disable _)
    · split
      · exact AxisData.Paced.planMove hchecked hg.selectorHoming _ 0
      · exact hchecked
    · exact ofPlan_paced.performHomeForward hchecked fun _ h => paced_planHomingMoveBack hg h
    · exact ofPlan_paced.performHomeBack hchecked g fun _ h => paced_finishHoming hg h
    · split
      · exact paced_planHome hchecked g
      · exact hchecked
    · exact hchecked

omit hg in
theorem paced_init (g : Globals) (finda : Bool) : (s.init g finda).axis.Paced := by
  rw [Selector.init]
  split
  · exact paced_planHome h g
  · exact h

end Selector
end Movables

namespace Pulley

open Movable (ofPlan_paced)

variable {p : Pulley} (h : p.axis.Paced)
include h

theorem paced_planMove {feed : UInt16} (hfeed : feed ≤ Axis.pulley.topSpeed) (delta : Int)
    (endRate : UInt16) : (p.planMove delta feed endRate).axis.Paced :=
  AxisData.Paced.planMove h hfeed _ _

theorem paced_step : p.step.axis.Paced := by
  rw [step]
  split
  · exact h
  · dsimp only
    have hchecked := ofPlan_paced.checkUnlessFailed h
    generalize (if p.state = .tmcFailed then p else p.checkTMC) = p' at hchecked ⊢
    split
    · exact ofPlan_paced.performMove hchecked fun _ h => h
    · exact hchecked

end Pulley
end MmuFirmware
