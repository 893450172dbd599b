import MmuFirmware.Modules.Calls
import MmuFirmware.Modules.Frame

/-!
What a movable keeps from one plan to the next. The base class changes none of it by itself: the
planned slot, the record of the look-ups and the data of the derived class are its derived
class's, and only planning a move can raise the fastest rate of the axis.
-/
namespace MmuFirmware

namespace AxisData

variable (a : AxisData)

@[simp] theorem topRate_stallGuardReset : a.stallGuardReset.topRate = a.topRate := rfl

@[simp] theorem topRate_abortPlannedMoves : a.abortPlannedMoves.topRate = a.topRate := rfl

@[simp] theorem topRate_setPosition (x : Int) : (a.setPosition x).topRate = a.topRate := rfl

@[simp] theorem topRate_setEnabled (enabled : Bool) : (a.setEnabled enabled).topRate = a.topRate := by
  rw [setEnabled]
  split <;> rfl

@[simp] theorem topRate_disable : a.disable.topRate = a.topRate :=
  a.needsQueueEmpty.topRate_setEnabled false

@[simp] theorem topRate_initDriver : a.initDriver.2.topRate = a.topRate := by
  rw [initDriver]
  dsimp only
  split <;> rfl

@[simp] theorem topRate_initAxis : a.initAxis.2.topRate = a.topRate :=
  a.disable.topRate_initDriver.trans a.topRate_disable

@[simp] theorem topRate_checkForErrors : a.checkForErrors.2.topRate = a.topRate := by
  rw [checkForErrors]
  split <;> rfl

theorem topRate_sampleDiag (diag : Bool) : (a.sampleDiag diag).topRate = a.topRate := by
  rw [sampleDiag]
  split
  · rfl
  · split
    · rfl
    · split <;> rfl

theorem topRate_pulse (n : Nat) (diag : Bool) : (a.pulse n diag).topRate = a.topRate := by
  rw [pulse]
  split
  · rfl
  · exact topRate_sampleDiag _ diag

theorem topRate_tick (i : AxisInput) : (a.tick i).topRate = a.topRate := by
  rw [tick]
  have hpulses : ∀ (pulses : List (Nat × Bool)) (a : AxisData),
      (pulses.foldl (fun a p => a.pulse p.1 p.2) a).topRate = a.topRate := by
    intro pulses
    induction pulses with
    | nil => exact fun _ => rfl
    | cons p pulses ih => exact fun a => (ih _).trans (a.topRate_pulse p.1 p.2)
  exact hpulses i.pulses _

/-- A move counts however it is dealt with. -/
theorem topRate_planMoveTo (pos : Int) (feedRate endRate : Nat) :
    (a.planMoveTo pos feedRate endRate).topRate = max a.topRate feedRate := by
  rw [planMoveTo]
  split
  · rfl
  · split <;> exact topRate_setEnabled _ true

end AxisData

theorem AxisCall.topRate_run (c : AxisCall) (a : AxisData) : (c.run a).topRate = a.topRate := by
  cases c with
  | tick i => exact a.topRate_tick i
  | disable => exact a.topRate_disable
  | initAxis => exact a.topRate_initAxis
  | abortPlannedMoves | clearQueueFull | setMode | setIRun | setAcceleration => rfl

namespace Movable

variable {ε : Type}

/-- Of a movable, at most the planned slot, the record of the look-ups, the data of the derived
class and the fastest rate matter. -/
def OfPlan (Q : Movable ε → Prop) : Prop :=
  ∀ {m m' : Movable ε}, Q m → m'.outOfTable = m.outOfTable → m'.plannedSlot = m.plannedSlot →
    m'.ext = m.ext → m'.axis.topRate = m.axis.topRate → Q m'

namespace OfPlan

variable {Q : Movable ε → Prop} (hQ : OfPlan Q) {m : Movable ε} (h : Q m)
include hQ h

theorem homeFailed : Q m.homeFailed := hQ h rfl rfl rfl m.axis.topRate_disable

theorem planHome (sgThrs : UInt8) {plan : Movable ε → Movable ε} (hplan : ∀ m, Q m → Q (plan m)) :
    Q (m.planHome sgThrs plan).2 := by
  rw [Movable.planHome]
  dsimp only
  split
  · exact hQ h rfl rfl rfl rfl
  · refine hplan _ (hQ h rfl rfl rfl ?_)
    exact AxisData.topRate_initAxis _

theorem initMovement {prepare : Movable ε → Movable ε} (hprepare : ∀ m, Q m → Q (prepare m)) :
    Q (m.initMovement prepare).2 := by
  rw [Movable.initMovement]
  dsimp only
  have hinit : Q { m with axis := m.axis.initAxis.2 } :=
    hQ h rfl rfl rfl m.axis.topRate_initAxis
  split
  · exact hQ (hprepare _ hinit) rfl rfl rfl rfl
  · exact hQ hinit rfl rfl rfl rfl

theorem performMove {finish : Movable ε → Movable ε} (hfinish : ∀ m, Q m → Q (finish m)) :
    Q (m.performMove finish) := by
  rw [Movable.performMove]
  split
  · refine hQ (hfinish _ ?_) rfl rfl rfl rfl
    exact hQ h rfl rfl rfl rfl
  · exact h

theorem performHomeForward {allowed : Movable ε → Bool → Bool} {plan : Movable ε → Movable ε}
    (hplan : ∀ m, Q m → Q (plan m)) : Q (m.performHomeForward allowed plan) := by
  rw [Movable.performHomeForward]
  dsimp only
  split
  · split
    · refine hQ (hplan _ ?_) rfl rfl rfl rfl
      exact hQ h rfl rfl rfl rfl
    · exact hQ h rfl rfl rfl rfl
  · split
    · exact hQ.homeFailed h
    · exact h

theorem performHomeBack (g : Globals) {allowed : Movable ε → Bool → Bool}
    {finish : Movable ε → Bool × Movable ε} (hfinish : ∀ m, Q m → Q (finish m).2) :
    Q (m.performHomeBack g allowed finish) := by
  rw [Movable.performHomeBack]
  dsimp only
  split
  · split
    · generalize (if g.stealthMode = true then MotorMode.stealth else .normal) = mode
      have hfinished : Q (finish
          { m with axis := m.axis.stallGuardReset.abortPlannedMoves.setMode mode }).2 :=
        hfinish _ (hQ h rfl rfl rfl rfl)
      split
      · exact hQ hfinished rfl rfl rfl rfl
      · exact hQ.homeFailed hfinished
    · exact hQ h rfl rfl rfl rfl
  · split
    · exact hQ.homeFailed h
    · exact h

theorem checkUnlessFailed : Q (if m.state = .tmcFailed then m else m.checkTMC) := by
  split
  · exact h
  · rw [checkTMC]
    dsimp only
    split <;> exact hQ h rfl rfl rfl m.axis.topRate_checkForErrors

end OfPlan
end Movable
end MmuFirmware
