import MmuFirmware.Modules.AxisTimers
import MmuFirmware.Modules.AxisRefinement
import MmuFirmware.Hal.StallGuard
import MmuFirmware.Lib.Refinement

/-!
`Motion` as the firmware has it: for each axis the driver with its chip, the pulse generator and
the rest of its interval, and the stepping interrupt over all of them. A full queue is
recorded for the panic it triggers.
-/
namespace MmuFirmware

/-- `Motion::AxisData` and the part of `AxisParams` that changes. -/
structure MotionAxis (χ : Type*) where
  drv : TMC2130 := {}
  chip : χ
  ctrl : PulseGen
  enabled : Bool := false
  params : TMC2130.MotorParams
  currents : TMC2130.MotorCurrents
  residual : BitVec 16 := 0
  queueFull : Bool := false

namespace MotionAxis

variable {χ : Type*} (m : TMC2130.Chip χ) (sqrt : BitVec 32 → BitVec 32) (x : MotionAxis χ)

/-- An axis already in the desired state is left alone. -/
def setEnabled (enabled : Bool) : MotionAxis χ :=
  if enabled ≠ x.enabled then { x with drv := x.drv.setEnabled enabled, enabled } else x

def disable : MotionAxis χ := x.setEnabled false

def initAxis : Bool × MotionAxis χ :=
  let x := x.disable
  let inited := TMC2130.init m x.drv x.chip x.params x.currents .normal
  (inited.1, { x with drv := inited.2.1, chip := inited.2.2 })

def setMode (mode : MotorMode) : MotionAxis χ :=
  { x with chip := TMC2130.applyMode m x.chip mode }

def stallGuardReset : MotionAxis χ := { x with drv := x.drv.clearStallguard }

def planStallGuardThreshold (sgThrs : BitVec 8) : MotionAxis χ :=
  { x with params := { x.params with sgThrs } }

def setIRun (iRun : BitVec 8) : MotionAxis χ := { x with currents := { x.currents with iRun } }

def planMoveTo (pos feedRate endRate : BitVec 32) : MotionAxis χ :=
  let planned := x.ctrl.planMoveTo sqrt pos feedRate endRate
  let x := { x with ctrl := planned.2 }
  if planned.1 then if !x.enabled then x.setEnabled true else x
  else { x with queueFull := true }

def setPosition (pos : BitVec 32) : MotionAxis χ := { x with ctrl := x.ctrl.setPosition pos }

def abortPlannedMoves (halt : Bool) : MotionAxis χ :=
  { x with ctrl := x.ctrl.abortPlannedMoves halt }

def checkForErrors : Bool × MotionAxis χ :=
  let checked := TMC2130.checkForErrors m x.drv x.chip
  (checked.1, { x with drv := checked.2.1, chip := checked.2.2 })

/-- What the interrupt sees of an axis. -/
def timed : TimedAxis := { ctrl := x.ctrl, residual := x.residual }

/-- The calls the rest of the firmware makes. -/
inductive Call where
  | initAxis
  | setEnabled (enabled : Bool)
  | setMode (mode : MotorMode)
  | stallGuardReset
  | planStallGuardThreshold (sgThrs : UInt8)
  | setIRun (iRun : UInt8)
  | planMoveTo (pos : Int) (feedRate endRate : Nat)
  | setPosition (pos : Int)
  | abortPlannedMoves (halt : Bool)
  | checkForErrors
  deriving DecidableEq

def call : Call → MotionAxis χ
  | .initAxis => (x.initAxis m).2
  | .setEnabled enabled => x.setEnabled enabled
  | .setMode mode => x.setMode m mode
  | .stallGuardReset => x.stallGuardReset
  | .planStallGuardThreshold sgThrs => x.planStallGuardThreshold sgThrs.toBitVec
  | .setIRun iRun => x.setIRun iRun.toBitVec
  | .planMoveTo pos feedRate endRate =>
      x.planMoveTo sqrt (BitVec.ofInt 32 pos) (BitVec.ofNat 32 feedRate) (BitVec.ofNat 32 endRate)
  | .setPosition pos => x.setPosition (BitVec.ofInt 32 pos)
  | .abortPlannedMoves halt => x.abortPlannedMoves halt
  | .checkForErrors => (x.checkForErrors m).2

/-- What a call answers; most answer nothing. -/
def answer : Call → Bool
  | .initAxis => (x.initAxis m).1
  | .checkForErrors => (x.checkForErrors m).1
  | _ => true

end MotionAxis

/-- The axes of the firmware. -/
def Motion (χ : Type*) := Axis → MotionAxis χ

namespace Motion

variable {χ : Type*} (m : TMC2130.Chip χ) (sqrt : BitVec 32 → BitVec 32) (axes : Motion χ)

def timers : AxisTimers := fun axis => (axes axis).timed

/-- `Motion::Step`; an axis that has been moved samples its DIAG pin. -/
def step (diag : Axis → Bool) : BitVec 16 × Motion χ :=
  let stepped := axes.timers.step
  (stepped.1, fun axis =>
    let x := axes axis
    { x with
      ctrl := (stepped.2 axis).ctrl
      residual := (stepped.2 axis).residual
      drv :=
        if (axes.timers axis).serve.interval.getD 0 ≠ 0 then x.drv.isr (diag axis) else x.drv })

inductive Event (χ : Type*) where
  | call (axis : Axis) (c : MotionAxis.Call)
  | interrupt (diag : Axis → Bool)
  /-- The chip of an axis changes of its own. -/
  | sense (axis : Axis) (chip : χ)

def perform : Event χ → Motion χ × Unit
  | .call axis c =>
      (fun axis' => if axis' = axis then (axes axis).call m sqrt c else axes axis', ())
  | .interrupt diag => ((axes.step diag).2, ())
  | .sense axis chip =>
      (fun axis' => if axis' = axis then { axes axis with chip } else axes axis', ())

/-- The axes as they are constructed, whatever the memory of the generators held. -/
def start (memory : Axis → PulseGen) (chip : Axis → χ)
    (params : Axis → TMC2130.MotorParams) (currents : Axis → TMC2130.MotorCurrents) : Motion χ :=
  fun axis =>
    { chip := chip axis
      ctrl := PulseGen.start (memory axis) 0
      params := params axis
      currents := currents axis }

end Motion

end MmuFirmware
