import MmuFirmware.Modules.Motion

/-!
`modules/movable_base.cpp`. The on-hold bit of the state byte is a field of its own: every
assignment of a state clears it and comparing the byte with a state asks for it to be
clear. What a derived class overrides is an argument of the base function that calls it.
-/
namespace MmuFirmware

inductive MovableState where
  | ready | moving | plannedHome | homeForward | homeBack | tmcFailed | homingFailed
  deriving DecidableEq, Repr

inductive OperationResult where
  | accepted | refused | failed
  deriving DecidableEq, Repr

structure Movable (ε : Type) where
  state : MovableState := .ready
  onHold : Bool := false
  plannedSlot : UInt8 := 0xff
  currentSlot : UInt8 := 0xff
  homingValid : Bool := false
  tmcErrorFlags : TMCErrorFlags := {}
  axisStart : Int := 0
  /-- Some position was looked up behind the end of its table. -/
  outOfTable : Bool := false
  /-- Some error was found whose cause the registers did not tell, or a motor did not start
  without an error on record. -/
  causeless : Bool := false
  axis : AxisData
  ext : ε
  deriving DecidableEq, Repr

namespace Movable

variable {ε : Type} (m : Movable ε)

def setState (s : MovableState) : Movable ε := { m with state := s, onHold := false }

/-- `State() == s` -/
def isIn (s : MovableState) : Bool := m.state == s && !m.onHold

def slot : UInt8 := m.currentSlot

def invalidateHoming : Movable ε := { m with homingValid := false }

def resume : Movable ε := { m with onHold := false }

def holdOn : Movable ε :=
  { m with onHold := true, axis := m.axis.abortPlannedMoves.disable }

def planHome (sgThrs : UInt8) (planHomingMoveForward : Movable ε → Movable ε) :
    OperationResult × Movable ε :=
  let m := m.invalidateHoming
  if m.onHold then (.refused, m)
  else
    let axis := ({ m.axis with sgThrs } : AxisData).initAxis.2
    let axis := (axis.setMode .normal).stallGuardReset
    (.accepted,
      planHomingMoveForward { m.setState .homeForward with axis, currentSlot := 0xff })

def initMovementNoReinitAxis (prepareMoveToPlannedSlot : Movable ε → Movable ε) :
    OperationResult × Movable ε :=
  (.accepted, (prepareMoveToPlannedSlot m).setState .moving)

def initMovement (prepareMoveToPlannedSlot : Movable ε → Movable ε) :
    OperationResult × Movable ε :=
  let (ok, axis) := m.axis.initAxis
  let m := { m with axis }
  if ok then m.initMovementNoReinitAxis prepareMoveToPlannedSlot
  else
    (.failed,
      Movable.setState { m with causeless := m.causeless || !m.tmcErrorFlags.any } .tmcFailed)

def performMove (finishMove : Movable ε → Movable ε) : Movable ε :=
  if m.axis.queueEmpty then
    (finishMove { m with currentSlot := m.plannedSlot }).setState .ready
  else m

def homeFailed : Movable ε :=
  Movable.setState { m with homingValid := false, axis := m.axis.disable } .homingFailed

def performHomeForward (stallGuardAllowed : Movable ε → Bool → Bool)
    (planHomingMoveBack : Movable ε → Movable ε) : Movable ε :=
  if m.axis.stallGuard then
    let m := { m with axis := m.axis.stallGuardReset }
    if stallGuardAllowed m true then
      (planHomingMoveBack { m with axis := m.axis.abortPlannedMoves }).setState .homeBack
    else m
  else if m.axis.queueEmpty then m.homeFailed
  else m

def performHomeBack (g : Globals) (stallGuardAllowed : Movable ε → Bool → Bool)
    (finishHomingAndPlanMoveToParkPos : Movable ε → Bool × Movable ε) : Movable ε :=
  if m.axis.stallGuard then
    let m := { m with axis := m.axis.stallGuardReset }
    if stallGuardAllowed m false then
      let mode := if g.stealthMode then .stealth else .normal
      let (ok, m) :=
        finishHomingAndPlanMoveToParkPos
          { m with axis := m.axis.abortPlannedMoves.setMode mode }
      if ok then { m with homingValid := true } else m.homeFailed
    else m
  else if m.axis.queueEmpty then m.homeFailed
  else m

def checkTMC : Movable ε :=
  let (failed, axis) := m.axis.checkForErrors
  if failed then
    Movable.setState
      { m with
        tmcErrorFlags := axis.errorFlags
        causeless := m.causeless || !m.axis.tellsCause
        axis := axis.abortPlannedMoves }
      .tmcFailed
  else { m with axis }

def axisDistance (curPos : Int) : Nat := (curPos - m.axisStart).natAbs

/-- The tables of positions end with the place beside the tools. -/
def lookUp (slot : UInt8) : Movable ε :=
  { m with outOfTable := m.outOfTable || slot > Config.toolCount }

/-- What the axis does between two points of the main loop. -/
def tick (i : AxisInput) : Movable ε := { m with axis := m.axis.tick i }

end Movable

end MmuFirmware
