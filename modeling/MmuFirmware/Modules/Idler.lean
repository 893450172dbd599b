import MmuFirmware.Modules.Movable

/-!
`modules/idler.cpp`.
-/
namespace MmuFirmware

inductive IdlerOperation where
  | disengage | engage | intermediate
  deriving DecidableEq, Repr

structure IdlerEngagement where
  plannedMove : IdlerOperation := .disengage
  currentlyEngaged : IdlerOperation := .disengage
  deriving DecidableEq, Repr

abbrev Idler := Movable IdlerEngagement

namespace Idler

/-- The object as constructed. -/
def powerOn : Idler where
  axis := { sgThrs := 7, iRun := 31, acceleration := (idlerScale.toSteps 500).toNat }
  ext := {}

def engaged (i : Idler) : Bool := i.ext.currentlyEngaged == .engage
def disengaged (i : Idler) : Bool := i.ext.currentlyEngaged == .disengage
def partiallyDisengaged (i : Idler) : Bool := i.ext.currentlyEngaged == .intermediate

def idleSlotIndex : UInt8 := Config.toolCount

def slotPosition (slot : UInt8) : Int :=
  idlerScale.toSteps (Config.idlerSlotPositions.getD slot.toNat 0)

def intermediateSlotPosition (slot : UInt8) : Int :=
  idlerScale.toSteps (Config.idlerIntermediateSlotPositions.getD slot.toNat 0)

def feedRate (degS : UInt16) : Nat := (idlerScale.toSteps degS.toNat).toNat

def prepareMoveToPlannedSlot (g : Globals) (i : Idler) : Idler :=
  let pos :=
    if i.ext.plannedMove = .engage then slotPosition i.plannedSlot
    else intermediateSlotPosition i.plannedSlot
  Movable.lookUp { i with axis := i.axis.planMoveTo pos (feedRate g.idlerFeedrate) 0 } i.plannedSlot

def planHomingMoveForward (g : Globals) (i : Idler) : Idler :=
  let axis := i.axis.setPosition (idlerScale.toSteps Config.idlerOffsetFromHome)
  { i with
    axisStart := idlerScale.ofSteps axis.curPosition
    axis :=
      axis.planMove (idlerScale.toSteps (Config.idlerLength * 2))
        (feedRate g.idlerHomingFeedrate) 0 }

def planHomingMoveBack (g : Globals) (i : Idler) : Idler :=
  let axis := i.axis.setPosition (idlerScale.toSteps Config.idlerLength)
  { i with
    axisStart := idlerScale.ofSteps axis.curPosition
    axis :=
      axis.planMove (idlerScale.toSteps (-Config.idlerLength * 2))
        (feedRate g.idlerHomingFeedrate) 0 }

def finishHomingAndPlanMoveToParkPos (g : Globals) (i : Idler) : Bool × Idler :=
  if i.axisDistance (idlerScale.ofSteps i.axis.curPosition) <
      (Config.idlerLength - 10).toNat then (false, i)
  else
    let i := { i with axis := i.axis.setPosition 0 }
    -- finish whatever has been planned before homing
    let i := if i.ext.plannedMove = .disengage then { i with plannedSlot := idleSlotIndex } else i
    (true, (i.initMovement (prepareMoveToPlannedSlot g)).2)

def finishMove (i : Idler) : Idler :=
  { i with ext := { i.ext with currentlyEngaged := i.ext.plannedMove } }

def stallGuardAllowed (i : Idler) (forward : Bool) : Bool :=
  i.axisDistance (idlerScale.ofSteps i.axis.curPosition) > if forward then 200 else 180

def planHome (i : Idler) (g : Globals) : OperationResult × Idler :=
  Movable.planHome i (g.stallGuardThreshold .idler) (planHomingMoveForward g)

def planMoveInner (i : Idler) (g : Globals) (slot : UInt8) (plannedOp : IdlerOperation) :
    OperationResult × Idler :=
  if i.isIn .moving ∨ i.onHold then (.refused, i)
  else
    let i := { i with plannedSlot := slot, ext := { i.ext with plannedMove := plannedOp } }
    if i.isIn .homeBack then (.accepted, i)
    else if i.homingValid = false then (.accepted, (Idler.planHome i g).2)
    else if i.ext.currentlyEngaged = i.ext.plannedMove ∧ i.currentSlot = i.plannedSlot then
      (.accepted, i)
    else i.initMovementNoReinitAxis (prepareMoveToPlannedSlot g)

def engage (i : Idler) (g : Globals) (slot : UInt8) : OperationResult × Idler :=
  i.planMoveInner g slot .engage

def disengage (i : Idler) (g : Globals) : OperationResult × Idler :=
  i.planMoveInner g idleSlotIndex .disengage

def partiallyDisengage (i : Idler) (g : Globals) (slot : UInt8) : OperationResult × Idler :=
  i.planMoveInner g slot .intermediate

def step (i : Idler) (g : Globals) : Idler :=
  if i.onHold then i
  else
    let i := if i.state = .tmcFailed then i else i.checkTMC
    match i.state with
    | .moving => i.performMove finishMove
    | .homeForward => i.performHomeForward stallGuardAllowed (planHomingMoveBack g)
    | .homeBack =>
        i.performHomeBack g stallGuardAllowed (finishHomingAndPlanMoveToParkPos g)
    | .ready =>
        if i.homingValid = false ∧ g.filamentLoaded < .inFSensor then (Idler.planHome i g).2 else i
    | _ => i

def init (i : Idler) (g : Globals) : Idler :=
  if g.filamentLoaded < .inFSensor then (Idler.planHome i g).2
  else
    Movable.invalidateHoming
      (Movable.lookUp { i with axis := i.axis.setPosition (slotPosition idleSlotIndex) }
        idleSlotIndex)

end Idler

end MmuFirmware
