import MmuFirmware.Modules.Movable

/-!
`modules/selector.cpp` and `modules/pulley.cpp`. Neither keeps data beyond the base class.
-/
namespace MmuFirmware

abbrev Selector := Movable Unit

namespace Selector

/-- The object as constructed. -/
def powerOn : Selector where
  axis := { sgThrs := 3, iRun := 31, acceleration := (selectorScale.toSteps 200).toNat }
  ext := ()

def idleSlotIndex : UInt8 := Config.toolCount

def slotPosition (slot : UInt8) : Int :=
  selectorScale.toSteps (Config.selectorSlotPositions.getD slot.toNat 0)

def feedRate (mmS : UInt16) : Nat := (selectorScale.toSteps mmS.toNat).toNat

def prepareMoveToPlannedSlot (g : Globals) (s : Selector) : Selector :=
  Movable.lookUp
    { s with axis := s.axis.planMoveTo (slotPosition s.plannedSlot) (feedRate g.selectorFeedrate) 0 }
    s.plannedSlot

/-- The move itself has to wait for the idler. -/
def planHomingMoveForward (s : Selector) : Selector := s.setState .plannedHome

def planHomingMoveBack (g : Globals) (s : Selector) : Selector :=
  let axis := s.axis.setPosition 0
  { s with
    axisStart := selectorScale.ofSteps axis.curPosition
    axis :=
      axis.planMove (selectorScale.toSteps (Config.selectorLength * 2))
        (feedRate g.selectorHomingFeedrate) 0 }

def finishHomingAndPlanMoveToParkPos (g : Globals) (s : Selector) : Bool × Selector :=
  if s.axisDistance (selectorScale.ofSteps s.axis.curPosition) <
      (Config.selectorLength - 3).toNat then (false, s)
  else
    let s :=
      { s with
        axis := s.axis.setPosition (selectorScale.toSteps Config.selectorLength)
        currentSlot := 0xff }
    -- finish whatever has been planned before homing
    let s := if s.plannedSlot > Config.toolCount then { s with plannedSlot := idleSlotIndex } else s
    (true, (s.initMovement (prepareMoveToPlannedSlot g)).2)

def finishMove (s : Selector) : Selector := { s with axis := s.axis.disable }

def stallGuardAllowed (_ : Selector) (_ : Bool) : Bool := true

def planHome (s : Selector) (g : Globals) : OperationResult × Selector :=
  Movable.planHome s (g.stallGuardThreshold .selector) planHomingMoveForward

def moveToSlot (s : Selector) (g : Globals) (finda : Bool) (slot : UInt8) :
    OperationResult × Selector :=
  if s.isIn .moving then (.refused, s)
  else
    let s := { s with plannedSlot := slot }
    if s.isIn .homeBack then (.accepted, s)
    else if s.currentSlot = slot ∧ s.homingValid then (.accepted, s)
    else if finda then (.refused, s)
    else if s.homingValid = false ∧ g.filamentLoaded < .inSelector then
      (.accepted, (Selector.planHome s g).2)
    else s.initMovementNoReinitAxis (prepareMoveToPlannedSlot g)

def step (s : Selector) (g : Globals) (finda : Bool) (idlerHomingValid : Bool) : Selector :=
  if s.onHold then s
  else
    let s := if s.state = .tmcFailed then s else s.checkTMC
    match s.state with
    | .moving => s.performMove finishMove
    | .plannedHome =>
        if idlerHomingValid then
          let s := s.setState .homeForward
          { s with
            axis :=
              s.axis.planMove (selectorScale.toSteps (-Config.selectorLength * 2))
                (feedRate g.selectorHomingFeedrate) 0 }
        else s
    | .homeForward => s.performHomeForward stallGuardAllowed (planHomingMoveBack g)
    | .homeBack =>
        s.performHomeBack g stallGuardAllowed (finishHomingAndPlanMoveToParkPos g)
    | .ready =>
        if s.homingValid = false ∧ g.filamentLoaded < .inSelector ∧ finda = false then
          (Selector.planHome s g).2
        else s
    | _ => s

def init (s : Selector) (g : Globals) (finda : Bool) : Selector :=
  if g.filamentLoaded < .inSelector ∧ finda = false then (Selector.planHome s g).2
  else
    Movable.invalidateHoming
      (Movable.lookUp { s with axis := s.axis.setPosition (slotPosition g.activeSlot) }
        g.activeSlot)

end Selector

abbrev Pulley := Movable Unit

namespace Pulley

/-- The object as constructed. -/
def powerOn : Pulley where
  axis := { sgThrs := 8, iRun := 13, acceleration := (pulleyScale.toSteps 800).toNat }
  ext := ()

def feedRate (mmS : UInt16) : Nat := (pulleyScale.toSteps mmS.toNat).toNat

/-- `delta` is in hundredths of a millimetre. -/
def planMove (p : Pulley) (delta : Int) (feed : UInt16) (endRate : UInt16 := 0) : Pulley :=
  Movable.setState
    { p with axis := p.axis.planMove (pulleySteps delta) (feedRate feed) (feedRate endRate) }
    .moving

def currentPositionMm (p : Pulley) : Int := pulleyScale.ofSteps p.axis.curPosition

def initAxis (p : Pulley) : Pulley := { p with axis := p.axis.initAxis.2 }

def disable (p : Pulley) : Pulley := Movable.setState { p with axis := p.axis.disable } .ready

def step (p : Pulley) : Pulley :=
  if p.onHold then p
  else
    let p := if p.state = .tmcFailed then p else p.checkTMC
    match p.state with
    | .moving => p.performMove id
    | _ => p

end Pulley

end MmuFirmware
