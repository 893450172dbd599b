import MmuFirmware.Modules.Idler
import MmuFirmware.Modules.LEDs
import MmuFirmware.Modules.Selector
import MmuFirmware.Modules.UserInput

/-!
All module objects of the firmware together, and the calls the logic makes on them under
the names it uses. Each call changes the one object it is made on.
-/
namespace MmuFirmware

structure Modules where
  millis : UInt16
  finda : Debouncer
  fsensor : FSensor
  buttons : Buttons
  userInput : UserInput
  leds : LEDs
  globals : Globals
  idler : Idler
  selector : Selector
  pulley : Pulley
  /-- `Application::lastCommandProcessedMs` -/
  lastCommandProcessedMs : UInt16
  deriving DecidableEq, Repr

namespace Modules

variable (m : Modules)

def activeSlot : UInt8 := m.globals.activeSlot

def filamentLoaded : FilamentLoadState := m.globals.filamentLoaded

@[simp] def setFilamentLoaded (slot : UInt8) (s : FilamentLoadState) : Modules :=
  { m with globals := m.globals.setFilamentLoaded slot s }

/-- `timebase.Elapsed` -/
def elapsed (start timeout : UInt16) : Bool := m.millis - start > timeout

@[simp] def setLeds (f : LEDs → LEDs) : Modules := { m with leds := f m.leds }

@[simp] def activeSlotProcessing : Modules :=
  m.setLeds fun l => l.setPairButOffOthers m.activeSlot .blink0 .off

@[simp] def activeSlotError : Modules :=
  m.setLeds fun l => l.setPairButOffOthers m.activeSlot .off .blink0

@[simp] def activeSlotDoneEmpty : Modules :=
  m.setLeds fun l => l.setPairButOffOthers m.activeSlot .off .off

@[simp] def activeSlotDonePrimed : Modules :=
  m.setLeds fun l => l.setPairButOffOthers m.activeSlot .on .off

@[simp] def clearUserInput : Modules := { m with userInput := m.userInput.clear }

@[simp] def consumeEvent : Event × Modules :=
  (m.userInput.consumeEvent.1, { m with userInput := m.userInput.consumeEvent.2 })

@[simp] def setPrinterInCharge (pc : Bool) : Modules :=
  { m with userInput := m.userInput.setPrinterInCharge pc }

@[simp] def idlerEngage (slot : UInt8) : Modules :=
  { m with idler := (m.idler.engage m.globals slot).2 }

@[simp] def idlerDisengage : Modules :=
  { m with idler := (m.idler.disengage m.globals).2 }

@[simp] def idlerPartiallyDisengage (slot : UInt8) : Modules :=
  { m with idler := (m.idler.partiallyDisengage m.globals slot).2 }

@[simp] def selectorMoveToSlot (slot : UInt8) : OperationResult × Modules :=
  let r := Selector.moveToSlot m.selector m.globals m.finda.pressed slot
  (r.1, { m with selector := r.2 })

@[simp] def pulleyInitAxis : Modules := { m with pulley := m.pulley.initAxis }

@[simp] def pulleyDisable : Modules := { m with pulley := m.pulley.disable }

@[simp] def pulleyPlanMove (delta : Int) (feed : UInt16) (endRate : UInt16 := 0) : Modules :=
  { m with pulley := m.pulley.planMove delta feed endRate }

/-- `motion.QueueEmpty()`: no axis has a move left. -/
def queueEmpty : Bool :=
  m.pulley.axis.queueEmpty && m.selector.axis.queueEmpty && m.idler.axis.queueEmpty

/-- `motion.AbortPlannedMoves()` on all axes. -/
@[simp] def abortPlannedMoves : Modules :=
  { m with
    pulley := { m.pulley with axis := m.pulley.axis.abortPlannedMoves }
    selector := { m.selector with axis := m.selector.axis.abortPlannedMoves }
    idler := { m.idler with axis := m.idler.axis.abortPlannedMoves } }

@[simp] def holdIdlerSelector : Modules :=
  { m with idler := Movable.holdOn m.idler, selector := Movable.holdOn m.selector }

@[simp] def resumeIdlerSelector : Modules :=
  { m with idler := Movable.resume m.idler, selector := Movable.resume m.selector }

@[simp] def invalidateHoming : Modules :=
  { m.resumeIdlerSelector with
    idler := Movable.invalidateHoming (Movable.resume m.idler)
    selector := Movable.invalidateHoming (Movable.resume m.selector) }

/-- The filament position as far as the two sensors tell it. -/
def sensedFilamentState : FilamentLoadState :=
  match m.fsensor.pressed, m.finda.pressed with
  | true, true => .inNozzle
  | false, true => .inSelector
  | false, false => .atPulley
  | true, false => .inSelector

@[simp] def invalidateHomingAndFilamentState : Modules :=
  m.invalidateHoming.setFilamentLoaded m.activeSlot m.sensedFilamentState

def axisData : Axis → AxisData
  | .pulley => m.pulley.axis
  | .selector => m.selector.axis
  | .idler => m.idler.axis

/-- Some move was planned into a full queue since the flags were cleared. -/
def queueFull : Bool :=
  m.pulley.axis.queueFull || m.selector.axis.queueFull || m.idler.axis.queueFull

def clearQueueFull : Modules :=
  { m with
    pulley := { m.pulley with axis := { m.pulley.axis with queueFull := false } }
    selector := { m.selector with axis := { m.selector.axis with queueFull := false } }
    idler := { m.idler with axis := { m.idler.axis with queueFull := false } } }

end Modules

end MmuFirmware
