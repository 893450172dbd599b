import MmuFirmware.App.Application
import MmuFirmware.Lib.Transducer

/-!
`main.cpp`: power-on and the main loop. Everything the outside decides in one iteration is
its input: the clock, the sensor pins, the pulses of the motors and the registers of their
drivers, the bytes received, and how much of a response the transmit buffer takes. The
interrupts of an iteration are gathered before the modules are stepped, before requests are
served and before the command is stepped.
-/
namespace MmuFirmware

structure Interrupts where
  elapsedMs : UInt16 := 0
  pulley : AxisInput := {}
  selector : AxisInput := {}
  idler : AxisInput := {}
  deriving DecidableEq, Repr

def Modules.interrupt (m : Modules) (i : Interrupts) : Modules :=
  { m with
    millis := m.millis + i.elapsedMs
    pulley := Movable.tick m.pulley i.pulley
    selector := Movable.tick m.selector i.selector
    idler := Movable.tick m.idler i.idler }

structure LoopInput where
  beforeModules : Interrupts := {}
  beforeMessages : Interrupts := {}
  beforeCommand : Interrupts := {}
  /-- No button pressed reads as the maximum. -/
  buttonsADC : UInt16 := 1023
  findaPin : Bool := false
  vccADC : UInt16 := 225
  rx : List UInt8 := []
  /-- How many bytes of a response find room in the transmit buffer. -/
  txRoom : Nat := 32
  deriving DecidableEq, Repr

/-- What an iteration has decided, and in which states. -/
structure LoopReport where
  /-- A command started by a button event, before messages are checked. -/
  manualStart : Option Start
  /-- A command started by the request. -/
  plannedStart : Option Start
  /-- The state in which a message, if one is complete, is processed. -/
  serving : World
  request : Option RequestMsg
  /-- The response handed to `WriteToUSART` and the bytes of it that were written. -/
  line : Option (List UInt8)
  written : List UInt8
  txRoom : Nat
  /-- The state in which the current command is stepped. -/
  stepping : World
  deriving DecidableEq, Repr

def LoopReport.starts (r : LoopReport) : List Start :=
  r.manualStart.toList ++ r.plannedStart.toList

namespace Modules

/-- The steps of the module objects, in the order of the loop. -/
def stepMovables (m : Modules) (findaPin : Bool) : Modules :=
  let m := { m with finda := m.finda.step m.millis findaPin }
  let m := { m with fsensor := m.fsensor.step m.millis }
  let m := { m with idler := Idler.step m.idler m.globals }
  let m :=
    { m with
      selector := Selector.step m.selector m.globals m.finda.pressed m.idler.homingValid }
  let m := { m with pulley := Pulley.step m.pulley }
  { m with userInput := m.userInput.step m.buttons }

def stepInputs (m : Modules) (buttonsADC : UInt16) : Modules :=
  { m with
    buttons := m.buttons.step m.millis buttonsADC
    leds := m.leds.step m.millis }

/-- All motors are stopped at once and their drivers killed. -/
def killMotors (m : Modules) : Modules :=
  let m := m.abortPlannedMoves
  { m with
    idler := { m.idler with axis := m.idler.axis.disable }
    selector := { m.selector with axis := m.selector.axis.disable }
    pulley := { m.pulley with axis := m.pulley.axis.disable } }

end Modules

namespace World

variable (w : World)

def interrupt (i : Interrupts) : World := { w with modules := w.modules.interrupt i }

def stepModules (i : LoopInput) : World :=
  let m := w.modules.stepInputs i.buttonsADC
  let m := if w.hwSanityError = .ok then m.stepMovables i.findaPin else m
  World.deliverPanic { w with modules := m }

def runtimeHWChecks (vccADC : UInt16) : World :=
  if vccADC > Config.vccADCThreshold then
    World.panic { w with modules := w.modules.killMotors } .mcuUndervoltageVcc
  else w

/-- `WriteToUSART`: the rest of a message that finds no room is skipped. -/
def writeToUSART (line : List UInt8) (txRoom : Nat) : List UInt8 := line.take txRoom

/-- The state in which the messages of the iteration are checked. -/
def beforeMessages (i : LoopInput) : World :=
  ((w.interrupt i.beforeModules).stepModules i |>.runtimeHWChecks i.vccADC).interrupt
    i.beforeMessages

/-- `Application::Step` up to the messages: also tells what a button event has started. -/
def startManually (i : LoopInput) : Option Start × World :=
  (w.beforeMessages i).checkManualOperation

def receive (bytes : List UInt8) : World := { w with rx := w.rx ++ bytes }

/-- Whether a message is complete, and the state in which it is processed. -/
def readMessages (i : LoopInput) : Bool × World :=
  World.checkMsgs ((w.startManually i).2.receive i.rx)

def serve (i : LoopInput) : Served :=
  let serving := (w.readMessages i).2
  if (w.readMessages i).1 then serving.processRequestMsg serving.protocol.requestMsg
  else { world := serving }

/-- The state in which the current command is stepped. -/
def beforeCommand (i : LoopInput) : World := (w.serve i).world.interrupt i.beforeCommand

def report (i : LoopInput) : LoopReport where
  manualStart := (w.startManually i).1
  plannedStart := (w.serve i).started
  serving := (w.readMessages i).2
  request :=
    if (w.readMessages i).1 then some (w.readMessages i).2.protocol.requestMsg else none
  line := (w.serve i).line
  written := writeToUSART ((w.serve i).line.getD []) i.txRoom
  txRoom := i.txRoom
  stepping := w.beforeCommand i

/-- One iteration of the main loop; a board that was reset does nothing any more. -/
def loop (i : LoopInput) : World × Option LoopReport :=
  if w.boardReset then (w, none)
  else
    let stepping := w.beforeCommand i
    (if stepping.boardReset then stepping else stepping.stepCommand, some (w.report i))

/-- The state after running the loop on the given inputs. -/
def run (inputs : List LoopInput) : World := Transducer.run World.loop w inputs

/-- What the iterations of such a run reported. -/
def reports (inputs : List LoopInput) : List LoopReport :=
  (Transducer.trace World.loop w inputs).filterMap Prod.fst

end World

/-- What power-on finds: the EEPROM, the inputs sampled while FINDA and the buttons settle,
and the outcome of the hardware test. -/
structure BootInput where
  storage : PermanentStorage := .erased
  millis : UInt16 := 0
  findaSamples : List (UInt16 × Bool) := []
  buttonSamples : List (UInt16 × UInt16) := []
  pulley : TMCRegisters := {}
  selector : TMCRegisters := {}
  idler : TMCRegisters := {}
  hwSanityError : ErrorCode := .ok
  buildNumber : UInt16 := 0
  deriving DecidableEq, Repr

namespace BootInput

variable (b : BootInput)

def settledFinda : Debouncer :=
  b.findaSamples.foldl (fun d s => d.step s.1 s.2) { debounceTimeout := Config.findaDebounceMs }

def settledButtons : Buttons :=
  b.buttonSamples.foldl (fun d s => d.step s.1 s.2)
    (List.replicate Config.buttonCount { debounceTimeout := Config.buttonsDebounceMs })

/-- An axis as the hardware test leaves it: initialised and disabled. -/
def testedAxis (a : AxisData) (registers : TMCRegisters) : AxisData :=
  ({ a with registers } : AxisData).initAxis.2.stallGuardReset

def modules : Modules where
  millis := b.millis
  finda := b.settledFinda
  fsensor := { debounceTimeout := Config.fsensorDebounceMs }
  buttons := b.settledButtons
  userInput := {}
  leds := {}
  globals := .init b.storage
  idler := { Idler.powerOn with axis := testedAxis Idler.powerOn.axis b.idler }
  selector := { Selector.powerOn with axis := testedAxis Selector.powerOn.axis b.selector }
  pulley := { Pulley.powerOn with axis := testedAxis Pulley.powerOn.axis b.pulley }
  lastCommandProcessedMs := if b.hwSanityError = .ok then b.millis else 0

/-- The left button held at power-on erases the EEPROM and reboots. -/
def eepromResetRequested : Bool := b.settledButtons.buttonPressed 2

/-- The start-up command object when the main loop begins, and the modules. -/
def startUp : StartUp × Modules :=
  let c : StartUp := { data := () }
  let m := b.modules
  if b.hwSanityError ≠ .ok then (c.setInitError b.hwSanityError, m)
  else
    let (_, c, m) := StartUp.reset c m
    let m := { m with idler := Idler.init m.idler m.globals }
    let m := { m with selector := Selector.init m.selector m.globals m.finda.pressed }
    (c, if m.filamentLoaded > .atPulley then m.activeSlotDonePrimed else m)

/-- The state at the beginning of the main loop. -/
def world : World :=
  let w : World :=
    { modules := b.startUp.2
      commands := { startUp := { command := b.startUp.1 } }
      hwSanityError := b.hwSanityError
      buildNumber := b.buildNumber }
  if b.eepromResetRequested then w.processReset World.eepromAndSoftware else w

def run (inputs : List LoopInput) : World := b.world.run inputs

def reports (inputs : List LoopInput) : List LoopReport := b.world.reports inputs

end BootInput

end MmuFirmware
