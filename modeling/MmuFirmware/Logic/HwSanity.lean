import MmuFirmware.Lib.WaitLoop
import MmuFirmware.Logic.CommandBase
import Mathlib.Logic.Function.Basic

/-!
`logic/hw_sanity.cpp`: the hardware test at power-on. It has the drivers and the LEDs to
itself; a step may read the clock twice and the IOIN register of a driver once. Every
readback is recorded together with the levels that had been set for it.
-/
namespace MmuFirmware

namespace Config

def ledWaitMs : UInt16 := 50
def testPasses : UInt8 := 3

end Config

/-- The pins of a driver that are not part of its `AxisData`, as they were last set. -/
structure DriverPins where
  step : Bool := false
  dir : Bool := false
  /-- `TOFF` is not cleared. -/
  bridge : Bool := true
  deriving DecidableEq, Repr

/-- One reading of IOIN, and the levels it should show. -/
structure Readback where
  axis : Axis
  setState : UInt8
  ioin : UInt32
  deriving DecidableEq, Repr

/-- What the test works on. -/
structure TestBench where
  leds : LEDs := {}
  axes : Axis → AxisData
  pins : Axis → DriverPins := fun _ => {}
  lastCommandProcessedMs : UInt16 := 0
  readbacks : List Readback := []

/-- What a step reads. -/
structure TestReadings where
  /-- The clock, where the test looks whether a display is over. -/
  elapsed : UInt16 := 0
  /-- The clock, where the test takes the time. -/
  millis : UInt16 := 0
  ioin : UInt32 := 0x11000040
  deriving DecidableEq, Repr

structure HWSanityData where
  testStep : UInt8 := 0
  axis : Axis := .pulley
  faultMasks : Axis → UInt8 := fun _ => 0
  nextState : ProgressCode := .hwTestBegin
  waitStart : UInt16 := 0
  dasBlinkenState : LEDMode := .off

abbrev HWSanity := Command HWSanityData

namespace TestBench

variable (b : TestBench)

def setLeds (f : LEDs → LEDs) : TestBench := { b with leds := f b.leds }

def setAxis (axis : Axis) (f : AxisData → AxisData) : TestBench :=
  { b with axes := Function.update b.axes axis (f (b.axes axis)) }

def setPins (axis : Axis) (f : DriverPins → DriverPins) : TestBench :=
  { b with pins := Function.update b.pins axis (f (b.pins axis)) }

end TestBench

namespace HWSanity

def bitStep : UInt8 := 0b001
def bitDir : UInt8 := 0b010
def bitEna : UInt8 := 0b100

def reset (c : HWSanity) : Bool × HWSanity :=
  (true,
    { c with
      state := .hwTestBegin
      error := .running
      data := { c.data with axis := .idler, faultMasks := fun _ => 0 } })

def setFaultDisplay (l : LEDs) (slot mask : UInt8) : LEDs :=
  let green : LEDMode := if mask &&& bitStep ≠ 0 then .on else .off
  let red : LEDMode := if mask &&& bitDir ≠ 0 then .on else .off
  let ena := mask &&& bitEna ≠ 0
  let green := if ena then (if green ≠ .off then .blink0 else .on) else green
  let red := if ena then (if red ≠ .off then .blink0 else .on) else red
  (l.setMode slot .green green).setMode slot .red red

/-- The driver is initialised, its bridge off so that the motor does not move. -/
def prepareAxis (axis : Axis) (ioin : UInt32) (b : TestBench) : TestBench :=
  let b := b.setAxis axis fun a => { a with registers := { a.registers with ioin } }
  let b := b.setAxis axis fun a => a.initAxis.2.setMode .normal
  b.setPins axis fun p => { p with bridge := false }

/-- IOIN with its bits where `setState` has them; the level of ENA reads inverted. -/
def composeIoin (ioin : UInt32) : UInt32 :=
  (ioin &&& 0b11) ||| (if ioin &&& 0b10000 ≠ 0 then 0 else 4)

def bitErrs (setState : UInt8) (ioin : UInt32) : UInt8 :=
  (composeIoin ioin ^^^ setState.toUInt32).toUInt8

/-- Green where the readback agrees. -/
def agreementColor (errs bit : UInt8) : LEDColor := if errs &&& bit = 0 then .green else .red

/-- `state == HWTestIdler` and its two siblings: an axis is prepared and tested next. -/
def startAxis (c : HWSanity) (axis : Axis) (greenMode redMode : LEDMode) (next : ProgressCode)
    (i : TestReadings) (b : TestBench) : Bool × HWSanity × TestBench :=
  (false,
    { c with state := .hwTestExec, data := { c.data with axis, nextState := next } },
    prepareAxis axis i.ioin (b.setLeds fun l => l.setPairButOffOthers 3 greenMode redMode))

/-- The main test loop for an axis. -/
def exec (c : HWSanity) (i : TestReadings) (b : TestBench) : Bool × HWSanity × TestBench :=
  let axis := c.data.axis
  if c.data.testStep < Config.testPasses * 8 then
    let setState := c.data.testStep % 8
    let b := b.setPins axis fun p =>
      { p with dir := setState &&& bitDir ≠ 0, step := setState &&& bitStep ≠ 0 }
    let b := b.setAxis axis fun a => a.setEnabled (setState &&& bitEna ≠ 0)
    let b := { b with readbacks := b.readbacks ++ [{ axis, setState, ioin := i.ioin : Readback }] }
    let errs := bitErrs setState i.ioin
    let blinken := if c.data.dasBlinkenState ≠ .off then .off else .on
    let b := b.setLeds fun l =>
      let l := l.setMode 0 (agreementColor errs bitStep) .on
      let l := l.setMode 1 (agreementColor errs bitDir) .on
      let l := l.setMode 2 (agreementColor errs bitEna) .on
      l.setMode 4 .green blinken
    (false,
      { c with
        state := .hwTestDisplay
        data :=
          { c.data with
            faultMasks := Function.update c.data.faultMasks axis (c.data.faultMasks axis ||| errs)
            waitStart := i.millis
            dasBlinkenState := blinken
            testStep := c.data.testStep + 1 } },
      b)
  else
    let b := b.setAxis axis fun a => a.setEnabled false
    (false, { c with state := c.data.nextState, data := { c.data with testStep := 0 } },
      b.setPins axis fun p => { p with bridge := true })

/-- The axes in the order of their numbers. -/
def axesByNumber : List Axis := [.pulley, .selector, .idler]

def cleanup (c : HWSanity) (i : TestReadings) (b : TestBench) : Bool × HWSanity × TestBench :=
  let masks := c.data.faultMasks
  if masks .pulley ≠ 0 ∨ masks .selector ≠ 0 ∨ masks .idler ≠ 0 then
    let faulty := axesByNumber.filter fun axis => masks axis ≠ 0
    let b := b.setLeds fun l =>
      let l :=
        faulty.foldl (fun l axis => setFaultDisplay l (UInt8.ofNat axis.ctorIdx) (masks axis)) l
      ((l.setMode 3 .red .off).setMode 3 .green .off |>.setMode 4 .red .on).setMode 4 .green .off
    (true,
      { c with
        state := .errHwTestFailed
        error := faulty.foldl addErrorAxisBit .mmuSolderingNeedsAttention },
      b)
  else
    (true, { c with state := .ok, error := .ok },
      { b.setLeds LEDs.setAllOff with lastCommandProcessedMs := i.millis })

def stepInner (c : HWSanity) (i : TestReadings) (b : TestBench) : Bool × HWSanity × TestBench :=
  match c.state with
  | .hwTestBegin =>
      (false,
        { c with state := .hwTestIdler, error := .running, data := { c.data with testStep := 0 } },
        b)
  | .hwTestIdler => startAxis c .idler .on .off .hwTestSelector i b
  | .hwTestSelector => startAxis c .selector .off .on .hwTestPulley i b
  | .hwTestPulley => startAxis c .pulley .on .on .hwTestCleanup i b
  | .hwTestDisplay =>
      if i.elapsed - c.data.waitStart > Config.ledWaitMs then
        exec { c with state := .hwTestExec } i (b.setLeds LEDs.setAllOff)
      else (false, c, b)
  | .hwTestExec => exec c i b
  | .hwTestCleanup => cleanup c i b
  | .ok => (true, c, b)
  | _ => (true, { c with state := .errInternal, error := .internal }, b)

/-- `while (!StepInner())`: the test after `n` steps, and whether it has ended by then. -/
def run (c : HWSanity) (b : TestBench) (readings : Nat → TestReadings) :
    Nat → Bool × HWSanity × TestBench :=
  WaitLoop.after (fun i r => stepInner r.1 i r.2) (c, b) readings

end HWSanity

end MmuFirmware
