import MmuFirmware.Modules.Config

/-!
`modules/debouncer.cpp` and the three inputs built on it: FINDA, the printer's filament
sensor and the buttons. Times are readings of the 16-bit millisecond clock and their
differences wrap, as unsigned arithmetic does on the AVR.
-/
namespace MmuFirmware

inductive DebouncerState where
  | waiting | detected | waitForRelease | update
  deriving DecidableEq, Repr

structure Debouncer where
  state : DebouncerState := .waiting
  tmp : Bool := false
  timeLastChange : UInt16 := 0
  debounceTimeout : UInt8
  deriving DecidableEq, Repr

namespace Debouncer

def pressed (d : Debouncer) : Bool := d.state == .waitForRelease

def step (d : Debouncer) (time : UInt16) (press : Bool) : Debouncer :=
  match d.state with
  | .waiting =>
      if press then { d with state := .detected, timeLastChange := time, tmp := press } else d
  | .detected =>
      if d.tmp == press then
        if time - d.timeLastChange ≥ d.debounceTimeout.toUInt16 then
          { d with state := .waitForRelease }
        else d
      else { d with state := .waiting }
  | .waitForRelease => if press then d else { d with state := .update }
  | .update => { d with state := .waiting, timeLastChange := time, tmp := false }

end Debouncer

/-- The filament sensor of the printer: the state reported by messages, debounced. -/
structure FSensor extends Debouncer where
  reportedFSensorState : Bool := false
  deriving DecidableEq, Repr

namespace FSensor

def step (f : FSensor) (time : UInt16) : FSensor :=
  { f with toDebouncer := f.toDebouncer.step time f.reportedFSensorState }

def processMessage (f : FSensor) (on : Bool) : FSensor :=
  { f with reportedFSensorState := on }

end FSensor

/-- Index of the button whose level an ADC reading is in, if any. -/
def decodeADC (rawADC : UInt16) : Option Nat :=
  Config.buttonADCLimits.findIdx? fun limits => rawADC ≥ limits.1 && rawADC ≤ limits.2

abbrev Buttons := List Debouncer

namespace Buttons

def step (b : Buttons) (time : UInt16) (rawADC : UInt16) : Buttons :=
  b.mapIdx fun i button => button.step time (decodeADC rawADC == some i)

def buttonPressed (b : Buttons) (index : Nat) : Bool :=
  (b[index]?.map Debouncer.pressed).getD false

end Buttons

end MmuFirmware
