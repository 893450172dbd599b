import MmuFirmware.Modules.Machine

/-!
The register table of `registers.cpp`. The build number is fixed when the firmware is
built, the version is the one of `version.cmake`.
-/
namespace MmuFirmware

/-- What a register can show: the modules and what the application knows of its command. -/
structure RegisterView where
  modules : Modules
  currentProgressCode : UInt8
  currentErrorCode : UInt16
  buildNumber : UInt16

structure RegisterRec where
  readFunc : RegisterView → UInt16
  writeFunc : Option (Modules → UInt16 → Modules) := none

namespace RegisterRec

/-- A conversion of a signed value to an unsigned one wraps. -/
def ofInt (x : Int) : UInt16 := UInt16.ofNat (x % 65536).toNat

/-- A value kept in the globals. -/
def ofGlobals (get : Globals → UInt16) (set : Globals → UInt16 → Globals) : RegisterRec where
  readFunc v := get v.modules.globals
  writeFunc := some fun m d => { m with globals := set m.globals d }

def stallGuardThreshold (axis : Axis) : RegisterRec :=
  ofGlobals (fun g => (g.stallGuardThreshold axis).toUInt16)
    fun g d => g.setStallGuardThreshold axis d.toUInt8

/-- An item of an axis, given the axis' place among the modules. -/
def ofAxis (axis : Axis) (get : AxisData → UInt16) (set : AxisData → UInt16 → AxisData) :
    RegisterRec where
  readFunc v := get (v.modules.axisData axis)
  writeFunc := some fun m d =>
    match axis with
    | .pulley => { m with pulley := { m.pulley with axis := set m.pulley.axis d } }
    | .selector => { m with selector := { m.selector with axis := set m.selector.axis d } }
    | .idler => { m with idler := { m.idler with axis := set m.idler.axis d } }

def acceleration (axis : Axis) (scale : AxisScale) : RegisterRec :=
  ofAxis axis (fun a => ofInt (scale.ofSteps a.acceleration))
    fun a d => { a with acceleration := (scale.toSteps d.toNat).toNat }

def iRun (axis : Axis) : RegisterRec :=
  ofAxis axis (fun a => a.iRun.toUInt16) fun a d => { a with iRun := d.toUInt8 }

end RegisterRec

open RegisterRec in
def registers : List RegisterRec :=
  [ -- 0x00 project version
    { readFunc := fun _ => 3 },
    { readFunc := fun _ => 0 },
    { readFunc := fun _ => 4 },
    { readFunc := fun v => v.buildNumber },
    -- 0x04 MMU errors
    { readFunc := fun v => v.modules.globals.storage.driveError },
    { readFunc := fun v => v.currentProgressCode.toUInt16 },
    { readFunc := fun v => v.currentErrorCode },
    -- 0x07 filament state, FINDA, filament sensor
    { readFunc := fun v => v.modules.filamentLoaded.toUInt16
      writeFunc := some fun m d => m.setFilamentLoaded m.activeSlot d.toUInt8 },
    { readFunc := fun v => v.modules.finda.pressed.toUInt16 },
    { readFunc := fun v => v.modules.fsensor.pressed.toUInt16
      writeFunc := some fun m d => { m with fsensor := m.fsensor.processMessage (d != 0) } },
    -- 0x0a motor mode
    { readFunc := fun v => v.modules.globals.stealthMode.toUInt16 },
    -- 0x0b filament sensor distances
    ofGlobals (fun g => g.fsensorToNozzleMm.toUInt16)
      fun g d => { g with fsensorToNozzleMm := d.toUInt8 },
    ofGlobals (fun g => g.fsensorUnloadCheckMm.toUInt16)
      fun g d => { g with fsensorUnloadCheckMm := d.toUInt8 },
    -- 0x0d pulley unload feedrate
    ofGlobals Globals.pulleyUnloadFeedrate fun g d => { g with pulleyUnloadFeedrate := d },
    -- 0x0e accelerations
    acceleration .pulley pulleyScale,
    acceleration .selector selectorScale,
    acceleration .idler idlerScale,
    -- 0x11 feedrates
    ofGlobals Globals.pulleyLoadFeedrate fun g d => { g with pulleyLoadFeedrate := d },
    ofGlobals Globals.selectorFeedrate fun g d => { g with selectorFeedrate := d },
    ofGlobals Globals.idlerFeedrate fun g d => { g with idlerFeedrate := d },
    ofGlobals Globals.pulleySlowFeedrate fun g d => { g with pulleySlowFeedrate := d },
    ofGlobals Globals.selectorHomingFeedrate fun g d => { g with selectorHomingFeedrate := d },
    ofGlobals Globals.idlerHomingFeedrate fun g d => { g with idlerHomingFeedrate := d },
    -- 0x17 StallGuard thresholds
    stallGuardThreshold .pulley,
    stallGuardThreshold .selector,
    stallGuardThreshold .idler,
    -- 0x1a positions
    { readFunc := fun v => ofInt v.modules.pulley.currentPositionMm },
    { readFunc := fun v => v.modules.selector.currentSlot.toUInt16
      writeFunc := some fun m d => (m.selectorMoveToSlot d.toUInt8).2 },
    { readFunc := fun v => v.modules.idler.currentSlot.toUInt16
      writeFunc := some fun m d =>
        if d ≥ Config.toolCount.toUInt16 then m.idlerDisengage else m.idlerEngage d.toUInt8 },
    -- 0x1d currents
    ofGlobals (fun g => g.cutIRunCurrent.toUInt16)
      fun g d => { g with cutIRunCurrent := d.toUInt8 },
    iRun .pulley,
    iRun .selector,
    iRun .idler,
    -- 0x21 voltage, a constant
    { readFunc := fun _ => 225 },
    -- 0x22 bowden length
    ofGlobals (fun g => g.storage.bowdenLength)
      fun g d => { g with storage := { g.storage with bowdenLengthMM := d } },
    -- 0x23 cut length
    ofGlobals (fun g => g.cutLengthMm.toUInt16)
      fun g d => { g with cutLengthMm := d.toUInt8 } ]

def readRegister (address : UInt8) (v : RegisterView) : Option UInt16 :=
  registers[address.toNat]?.map fun r => r.readFunc v

/-- A register without a write function rejects the write. -/
def writeRegister (address : UInt8) (value : UInt16) (m : Modules) : Bool × Modules :=
  match registers[address.toNat]?.bind RegisterRec.writeFunc with
  | some writeFunc => (true, writeFunc m value)
  | none => (false, m)

example : registers.length = 36 := rfl

end MmuFirmware
