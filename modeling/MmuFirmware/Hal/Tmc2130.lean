import Mathlib.Data.List.Basic
import MmuFirmware.Modules.Motion

/-!
The TMC2130 driver of an axis: what it keeps in memory, the datagrams it exchanges with the
chip over SPI, and the filter of the StallGuard signal. Registers are 32 bit words, counters
bytes.
-/
namespace MmuFirmware

namespace TMC2130

/-- The registers the firmware accesses. -/
inductive Registers where
  | gconf | gstat | ioin
  | iholdIrun | tpowerdown | tpwmthrs | tcoolthrs
  | chopconf | coolconf | drvStatus | pwmconf
  deriving DecidableEq, Repr

namespace Registers

def address : Registers → BitVec 8
  | gconf => 0x00
  | gstat => 0x01
  | ioin => 0x04
  | iholdIrun => 0x10
  | tpowerdown => 0x11
  | tpwmthrs => 0x13
  | tcoolthrs => 0x14
  | chopconf => 0x6c
  | coolconf => 0x6d
  | drvStatus => 0x6f
  | pwmconf => 0x70

/-- The registers that report instead of being set. -/
def status : Registers → Bool
  | gstat | ioin | drvStatus => true
  | _ => false

end Registers

/-- The five bytes that are exchanged while the chip is selected. -/
structure Datagram where
  b0 : BitVec 8
  b1 : BitVec 8
  b2 : BitVec 8
  b3 : BitVec 8
  b4 : BitVec 8
  deriving DecidableEq, Repr

namespace Datagram

/-- The data of a datagram, most significant byte first. -/
def data (d : Datagram) : BitVec 32 := d.b1 ++ d.b2 ++ d.b3 ++ d.b4

/-- `pData[1] << 24 | pData[2] << 16 | pData[3] << 8 | pData[4]` -/
def word (d : Datagram) : BitVec 32 :=
  d.b1.setWidth 32 <<< 24 ||| d.b2.setWidth 32 <<< 16 ||| d.b3.setWidth 32 <<< 8 |||
    d.b4.setWidth 32

/-- The datagram that writes a register. -/
def ofWrite (reg : Registers) (data : BitVec 32) : Datagram where
  b0 := reg.address ||| 0x80
  b1 := (data >>> 24).setWidth 8
  b2 := (data >>> 16).setWidth 8
  b3 := (data >>> 8).setWidth 8
  b4 := data.setWidth 8

theorem word_eq (d : Datagram) : d.word = d.data := by
  ext i hi
  simp only [word, data]
  grind

theorem data_ofWrite (reg : Registers) (data : BitVec 32) : (ofWrite reg data).data = data := by
  ext i hi
  simp only [Datagram.data, ofWrite]
  grind

end Datagram

/-- What the data sheet promises of a chip: a datagram is answered with what the one before it
asked for, and it reads or writes the register it names. The registers that report change as
they like. -/
structure Chip (χ : Type*) where
  transfer : χ → Datagram → Datagram × χ
  content : χ → Registers → BitVec 32
  /-- What the next datagram is answered with. -/
  readout : χ → BitVec 32
  answer : ∀ c d, (transfer c d).1.data = readout c
  readout_read : ∀ c d (reg : Registers), d.b0 = reg.address →
    readout (transfer c d).2 = content c reg
  content_read : ∀ c d (reg reg' : Registers), d.b0 = reg.address → reg'.status = false →
    content (transfer c d).2 reg' = content c reg'
  content_write : ∀ c d (reg reg' : Registers), d.b0 = reg.address ||| 0x80 →
    reg'.status = false →
    content (transfer c d).2 reg' = if reg' = reg then d.data else content c reg'

/-- The part of `MotorParams` that goes into registers. -/
structure MotorParams where
  mRes : BitVec 4
  sgThrs : BitVec 8
  deriving DecidableEq, Repr

structure MotorCurrents where
  vSense : Bool
  iRun : BitVec 8
  iHold : BitVec 8
  deriving DecidableEq, Repr

/-- The upper half of the range is covered by the other scaling. -/
def MotorCurrents.of (ir ih : BitVec 8) : MotorCurrents where
  vSense := ir < 32
  iRun := if ir < 32 then ir else ir >>> 1
  iHold := if ir < 32 then ih else ih >>> 1

def toffDefault : BitVec 4 := 3

/-- `ChopConfU`, last field first. -/
def chopConf (vsense : Bool) (mres : BitVec 4) : BitVec 32 :=
  0#1 ++ 0#1 ++ 1#1 ++ 1#1 ++ mres ++ 0#4 ++ 0#1 ++ 0#1 ++ BitVec.ofBool vsense ++ 2#2 ++
    0#1 ++ 0#1 ++ 0#1 ++ 0#1 ++ 1#4 ++ 5#3 ++ toffDefault

/-- `IHoldRun`, last field first. -/
def iHoldRun (ih ir : BitVec 8) : BitVec 32 := 15#16 ++ ir ++ ih

/-- `SGTHRSU`, last field first. -/
def sgThrsU (sgthrs : BitVec 8) : BitVec 32 :=
  0#7 ++ 0#1 ++ 0#1 ++ sgthrs.setWidth 7 ++ 0#16

def coolStepThreshold : BitVec 32 := 450

def gconf : BitVec 32 := 1#32 <<< 2 ||| 1#32 <<< 7

def pwmconf : BitVec 32 :=
  240#32 <<< 0 ||| 4#32 <<< 8 ||| 0#32 <<< 16 ||| 1#32 <<< 18 ||| 1#32 <<< 20

def modeThreshold : MotorMode → BitVec 32
  | .stealth => 70
  | .normal => 0xffff0

section Accesses

variable {χ : Type*} (m : Chip χ) (c : χ)

def readRegister (reg : Registers) : BitVec 32 × χ :=
  let first := m.transfer c ⟨reg.address, 0, 0, 0, 0⟩
  let second := m.transfer first.2 { first.1 with b0 := 0 }
  (second.1.word, second.2)

def writeRegister (reg : Registers) (data : BitVec 32) : χ :=
  (m.transfer c (.ofWrite reg data)).2

def applyMode (mode : MotorMode) : χ := writeRegister m c .tpwmthrs (modeThreshold mode)

def setBridgeOutput (bOn : Bool) : χ :=
  let chopconf := readRegister m c .chopconf
  let bits := chopconf.1 &&& ~~~0xf
  writeRegister m chopconf.2 .chopconf (if bOn then bits ||| toffDefault.setWidth 32 else bits)

def setCurrents (currents : MotorCurrents) : χ :=
  writeRegister m c .iholdIrun (iHoldRun
    ((if currents.iHold > currents.iRun then currents.iRun else currents.iHold) &&& 0x1f)
    (currents.iRun &&& 0x1f))

def applySGTHRS (params : MotorParams) : χ :=
  writeRegister m c .coolconf (sgThrsU params.sgThrs)

/-- The registers that are set once the chip has been recognised. -/
def configure (params : MotorParams) (currents : MotorCurrents) (mode : MotorMode) : χ :=
  let c := writeRegister m c .chopconf (chopConf currents.vSense params.mRes)
  let c := setCurrents m c currents
  let c := writeRegister m c .tpowerdown 0
  let c := applySGTHRS m c params
  let c := writeRegister m c .tcoolthrs coolStepThreshold
  let c := writeRegister m c .gconf gconf
  let c := writeRegister m c .pwmconf pwmconf
  applyMode m c mode

end Accesses

end TMC2130

/-- What the driver object keeps. -/
structure TMC2130 where
  errorFlags : TMCErrorFlags := {}
  initialized : Bool := false
  enabled : Bool := false
  sgFilterThreshold : BitVec 8 := 0
  sgFilterCounter : BitVec 8 := 0
  deriving DecidableEq, Repr

namespace TMC2130

variable {χ : Type*} (m : Chip χ) (drv : TMC2130) (c : χ)

/-- The version is the wrong one, or a bit that is always set is not. -/
def foreign (ioin : BitVec 32) : Bool := ioin >>> 24 != 0x11 || ioin &&& 1#32 <<< 6 == 0

def init (params : MotorParams) (currents : MotorCurrents) (mode : MotorMode) :
    Bool × TMC2130 × χ :=
  let drv := { drv with initialized := false, sgFilterThreshold := 2 }
  let ioin := readRegister m c .ioin
  if foreign ioin.1 then (false, drv, ioin.2)
  else
    let drv := { drv with errorFlags := { drv.errorFlags with resetFlag := false } }
    let gstat := readRegister m ioin.2 .gstat
    (true, { drv with initialized := true }, configure m gstat.2 params currents mode)

def stalled : Bool := drv.sgFilterCounter == 0

def clearStallguard : TMC2130 := { drv with sgFilterCounter := drv.sgFilterThreshold }

/-- The motor is switched over the shift register; here is what the driver notes of it. -/
def setEnabled (enabled : Bool) : TMC2130 :=
  let drv := if drv.enabled ≠ enabled then drv.clearStallguard else drv
  { drv with enabled }

def bitsSet (register mask : BitVec 32) : Bool := register &&& mask != 0

def checkForErrors : Bool × TMC2130 × χ :=
  if drv.initialized then
    let gstat := readRegister m c .gstat
    let drvStatus := readRegister m gstat.2 .drvStatus
    let errorFlags : TMCErrorFlags :=
      { resetFlag := drv.errorFlags.resetFlag || bitsSet gstat.1 (1#32 <<< 0)
        uvCp := bitsSet gstat.1 (1#32 <<< 2)
        s2g := bitsSet drvStatus.1 (3#32 <<< 27)
        otpw := bitsSet drvStatus.1 (1#32 <<< 26)
        ot := bitsSet drvStatus.1 (1#32 <<< 25) }
    (gstat.1 != 0 || errorFlags.resetFlag, { drv with errorFlags }, drvStatus.2)
  else (false, drv, c)

/-- A sample of the DIAG pin, after steps. -/
def isr (diag : Bool) : TMC2130 :=
  if drv.sgFilterCounter ≠ 0 then
    if diag then { drv with sgFilterCounter := drv.sgFilterCounter - 1 }
    else if drv.sgFilterCounter < drv.sgFilterThreshold then
      { drv with sgFilterCounter := drv.sgFilterCounter + 1 }
    else drv
  else drv

end TMC2130

end MmuFirmware
