import Mathlib.Data.Nat.Notation

/-!
The constants of `config/config.h` the firmware logic reads, and the conversion between
physical units and steps. A length is a whole number of degrees or millimetres, or of
hundredths of a millimetre where the source has a fraction. Conversions are exact
fractions truncated towards zero, as the casts of `axisunit.h` are.
-/
namespace MmuFirmware

namespace Config

def toolCount : UInt8 := 5

def fsensorDebounceMs : UInt8 := 2
def findaDebounceMs : UInt8 := 100
def buttonsDebounceMs : UInt8 := 20

def buttonCount : Nat := 3
def buttonADCLimits : List (UInt16 × UInt16) := [(0, 50), (80, 100), (160, 180)]
def vccADCThreshold : UInt16 := 274

def ledBlinkPeriodMs : UInt16 := 1024

def blockBufferSize : Nat := 4

def defaultBowdenLength : UInt16 := 360
def minimumBowdenLength : UInt16 := 341
def maximumBowdenLength : UInt16 := 1000

-- hundredths of a millimetre
def filamentMinLoadedToMMU : Int := 2000
def ejectFromCuttingEdge : Int := 4000
def cuttingEdgeRetract : Int := 500
def cuttingEdgeToFindaMidpoint : Int := 2285
def feedToFinda : Int := cuttingEdgeToFindaMidpoint + filamentMinLoadedToMMU
def maximumFeedToFinda : Int := feedToFinda + 2000
def fsensorToNozzleAvoidGrind : Int := 500
def fsensorToNozzleAvoidGrindUnload : Int := 2000

def cutLength : UInt8 := 8
def fsensorToNozzle : UInt8 := 30
def fsensorUnloadCheckDistance : UInt8 := 40

def pulleyUnloadFeedrate : UInt16 := 95
def pulleyLoadFeedrate : UInt16 := 95
def pulleySlowFeedrate : UInt16 := 20
def selectorFeedrate : UInt16 := 45
def selectorHomingFeedrate : UInt16 := 30
def idlerFeedrate : UInt16 := 300
def idlerHomingFeedrate : UInt16 := 265

def selectorCutIRun : UInt8 := 40

/-- Length of the selector axis in millimetres. -/
def selectorLength : Int := 75

/-- Length of the idler axis in degrees. -/
def idlerLength : Int := 225

def idlerOffsetFromHome : Int := 18

def selectorSlotPositions : List Int := [1, 15, 29, 43, 57, 71]
def idlerSlotPositions : List Int := [218, 178, 138, 98, 58, 18]
def idlerIntermediateSlotPositions : List Int := [208, 168, 128, 88, 48, 18]

end Config

/-- A fraction of steps per unit. -/
structure AxisScale where
  num : Nat
  den : Nat
  deriving DecidableEq, Repr

namespace AxisScale

def toSteps (a : AxisScale) (x : Int) : Int := (x * a.num).tdiv a.den

def ofSteps (a : AxisScale) (s : Int) : Int := (s * a.den).tdiv a.num

end AxisScale

/-- `200 * 16 / 360` steps per degree. -/
def idlerScale : AxisScale := ⟨80, 9⟩

/-- `200 * 8 / 8` steps per millimetre. -/
def selectorScale : AxisScale := ⟨200, 1⟩

/-- `200 * 8 / 19.147274` steps per millimetre. -/
def pulleyScale : AxisScale := ⟨1600000000, 19147274⟩

/-- Steps of the pulley for hundredths of a millimetre. -/
def pulleySteps (x : Int) : Int :=
  AxisScale.toSteps ⟨pulleyScale.num, 100 * pulleyScale.den⟩ x

end MmuFirmware
