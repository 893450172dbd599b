import Mathlib.Data.Nat.Notation

/-!
Error, progress and result codes of `logic/`. Error codes are bit patterns (axis bits are
or-ed into them), so they stay machine words; progress and result codes are enumerations.
-/
namespace MmuFirmware

abbrev ErrorCode := UInt16

namespace ErrorCode

def running : ErrorCode := 0x0000
def ok : ErrorCode := 0x0001

def tmcPulleyBit : ErrorCode := 0x0040
def tmcSelectorBit : ErrorCode := 0x0080
def tmcIdlerBit : ErrorCode := 0x0100

def findaDidntSwitchOn : ErrorCode := 0x8001
def findaDidntSwitchOff : ErrorCode := 0x8002
def fsensorDidntSwitchOn : ErrorCode := 0x8003
def fsensorDidntSwitchOff : ErrorCode := 0x8004
def invalidTool : ErrorCode := 0x8006
def homingFailed : ErrorCode := 0x8007
def homingSelectorFailed : ErrorCode := homingFailed ||| tmcSelectorBit
def findaVsEepromDisrepancy : ErrorCode := 0x8008
def fsensorTooEarly : ErrorCode := 0x8009
def findaFlickers : ErrorCode := 0x800a
def filamentEjected : ErrorCode := 0x800c
def mcuUndervoltageVcc : ErrorCode := 0x800d
def queueFull : ErrorCode := 0x802b
def internal : ErrorCode := 0x802f

def tmcReset : ErrorCode := 0x8400
def tmcUndervoltageOnChargePump : ErrorCode := 0x8800
def tmcShortToGround : ErrorCode := 0x9000
def tmcOverTemperatureWarn : ErrorCode := 0xa000
def tmcOverTemperatureError : ErrorCode := 0xc000

def mmuSolderingNeedsAttention : ErrorCode := 0xc200

end ErrorCode

inductive ProgressCode where
  | ok | engagingIdler | disengagingIdler | unloadingToFinda | unloadingToPulley
  | feedingToFinda | feedingToBondtech | feedingToNozzle | avoidingGrind | finishingMoves
  | errDisengagingIdler | errEngagingIdler | errWaitingForUser | errInternal
  | errHelpingFilament | errTMCFailed
  | unloadingFilament | loadingFilament | selectingFilamentSlot | preparingBlade
  | pushingFilament | performingCut | returningSelector | parkingSelector
  | ejectingFilament | retractingFromFinda
  | homing | movingSelector | feedingToFSensor
  | hwTestBegin | hwTestIdler | hwTestSelector | hwTestPulley | hwTestCleanup
  | hwTestExec | hwTestDisplay | errHwTestFailed
  | empty
  deriving DecidableEq, Repr

/-- The raw value reported to the printer; the dummy state is `0xff`. -/
def ProgressCode.toByte : ProgressCode → UInt8
  | .empty => 0xff
  | p => UInt8.ofNat p.ctorIdx

inductive ResultCode where
  | ok | cancelled
  deriving DecidableEq, Repr

def ResultCode.toByte : ResultCode → UInt8
  | .ok => 0
  | .cancelled => 1

end MmuFirmware
