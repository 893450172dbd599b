import MmuFirmware.Modules.Config

/-!
`modules/globals.cpp` and the part of `modules/permanent_storage.cpp` it uses. The filament
record is kept as the value a read gives back; the wear levelling behind it is not
visible here.
-/
namespace MmuFirmware

/-- A value of the enumeration, or any other byte a register write has put there. -/
abbrev FilamentLoadState := UInt8

namespace FilamentLoadState

def notLoaded : FilamentLoadState := 0
def atPulley : FilamentLoadState := 1
def inSelector : FilamentLoadState := 2
def inFSensor : FilamentLoadState := 4
def inNozzle : FilamentLoadState := 8

end FilamentLoadState

inductive Axis where
  | pulley | selector | idler
  deriving DecidableEq, Repr

structure PermanentStorage where
  /-- The nibble of the current filament record, if there is a valid record. -/
  filamentLoaded : Option UInt8
  driveErrorCountH : UInt8
  driveErrorCountL0 : UInt8
  driveErrorCountL1 : UInt8
  sgThrsPulley : UInt8
  sgThrsSelector : UInt8
  sgThrsIdler : UInt8
  bowdenLengthMM : UInt16
  deriving DecidableEq, Repr

namespace PermanentStorage

/-- The storage with every cell `0xff`. -/
def erased : PermanentStorage where
  filamentLoaded := none
  driveErrorCountH := 0xff
  driveErrorCountL0 := 0xff
  driveErrorCountL1 := 0xff
  sgThrsPulley := 0xff
  sgThrsSelector := 0xff
  sgThrsIdler := 0xff
  bowdenLengthMM := 0xffff

def setFilamentLoaded (s : PermanentStorage) (filament : UInt8) : PermanentStorage :=
  { s with filamentLoaded := some (filament &&& 0x0f) }

def validBowdenLen (bowdenLength : UInt16) : Bool :=
  bowdenLength ≥ Config.minimumBowdenLength && bowdenLength ≤ Config.maximumBowdenLength

def bowdenLength (s : PermanentStorage) : UInt16 :=
  if validBowdenLen s.bowdenLengthMM then s.bowdenLengthMM else Config.defaultBowdenLength

def driveErrorL (s : PermanentStorage) : UInt8 :=
  let first := s.driveErrorCountL0
  let second := s.driveErrorCountL1
  if first = 0xff ∧ second = 0 then 1 else if first > second then first + 1 else second + 1

def driveError (s : PermanentStorage) : UInt16 :=
  (s.driveErrorCountH + 1).toUInt16 <<< 8 + s.driveErrorL.toUInt16

def setDriveErrorL (s : PermanentStorage) (lowByte : UInt8) : PermanentStorage :=
  if lowByte % 2 = 0 then { s with driveErrorCountL0 := lowByte - 1 }
  else { s with driveErrorCountL1 := lowByte - 1 }

def incrementDriveError (s : PermanentStorage) : PermanentStorage :=
  if s.driveError < 0xffff then
    let errors := s.driveError + 1
    { s.setDriveErrorL errors.toUInt8 with driveErrorCountH := (errors >>> 8).toUInt8 - 1 }
  else s

theorem filamentLoaded_incrementDriveError (s : PermanentStorage) :
    s.incrementDriveError.filamentLoaded = s.filamentLoaded := by
  rw [incrementDriveError]
  split
  · simp only [setDriveErrorL]
    split <;> rfl
  · rfl

end PermanentStorage

structure Globals where
  activeSlot : UInt8
  filamentLoaded : FilamentLoadState
  stealthMode : Bool := false
  fsensorToNozzleMm : UInt8 := Config.fsensorToNozzle
  fsensorUnloadCheckMm : UInt8 := Config.fsensorUnloadCheckDistance
  pulleyLoadFeedrate : UInt16 := Config.pulleyLoadFeedrate
  pulleySlowFeedrate : UInt16 := Config.pulleySlowFeedrate
  pulleyUnloadFeedrate : UInt16 := Config.pulleyUnloadFeedrate
  selectorFeedrate : UInt16 := Config.selectorFeedrate
  selectorHomingFeedrate : UInt16 := Config.selectorHomingFeedrate
  idlerFeedrate : UInt16 := Config.idlerFeedrate
  idlerHomingFeedrate : UInt16 := Config.idlerHomingFeedrate
  cutIRunCurrent : UInt8 := Config.selectorCutIRun
  cutLengthMm : UInt8 := Config.cutLength
  storage : PermanentStorage
  deriving DecidableEq, Repr

/-- The speeds moves are planned with, as the registers keep them. -/
structure Feedrates where
  pulleyLoad : UInt16
  pulleySlow : UInt16
  pulleyUnload : UInt16
  selector : UInt16
  selectorHoming : UInt16
  idler : UInt16
  idlerHoming : UInt16
  deriving DecidableEq, Repr

namespace Globals

def feedrates (g : Globals) : Feedrates where
  pulleyLoad := g.pulleyLoadFeedrate
  pulleySlow := g.pulleySlowFeedrate
  pulleyUnload := g.pulleyUnloadFeedrate
  selector := g.selectorFeedrate
  selectorHoming := g.selectorHomingFeedrate
  idler := g.idlerFeedrate
  idlerHoming := g.idlerHomingFeedrate

/-- The globals after power-on with the given content of the EEPROM. -/
def init (storage : PermanentStorage) : Globals :=
  let activeSlot :=
    match storage.filamentLoaded with
    | some filament => if filament < Config.toolCount then filament else Config.toolCount
    | none => Config.toolCount
  { activeSlot
    filamentLoaded :=
      -- worst case: a recorded filament may be down in the nozzle
      if activeSlot < Config.toolCount then .inNozzle else .atPulley
    storage }

def setFilamentLoaded (g : Globals) (slot : UInt8) (newFilamentLoaded : FilamentLoadState) :
    Globals :=
  { g with
    filamentLoaded := newFilamentLoaded
    activeSlot := slot
    storage :=
      if newFilamentLoaded = .notLoaded ∨ newFilamentLoaded = .atPulley then
        g.storage.setFilamentLoaded Config.toolCount
      else if newFilamentLoaded = .inSelector ∨ newFilamentLoaded = .inFSensor ∨
          newFilamentLoaded = .inNozzle then
        g.storage.setFilamentLoaded slot
      else g.storage }

@[simp] theorem setFilamentLoaded_activeSlot (g : Globals) (slot : UInt8)
    (s : FilamentLoadState) : (g.setFilamentLoaded slot s).activeSlot = slot := rfl

@[simp] theorem setFilamentLoaded_filamentLoaded (g : Globals) (slot : UInt8)
    (s : FilamentLoadState) : (g.setFilamentLoaded slot s).filamentLoaded = s := rfl

def incDriveErrors (g : Globals) : Globals :=
  { g with storage := g.storage.incrementDriveError }

@[simp] theorem incDriveErrors_activeSlot (g : Globals) :
    g.incDriveErrors.activeSlot = g.activeSlot := rfl

@[simp] theorem incDriveErrors_filamentLoaded (g : Globals) :
    g.incDriveErrors.filamentLoaded = g.filamentLoaded := rfl

def stallGuardThreshold (g : Globals) : Axis → UInt8
  | .pulley => if g.storage.sgThrsPulley = 0xff then 8 else g.storage.sgThrsPulley
  | .selector => if g.storage.sgThrsSelector = 0xff then 3 else g.storage.sgThrsSelector
  | .idler => if g.storage.sgThrsIdler = 0xff then 7 else g.storage.sgThrsIdler

def setStallGuardThreshold (g : Globals) (axis : Axis) (sgthrs : UInt8) : Globals :=
  match axis with
  | .pulley => { g with storage := { g.storage with sgThrsPulley := sgthrs } }
  | .selector => { g with storage := { g.storage with sgThrsSelector := sgthrs } }
  | .idler => { g with storage := { g.storage with sgThrsIdler := sgthrs } }

end Globals

end MmuFirmware
