import MmuFirmware.Lib.Memory
import MmuFirmware.Modules.Globals

/-!
`modules/permanent_storage.cpp`, as far as records are written while the unit is running:
the wear-levelled record of the loaded filament and the drive error counter. The fields of
the EEPROM layout are the cells of a memory. An index into `eepromFilament` is signed, as it
may run out at either end.
-/
namespace MmuFirmware

/-- The cells of `eeprom_t` these records use. -/
inductive Cell where
  | filamentStatus (i : Nat)
  | filament (i : Nat)
  | driveErrorCountH
  | driveErrorCountL (i : Nat)
  deriving DecidableEq, Repr

abbrev EEPROM := Memory Cell UInt8

/-- `EraseAll` -/
def EEPROM.erased : EEPROM where
  cells := fun _ => 0xff
  broken := fun _ => false
  writesLeft := none

namespace FilamentLoaded

/-- The size of `eepromFilament`. -/
def size : Nat := 800

inductive Key where
  | keyFront1 | keyReverse1 | keyFront2 | keyReverse2
  deriving DecidableEq, Repr

namespace Key

def toByte (k : Key) : UInt8 := UInt8.ofNat k.ctorIdx

def ofByte? (status : UInt8) : Option Key :=
  [keyFront1, keyReverse1, keyFront2, keyReverse2].find? fun k => k.toByte == status

def next : Key → Key
  | keyFront1 => keyReverse1
  | keyReverse1 => keyFront2
  | keyFront2 => keyReverse2
  | keyReverse2 => keyFront1

end Key

/-- The status uses two of three cells; nothing is the value of an erased cell. -/
def getStatus (e : EEPROM) : UInt8 :=
  let status i := e.read (.filamentStatus i)
  if status 0 = status 1 then status 0
  else if status 0 = status 2 then status 0
  else if status 1 = status 2 then status 1
  else 0xff

def setStatus (e : EEPROM) (status : UInt8) : Bool × EEPROM :=
  let e := [0, 1, 2].foldl (fun e i => e.update (.filamentStatus i) status) e
  (getStatus e == status, e)

/-- The top nibble of a data cell. -/
def keyNibble (e : EEPROM) (i : Nat) : UInt8 := e.read (.filament i) >>> 4

/-- The cell before the first one that does not carry the status, in the order of the key;
it is out of range if the first one does not. -/
def getIndex (e : EEPROM) : Int :=
  let status := getStatus e
  match Key.ofByte? status with
  | some .keyFront1 | some .keyFront2 =>
      match (List.range size).find? fun i => status != keyNibble e i with
      | some i => i - 1
      | none => size - 1
  | some .keyReverse1 | some .keyReverse2 =>
      match (List.range size).reverse.find? fun i => status != keyNibble e i with
      | some i => i + 1
      | none => 0
  | none => -1

/-- The recorded filament, if there is one. -/
def get (e : EEPROM) : Option UInt8 :=
  let index := getIndex e
  if index < 0 ∨ index ≥ size then none
  else
    let rawFilament := e.read (.filament index.toNat)
    let filament := rawFilament &&& 0x0f
    let status := getStatus e
    if filament ≥ Config.toolCount then none
    else if (Key.ofByte? status).isNone then none
    else if rawFilament >>> 4 ≠ status then none
    else some filament

def getNextStatus (status : UInt8) : UInt8 :=
  match Key.ofByte? status with
  | some k => k.next.toByte
  | none => Key.keyFront1.toByte

def getNext (status : UInt8) (index : Int) : UInt8 × Int :=
  match Key.ofByte? status with
  | some .keyFront1 | some .keyFront2 =>
      let index := index + 1
      if index < 0 ∨ index ≥ size then (getNextStatus status, size - 1) else (status, index)
  | some .keyReverse1 | some .keyReverse2 =>
      let index := index - 1
      if index < 0 ∨ index ≥ size then (getNextStatus status, 0) else (status, index)
  | none => (Key.keyFront1.toByte, 0)

def rawFilament (status filament : UInt8) : UInt8 :=
  (status <<< 4 &&& 0xf0) + (filament &&& 0x0f)

/-- The loop over the keys: a cell that does not take the value ends the use of its key. -/
def trySet (filament : UInt8) : Nat → EEPROM → Bool × EEPROM
  | 0, e => (false, e)
  | tries + 1, e =>
      let (status, index) := getNext (getStatus e) (getIndex e)
      let (stored, e) := setStatus e status
      if stored = false then (false, e)
      else
        let e := e.update (.filament index.toNat) (rawFilament status filament)
        if rawFilament status filament = e.read (.filament index.toNat) then (true, e)
        else
          let (stored, e) := setStatus e (getNextStatus status)
          if stored = false then (false, e) else trySet filament tries e

/-- Three tries: one less than there are keys. -/
def set (e : EEPROM) (filament : UInt8) : Bool × EEPROM := trySet filament 3 e

end FilamentLoaded

namespace DriveError

def getL (e : EEPROM) : UInt8 :=
  let first := e.read (.driveErrorCountL 0)
  let second := e.read (.driveErrorCountL 1)
  if first = 0xff ∧ second = 0 then 1 else if first > second then first + 1 else second + 1

def getH (e : EEPROM) : UInt8 := e.read .driveErrorCountH + 1

def get (e : EEPROM) : UInt16 := (getH e).toUInt16 <<< 8 + (getL e).toUInt16

def setL (e : EEPROM) (lowByte : UInt8) : EEPROM :=
  e.update (.driveErrorCountL (lowByte % 2).toNat) (lowByte - 1)

def setH (e : EEPROM) (highByte : UInt8) : EEPROM := e.update .driveErrorCountH (highByte - 1)

def increment (e : EEPROM) : EEPROM :=
  let errors := get e
  if errors < 0xffff then
    let errors := errors + 1
    setH (setL e errors.toUInt8) (errors >>> 8).toUInt8
  else e

end DriveError

end MmuFirmware
