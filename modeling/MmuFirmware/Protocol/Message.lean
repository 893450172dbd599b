import MmuFirmware.Lib.Numeral
import MmuFirmware.Protocol.Crc

/-!
The messages of `modules/protocol.h` and the byte classes its decoders and encoders share.
A message code is the byte of its letter; zero is the code of no message.
-/
namespace MmuFirmware
open Crc

inductive RequestMsgCodes where
  | unknown | query | tool | load | mode | unload | reset | finda | version | button
  | eject | write | cut | filamentType | filamentSensor | home | read
  deriving DecidableEq, Repr

namespace RequestMsgCodes

def toByte : RequestMsgCodes → UInt8
  | unknown => 0
  | query => 'Q'.toUInt8
  | tool => 'T'.toUInt8
  | load => 'L'.toUInt8
  | mode => 'M'.toUInt8
  | unload => 'U'.toUInt8
  | reset => 'X'.toUInt8
  | finda => 'P'.toUInt8
  | version => 'S'.toUInt8
  | button => 'B'.toUInt8
  | eject => 'E'.toUInt8
  | write => 'W'.toUInt8
  | cut => 'K'.toUInt8
  | filamentType => 'F'.toUInt8
  | filamentSensor => 'f'.toUInt8
  | home => 'H'.toUInt8
  | read => 'R'.toUInt8

/-- The case labels under which both decoders accept a request code. -/
def letters : List RequestMsgCodes :=
  [query, tool, load, mode, unload, reset, finda, version, button, eject, write, cut,
    filamentType, filamentSensor, home, read]

def ofByte? (c : UInt8) : Option RequestMsgCodes :=
  letters.find? fun code => code.toByte == c

theorem mem_letters {code : RequestMsgCodes} : code ∈ letters ↔ code ≠ unknown := by
  cases code <;> simp [letters]

theorem toByte_injective : Function.Injective toByte := by
  intro a b h
  cases a <;> cases b <;> first | rfl | exact absurd h (by decide)

theorem toByte_eq_W {code : RequestMsgCodes} : code.toByte = 'W'.toUInt8 ↔ code = write :=
  toByte_injective.eq_iff (b := write)

theorem ofByte?_eq_some {c : UInt8} {code : RequestMsgCodes} :
    ofByte? c = some code ↔ code ≠ unknown ∧ code.toByte = c := by
  constructor
  · intro h
    exact ⟨mem_letters.mp (List.mem_of_find?_eq_some h), by simpa using List.find?_some h⟩
  · rintro ⟨hknown, rfl⟩
    cases code <;> first | exact absurd rfl hknown | rfl

@[simp] theorem ofByte?_toByte {code : RequestMsgCodes} (h : code ≠ unknown) :
    ofByte? code.toByte = some code :=
  ofByte?_eq_some.mpr ⟨h, rfl⟩

end RequestMsgCodes

inductive ResponseMsgParamCodes where
  | unknown | processing | error | finished | accepted | rejected | button
  deriving DecidableEq, Repr

namespace ResponseMsgParamCodes

def toByte : ResponseMsgParamCodes → UInt8
  | unknown => 0
  | processing => 'P'.toUInt8
  | error => 'E'.toUInt8
  | finished => 'F'.toUInt8
  | accepted => 'A'.toUInt8
  | rejected => 'R'.toUInt8
  | button => 'B'.toUInt8

def letters : List ResponseMsgParamCodes :=
  [processing, error, finished, accepted, rejected, button]

def ofByte? (c : UInt8) : Option ResponseMsgParamCodes :=
  letters.find? fun code => code.toByte == c

theorem mem_letters {code : ResponseMsgParamCodes} : code ∈ letters ↔ code ≠ unknown := by
  cases code <;> simp [letters]

theorem toByte_injective : Function.Injective toByte := by
  intro a b h
  cases a <;> cases b <;> first | rfl | exact absurd h (by decide)

theorem ofByte?_eq_some {c : UInt8} {code : ResponseMsgParamCodes} :
    ofByte? c = some code ↔ code ≠ unknown ∧ code.toByte = c := by
  constructor
  · intro h
    exact ⟨mem_letters.mp (List.mem_of_find?_eq_some h), by simpa using List.find?_some h⟩
  · rintro ⟨hknown, rfl⟩
    cases code <;> first | exact absurd rfl hknown | rfl

@[simp] theorem ofByte?_toByte {code : ResponseMsgParamCodes} (h : code ≠ unknown) :
    ofByte? code.toByte = some code :=
  ofByte?_eq_some.mpr ⟨h, rfl⟩

end ResponseMsgParamCodes

@[ext] structure RequestMsg where
  code : RequestMsgCodes
  value : UInt8
  value2 : UInt16
  crc8 : UInt8
  deriving DecidableEq, Repr

namespace RequestMsg

def computeCRC8 (m : RequestMsg) : UInt8 :=
  ccittUpdateW (ccittUpdateCX (ccittUpdateCX 0 m.code.toByte) m.value) m.value2

/-- The constructor of write requests; the two-argument one has `value2 = 0`. -/
def initWrite (code : RequestMsgCodes) (address : UInt8) (value : UInt16) : RequestMsg :=
  let m : RequestMsg := { code, value := address, value2 := value, crc8 := 0 }
  { m with crc8 := m.computeCRC8 }

def init (code : RequestMsgCodes) (value : UInt8) : RequestMsg :=
  initWrite code value 0

/-- The fields a message carries: everything but its checksum. -/
def fields (m : RequestMsg) : RequestMsgCodes × UInt8 × UInt16 := (m.code, m.value, m.value2)

/-- The checksum is over the code and the values, never over the stored `crc8`. -/
theorem computeCRC8_congr {m m' : RequestMsg} (hcode : m.code = m'.code)
    (hvalue : m.value = m'.value) (hvalue2 : m.value2 = m'.value2) :
    m.computeCRC8 = m'.computeCRC8 := by
  simp only [computeCRC8, hcode, hvalue, hvalue2]

section Init

variable (code : RequestMsgCodes) (value : UInt8) (value2 : UInt16)

@[simp] theorem initWrite_code : (initWrite code value value2).code = code := rfl

@[simp] theorem initWrite_value : (initWrite code value value2).value = value := rfl

@[simp] theorem initWrite_value2 : (initWrite code value value2).value2 = value2 := rfl

theorem initWrite_crc8 :
    (initWrite code value value2).crc8 = (initWrite code value value2).computeCRC8 :=
  computeCRC8_congr rfl rfl rfl

@[simp] theorem init_code : (init code value).code = code := rfl

@[simp] theorem init_value : (init code value).value = value := rfl

@[simp] theorem init_value2 : (init code value).value2 = 0 := rfl

theorem init_crc8 : (init code value).crc8 = (init code value).computeCRC8 :=
  initWrite_crc8 code value 0

end Init

end RequestMsg

@[ext] structure ResponseMsg where
  request : RequestMsg
  paramCode : ResponseMsgParamCodes
  paramValue : UInt16
  deriving DecidableEq, Repr

namespace ResponseMsg

def computeCRC8 (m : ResponseMsg) : UInt8 :=
  ccittUpdateW (ccittUpdateCX m.request.computeCRC8 m.paramCode.toByte) m.paramValue

/-- The constructor stores the checksum of the response in the request's `crc8`. -/
def init (request : RequestMsg) (paramCode : ResponseMsgParamCodes) (paramValue : UInt16) :
    ResponseMsg :=
  let m : ResponseMsg := { request, paramCode, paramValue }
  { m with request := { request with crc8 := m.computeCRC8 } }

section Init

variable (request : RequestMsg) (paramCode : ResponseMsgParamCodes) (paramValue : UInt16)

@[simp] theorem init_request_code :
    (init request paramCode paramValue).request.code = request.code := rfl

@[simp] theorem init_request_value :
    (init request paramCode paramValue).request.value = request.value := rfl

@[simp] theorem init_request_value2 :
    (init request paramCode paramValue).request.value2 = request.value2 := rfl

@[simp] theorem init_paramCode : (init request paramCode paramValue).paramCode = paramCode := rfl

@[simp] theorem init_paramValue :
    (init request paramCode paramValue).paramValue = paramValue := rfl

theorem init_crc8 :
    (init request paramCode paramValue).request.crc8 =
      (init request paramCode paramValue).computeCRC8 := by
  have h : ({ request with crc8 := ({ request, paramCode, paramValue } : ResponseMsg).computeCRC8 }
      : RequestMsg).computeCRC8 = request.computeCRC8 := RequestMsg.computeCRC8_congr rfl rfl rfl
  simp only [init, computeCRC8] at h ⊢
  rw [h]

end Init

/-- The fields of a response: its request's code and values, and its own. -/
def fields (m : ResponseMsg) :
    (RequestMsgCodes × UInt8 × UInt16) × ResponseMsgParamCodes × UInt16 :=
  (m.request.fields, m.paramCode, m.paramValue)

end ResponseMsg

/-- The answer to a query: a status code and its value. -/
structure ResponseCommandStatus where
  code : ResponseMsgParamCodes
  value : UInt16
  deriving DecidableEq, Repr

inductive DecodeStatus where
  | messageCompleted | needMoreData | error
  deriving DecidableEq, Repr

section ByteClasses

def isNewLine (c : UInt8) : Bool := c == '\n'.toUInt8 || c == '\r'.toUInt8

def isCRCSeparator (c : UInt8) : Bool := c == '*'.toUInt8

def isHexDigit (c : UInt8) : Bool :=
  ('0'.toUInt8 ≤ c && c ≤ '9'.toUInt8) || ('a'.toUInt8 ≤ c && c ≤ 'f'.toUInt8)

/-- The switch of the source has one label for each hexadecimal digit. -/
def char2Nibble (c : UInt8) : UInt8 :=
  if '0'.toUInt8 ≤ c && c ≤ '9'.toUInt8 then c - '0'.toUInt8
  else if 'a'.toUInt8 ≤ c && c ≤ 'f'.toUInt8 then c - 'a'.toUInt8 + 10
  else 0

def nibble2Char (n : UInt8) : UInt8 :=
  if n ≤ 9 then n + '0'.toUInt8
  else if n ≤ 15 then n - 10 + 'a'.toUInt8
  else 0

end ByteClasses

end MmuFirmware
