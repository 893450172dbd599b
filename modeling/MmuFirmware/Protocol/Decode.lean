import MmuFirmware.Lib.Transducer
import MmuFirmware.Protocol.Message

/-!
The two decoding automata of `modules/protocol.cpp`. Each call consumes one byte; the
automata share one object but neither reads or writes the other's half of it.
-/
namespace MmuFirmware

inductive RequestStates where
  | code | value | address | writeValue | crc | error
  deriving DecidableEq, Repr

inductive ResponseStates where
  | requestCode | requestValue | paramCode | paramValue | crc | error
  deriving DecidableEq, Repr

structure Protocol where
  rqState : RequestStates
  requestMsg : RequestMsg
  rspState : ResponseStates
  responseMsg : ResponseMsg
  deriving DecidableEq, Repr

/-- The freshly constructed object. -/
def Protocol.fresh : Protocol where
  rqState := .code
  requestMsg := .init .unknown 0
  rspState := .requestCode
  responseMsg := .init (.init .unknown 0) .unknown 0

def Protocol.resetRequestDecoder (p : Protocol) : Protocol :=
  { p with rqState := .code }

def Protocol.resetResponseDecoder (p : Protocol) : Protocol :=
  { p with rspState := .requestCode }

/-- What every branch does on an offending byte. -/
def requestError (p : Protocol) : Protocol × DecodeStatus :=
  ({ p with requestMsg := { p.requestMsg with code := .unknown }, rqState := .error }, .error)

/-- The `default:` branch, entered in the error state. -/
def decodeRequestDefault (p : Protocol) (c : UInt8) : Protocol × DecodeStatus :=
  if isNewLine c then ({ p with rqState := .code }, .messageCompleted)
  else requestError p

def decodeRequest (p : Protocol) (c : UInt8) : Protocol × DecodeStatus :=
  let m := p.requestMsg
  match p.rqState with
  | .code =>
      match RequestMsgCodes.ofByte? c with
      | some code =>
          ({ p with
              requestMsg := { code, value := 0, value2 := 0, crc8 := 0 }
              rqState := if c == 'W'.toUInt8 then .address else .value }, .needMoreData)
      | none => requestError p
  | .value =>
      if isHexDigit c then
        ({ p with requestMsg := { m with value := m.value <<< 4 ||| char2Nibble c } },
          .needMoreData)
      else if isCRCSeparator c then ({ p with rqState := .crc }, .needMoreData)
      else requestError p
  | .address =>
      if isHexDigit c then
        ({ p with requestMsg := { m with value := m.value <<< 4 ||| char2Nibble c } },
          .needMoreData)
      else if c == ' '.toUInt8 then ({ p with rqState := .writeValue }, .needMoreData)
      else requestError p
  | .writeValue =>
      if isHexDigit c then
        ({ p with
            requestMsg := { m with value2 := m.value2 <<< 4 ||| (char2Nibble c).toUInt16 } },
          .needMoreData)
      else if isCRCSeparator c then ({ p with rqState := .crc }, .needMoreData)
      else requestError p
  | .crc =>
      if isHexDigit c then
        ({ p with requestMsg := { m with crc8 := m.crc8 <<< 4 ||| char2Nibble c } },
          .needMoreData)
      else if isNewLine c then
        if m.crc8 ≠ m.computeCRC8 then requestError p
        else ({ p with rqState := .code }, .messageCompleted)
      -- the source falls through into the default branch here
      else decodeRequestDefault p c
  | .error => decodeRequestDefault p c

/-- An offending byte read before the parameter code leaves the response record alone. -/
def responseErrorKeep (p : Protocol) : Protocol × DecodeStatus :=
  ({ p with rspState := .error }, .error)

/-- An offending byte read from the parameter code on invalidates the record. -/
def responseErrorClear (p : Protocol) : Protocol × DecodeStatus :=
  ({ p with
      responseMsg := { p.responseMsg with paramCode := .unknown }, rspState := .error }, .error)

def decodeResponse (p : Protocol) (c : UInt8) : Protocol × DecodeStatus :=
  let m := p.responseMsg
  match p.rspState with
  | .requestCode =>
      match RequestMsgCodes.ofByte? c with
      | some code =>
          ({ p with
              responseMsg :=
                { m with request := { code, value := 0, value2 := 0, crc8 := 0 } }
              rspState := .requestValue }, .needMoreData)
      | none =>
          -- leading whitespace is skipped
          if isNewLine c then (p, .needMoreData) else responseErrorKeep p
  | .requestValue =>
      if isHexDigit c then
        ({ p with
            responseMsg :=
              { m with
                request := { m.request with value := m.request.value <<< 4 + char2Nibble c } } },
          .needMoreData)
      else if c == ' '.toUInt8 then ({ p with rspState := .paramCode }, .needMoreData)
      else responseErrorKeep p
  | .paramCode =>
      match ResponseMsgParamCodes.ofByte? c with
      | some code =>
          ({ p with
              rspState := .paramValue
              responseMsg := { m with paramCode := code, paramValue := 0 } }, .needMoreData)
      | none => responseErrorClear p
  | .paramValue =>
      if isHexDigit c then
        ({ p with
            responseMsg :=
              { m with paramValue := m.paramValue <<< 4 + (char2Nibble c).toUInt16 } },
          .needMoreData)
      else if isCRCSeparator c then ({ p with rspState := .crc }, .needMoreData)
      else responseErrorClear p
  | .crc =>
      if isHexDigit c then
        ({ p with
            responseMsg :=
              { m with
                request := { m.request with crc8 := m.request.crc8 <<< 4 + char2Nibble c } } },
          .needMoreData)
      else if isNewLine c then
        if m.request.crc8 ≠ m.computeCRC8 then responseErrorClear p
        else ({ p with rspState := .requestCode }, .messageCompleted)
      else responseErrorClear p
  | .error =>
      if isNewLine c then ({ p with rspState := .requestCode }, .messageCompleted)
      else responseErrorClear p

section Frame

theorem decodeRequest_frame (p : Protocol) (c : UInt8) :
    (decodeRequest p c).1.rspState = p.rspState ∧
      (decodeRequest p c).1.responseMsg = p.responseMsg := by
  simp only [decodeRequest, decodeRequestDefault, requestError]
  repeat' split
  all_goals exact ⟨rfl, rfl⟩

theorem decodeResponse_frame (p : Protocol) (c : UInt8) :
    (decodeResponse p c).1.rqState = p.rqState ∧
      (decodeResponse p c).1.requestMsg = p.requestMsg := by
  simp only [decodeResponse, responseErrorKeep, responseErrorClear]
  repeat' split
  all_goals exact ⟨rfl, rfl⟩

end Frame

end MmuFirmware
