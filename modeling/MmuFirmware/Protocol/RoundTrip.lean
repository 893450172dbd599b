import MmuFirmware.Protocol.Encode
import MmuFirmware.Protocol.RequestDecoder
import MmuFirmware.Protocol.ResponseAcceptance

/-!
Streams of encoded messages. Each encoding is a valid line for the fields the receiver can
rebuild from the text, and a valid line takes a decoder from its start state back to its
start state; so a whole stream is decoded message by message, in order.
-/
namespace MmuFirmware
open Transducer

section Requests

/-- A request the printer can encode: any known letter but `W`, or a register write. -/
inductive OutgoingRequest where
  | request (code : RequestMsgCodes) (value : UInt8)
      (hknown : code ≠ .unknown) (hwrite : code ≠ .write)
  | write (address : UInt8) (value : UInt16)

namespace OutgoingRequest

def message : OutgoingRequest → RequestMsg
  | request code value _ _ => .init code value
  | write address value => .initWrite .write address value

def encode : OutgoingRequest → List UInt8
  | request code value _ _ => encodeRequest (.init code value)
  | write address value => encodeWriteRequest address value

theorem encode_valid (r : OutgoingRequest) : ValidRequestLine r.encode r.message := by
  cases r with
  | request code value hknown hwrite =>
      let m := RequestMsg.init code value
      obtain ⟨hvalue, hnumber, -⟩ := uint8ToHex_spec value
      obtain ⟨hcrc, hcrcNumber, -⟩ := uint8ToHex_spec m.crc8
      have hline := RequestLine.intro (.plain hknown hwrite hvalue) hcrc
        (show isNewLine '\n'.toUInt8 by decide)
      simp only [hnumber, hcrcNumber, UInt8.ofNat_toNat] at hline
      have hbytes : encodeRequest m =
          (code.toByte :: uint8ToHex value) ++
            '*'.toUInt8 :: (uint8ToHex m.crc8 ++ ['\n'.toUInt8]) := by
        simp [encodeRequest, appendCRC, m]
      have hm : m = { code, value, value2 := 0, crc8 := m.crc8 } := by ext <;> simp [m]
      refine ⟨?_, RequestMsg.init_crc8 code value⟩
      rw [encode, message, hbytes]
      change RequestLine _ m
      rw [hm]
      exact hline
  | write address value =>
      let m := RequestMsg.initWrite .write address value
      obtain ⟨haddress, hnumber, -⟩ := uint8ToHex_spec address
      obtain ⟨hvalue, hnumber2, -⟩ := uint16ToHex_spec value
      obtain ⟨hcrc, hcrcNumber, -⟩ := uint8ToHex_spec m.crc8
      have hline := RequestLine.intro (.write haddress hvalue) hcrc
        (show isNewLine '\n'.toUInt8 by decide)
      have hbytes : encodeWriteRequest address value =
          ('W'.toUInt8 :: (uint8ToHex address ++ ' '.toUInt8 :: uint16ToHex value)) ++
            '*'.toUInt8 :: (uint8ToHex m.crc8 ++ ['\n'.toUInt8]) := by
        simp [encodeWriteRequest, beginEncodeRequest, appendCRC, RequestMsgCodes.toByte, m]
      simp only [hnumber, hnumber2, hcrcNumber, UInt8.ofNat_toNat, UInt16.ofNat_toNat] at hline
      have hm : m = { code := .write, value := address, value2 := value, crc8 := m.crc8 } := by
        ext <;> simp [m]
      refine ⟨?_, RequestMsg.initWrite_crc8 .write address value⟩
      rw [encode, message, hbytes]
      change RequestLine _ m
      rw [hm]
      exact hline

theorem length_encode_le (r : OutgoingRequest) : r.encode.length ≤ maxRequestSize := by
  cases r with
  | request code value _ _ =>
      have hvalue := (uint8ToHex_spec value).2.2
      have hcrc := (uint8ToHex_spec (RequestMsg.init code value).crc8).2.2
      have : (uint8ToHex (RequestMsg.init code value).value).length ≤ 2 := hvalue
      simp only [encode, encodeRequest, appendCRC, maxRequestSize, List.length_append,
        List.length_cons, List.length_nil]
      omega
  | write address value =>
      have haddress := (uint8ToHex_spec address).2.2
      have hvalue := (uint16ToHex_spec value).2.2
      have hcrc := (uint8ToHex_spec (RequestMsg.initWrite .write address value).crc8).2.2
      have : (uint8ToHex (RequestMsg.initWrite .write address value).value).length ≤ 2 := haddress
      simp only [encode, encodeWriteRequest, beginEncodeRequest, appendCRC, maxRequestSize,
        List.length_append, List.length_cons, List.length_nil]
      omega

end OutgoingRequest

/-- What a caller sees of one decoding step: its status and, on completion, the message. -/
def requestView (o : DecodeStatus × Protocol) :
    DecodeStatus × Option (RequestMsgCodes × UInt8 × UInt16) :=
  (o.1, if o.1 = .messageCompleted then some o.2.requestMsg.fields else none)

/-- A message that takes `n` bytes: silence up to the last byte, then its fields. -/
def completesAt {φ : Type*} (n : Nat) (fields : φ) : List (DecodeStatus × Option φ) :=
  List.replicate (n - 1) (.needMoreData, none) ++ [(.messageCompleted, some fields)]

theorem requestLine_trace {p : Protocol} (hs : p.rqState = .code) {s : List UInt8}
    {m : RequestMsg} (h : ValidRequestLine s m) :
    (run decodeRequest p s).rqState = .code ∧
      (trace decodeRequest p s).map requestView = completesAt s.length m.fields := by
  obtain ⟨pre, nl, rfl, hnl, hpass⟩ := requestLine_passes p hs h.1
  have hlast := decodeRequest_newLine_crc
    { p with rqState := .crc, requestMsg := m } rfl hnl h.2
  refine ⟨by rw [run_append, hpass.run_eq, run_cons, hlast, run_nil], ?_⟩
  have hquiet : (trace decodeRequest p pre).map requestView =
      List.replicate pre.length (.needMoreData, none) := by
    rw [List.eq_replicate_iff]
    refine ⟨by simp, ?_⟩
    intro o ho
    obtain ⟨o', ho', rfl⟩ := List.mem_map.mp ho
    simp [requestView, hpass.quiet_of_mem o' ho']
  rw [trace_append, List.map_append, hquiet, hpass.run_eq, trace_cons, hlast]
  simp [completesAt, requestView]

/-- One decoder, fed the encodings of any requests one after the other, completes exactly
these requests, each on the last byte of its encoding, and every encoding fits its buffer. -/
theorem request_stream_roundTrip (p : Protocol) (hs : p.rqState = .code)
    (rs : List OutgoingRequest) :
    (trace decodeRequest p (rs.flatMap OutgoingRequest.encode)).map requestView =
        rs.flatMap (fun r => completesAt r.encode.length r.message.fields) ∧
      ∀ r ∈ rs, r.encode.length ≤ maxRequestSize := by
  refine ⟨?_, fun r _ => r.length_encode_le⟩
  exact trace_flatMap decodeRequest (·.rqState = .code) _ _ _ rs
    (fun r _ q hq => (requestLine_trace hq r.encode_valid).1)
    (fun r _ q hq => (requestLine_trace hq r.encode_valid).2) p hs

theorem request_stream_roundTrip_write :
    (trace decodeRequest .fresh ([OutgoingRequest.write 0x1b 0x0300].flatMap
        OutgoingRequest.encode)).map requestView =
        [OutgoingRequest.write 0x1b 0x0300].flatMap
          (fun r => completesAt r.encode.length r.message.fields) ∧
      ∀ r ∈ [OutgoingRequest.write 0x1b 0x0300], r.encode.length ≤ maxRequestSize :=
  request_stream_roundTrip .fresh rfl _

end Requests

section Responses

/-- A response the firmware can encode. `value2` of the echoed request is free only in the
accept/reject answer, where the encoder drops it. -/
inductive OutgoingResponse where
  | cmdAR (msg : RequestMsg) (ar : ResponseMsgParamCodes) (hknown : msg.code ≠ .unknown)
      (har : ar = .accepted ∨ ar = .rejected)
  | read (code : RequestMsgCodes) (value : UInt8) (accepted : Bool) (value2 : UInt16)
      (hknown : code ≠ .unknown)
  | readFINDA (code : RequestMsgCodes) (value findaValue : UInt8) (hknown : code ≠ .unknown)
  | queryOperation (code : RequestMsgCodes) (value : UInt8) (rcs : ResponseCommandStatus)
      (hknown : code ≠ .unknown)
      (hrcs : rcs.code = .processing ∨ rcs.code = .error ∨ rcs.code = .finished ∨
        rcs.code = .button)

namespace OutgoingResponse

def encode : OutgoingResponse → List UInt8
  | cmdAR msg ar _ _ => encodeResponseCmdAR msg ar
  | read code value accepted value2 _ => encodeResponseRead (.init code value) accepted value2
  | readFINDA code value findaValue _ => encodeResponseReadFINDA (.init code value) findaValue
  | queryOperation code value rcs _ _ => encodeResponseQueryOperation (.init code value) rcs

/-- What the printer is told: zero where the line carries no value. -/
def message : OutgoingResponse → ResponseMsg
  | cmdAR msg ar _ _ => .init (.init msg.code msg.value) ar 0
  | read code value accepted value2 _ =>
      .init (.init code value) (if accepted then .accepted else .rejected)
        (if accepted then value2 else 0)
  | readFINDA code value findaValue _ => .init (.init code value) .accepted findaValue.toUInt16
  | queryOperation code value rcs _ _ => .init (.init code value) rcs.code rcs.value

/-- The common shape of the encoders: `digits` spell the value of the response. -/
def spell (m : ResponseMsg) (digits : List UInt8) : List UInt8 :=
  beginEncodeRequest m.request ++ [m.paramCode.toByte] ++ digits ++
    appendCRC m.request.crc8 ++ ['\n'.toUInt8]

theorem spell_eq (m : ResponseMsg) (digits : List UInt8) :
    spell m digits = m.request.code.toByte ::
      (uint8ToHex m.request.value ++ ' '.toUInt8 :: m.paramCode.toByte ::
        (digits ++ '*'.toUInt8 :: (uint8ToHex m.request.crc8 ++ ['\n'.toUInt8]))) := by
  simp [spell, beginEncodeRequest, appendCRC]

/-- What the constructors guarantee of a response that an encoder is given. -/
structure Encodable (m : ResponseMsg) (digits : List UInt8) : Prop where
  code_known : m.request.code ≠ .unknown
  value2_zero : m.request.value2 = 0
  paramCode_known : m.paramCode ≠ .unknown
  crc_eq : m.request.crc8 = m.computeCRC8
  digits_hex : HexDigits digits
  digits_value : hexNumber digits = m.paramValue.toNat
  digits_length : digits.length ≤ 4

theorem spell_valid {m : ResponseMsg} {digits : List UInt8} (h : Encodable m digits) :
    ValidResponseLine (spell m digits) m := by
  obtain ⟨hvalue, hvalueNumber, -⟩ := uint8ToHex_spec m.request.value
  obtain ⟨hcrc, hcrcNumber, -⟩ := uint8ToHex_spec m.request.crc8
  have hline := ResponseLine.intro h.code_known hvalue h.paramCode_known h.digits_hex hcrc
    (show isNewLine '\n'.toUInt8 by decide)
  simp only [hvalueNumber, h.digits_value, hcrcNumber, UInt8.ofNat_toNat,
    UInt16.ofNat_toNat] at hline
  refine ⟨?_, h.crc_eq⟩
  rw [spell_eq]
  rw [← h.value2_zero] at hline
  exact hline

theorem length_spell_le {m : ResponseMsg} {digits : List UInt8} (h : Encodable m digits) :
    (spell m digits).length ≤ maxResponseSize := by
  have hvalue := (uint8ToHex_spec m.request.value).2.2
  have hcrc := (uint8ToHex_spec m.request.crc8).2.2
  have hdigits := h.digits_length
  simp only [spell_eq, maxResponseSize, List.length_append, List.length_cons, List.length_nil]
  omega

/-- The digits each encoder writes for the response's value. -/
def digits : OutgoingResponse → List UInt8
  | cmdAR _ _ _ _ => []
  | read _ _ accepted value2 _ => if accepted then uint16ToHex value2 else []
  | readFINDA _ _ findaValue _ => uint16ToHex findaValue.toUInt16
  | queryOperation _ _ rcs _ _ => uint16ToHex rcs.value

theorem encode_eq_spell (r : OutgoingResponse) : r.encode = spell r.message r.digits := by
  cases r with
  | cmdAR msg ar _ _ =>
      simp [encode, encodeResponseCmdAR, spell, message, digits]
  | read code value accepted value2 _ =>
      simp [encode, encodeResponseRead, spell, message, digits, beginEncodeRequest]
  | readFINDA code value findaValue _ =>
      simp [encode, encodeResponseReadFINDA, encodeResponseRead, spell, message, digits,
        beginEncodeRequest]
  | queryOperation code value rcs _ _ =>
      simp [encode, encodeResponseQueryOperation, spell, message, digits, beginEncodeRequest]

theorem encodable (r : OutgoingResponse) : Encodable r.message r.digits := by
  cases r with
  | cmdAR msg ar hknown har =>
      exact ⟨hknown, rfl, by rcases har with rfl | rfl <;> simp [message],
        ResponseMsg.init_crc8 _ _ _, hexDigits_nil, rfl, by simp [digits]⟩
  | read code value accepted value2 hknown =>
      obtain ⟨hdigits, hnumber, hlength⟩ := uint16ToHex_spec value2
      cases accepted with
      | true =>
          exact ⟨hknown, rfl, by simp [message], ResponseMsg.init_crc8 _ _ _, hdigits, hnumber,
            hlength⟩
      | false =>
          exact ⟨hknown, rfl, by simp [message], ResponseMsg.init_crc8 _ _ _, hexDigits_nil, rfl,
            by simp [digits]⟩
  | readFINDA code value findaValue hknown =>
      obtain ⟨hdigits, hnumber, hlength⟩ := uint16ToHex_spec findaValue.toUInt16
      exact ⟨hknown, rfl, by simp [message], ResponseMsg.init_crc8 _ _ _, hdigits, hnumber,
        hlength⟩
  | queryOperation code value rcs hknown hrcs =>
      obtain ⟨hdigits, hnumber, hlength⟩ := uint16ToHex_spec rcs.value
      exact ⟨hknown, rfl, by rcases hrcs with h | h | h | h <;> simp [message, h],
        ResponseMsg.init_crc8 _ _ _, hdigits, hnumber, hlength⟩

theorem encode_valid (r : OutgoingResponse) : ValidResponseLine r.encode r.message := by
  rw [encode_eq_spell]
  exact spell_valid r.encodable

theorem length_encode_le (r : OutgoingResponse) : r.encode.length ≤ maxResponseSize := by
  rw [encode_eq_spell]
  exact length_spell_le r.encodable

end OutgoingResponse

def responseView (o : DecodeStatus × Protocol) :
    DecodeStatus ×
      Option ((RequestMsgCodes × UInt8 × UInt16) × ResponseMsgParamCodes × UInt16) :=
  (o.1, if o.1 = .messageCompleted then some o.2.responseMsg.fields else none)

theorem responseLine_trace {p : Protocol} (hs : p.rspState = .requestCode) {s : List UInt8}
    {m : ResponseMsg} (h : ValidResponseLine s m) :
    (run decodeResponse p s).rspState = .requestCode ∧
      (trace decodeResponse p s).map responseView = completesAt s.length m.fields := by
  obtain ⟨pre, nl, rfl, hnl, hpass⟩ := responseLine_passes p hs h.1
  have hlast := decodeResponse_newLine_crc
    { p with rspState := .crc, responseMsg := m } rfl hnl h.2
  refine ⟨by rw [run_append, hpass.run_eq, run_cons, hlast, run_nil], ?_⟩
  have hquiet : (trace decodeResponse p pre).map responseView =
      List.replicate pre.length (.needMoreData, none) := by
    rw [List.eq_replicate_iff]
    refine ⟨by simp, ?_⟩
    intro o ho
    obtain ⟨o', ho', rfl⟩ := List.mem_map.mp ho
    simp [responseView, hpass.quiet_of_mem o' ho']
  rw [trace_append, List.map_append, hquiet, hpass.run_eq, trace_cons, hlast]
  simp [completesAt, responseView]

/-- One decoder, fed the encodings of any responses one after the other, completes exactly
these responses, each on the last byte of its encoding, and every encoding fits its buffer. -/
theorem response_stream_roundTrip (p : Protocol) (hs : p.rspState = .requestCode)
    (rs : List OutgoingResponse) :
    (trace decodeResponse p (rs.flatMap OutgoingResponse.encode)).map responseView =
        rs.flatMap (fun r => completesAt r.encode.length r.message.fields) ∧
      ∀ r ∈ rs, r.encode.length ≤ maxResponseSize := by
  refine ⟨?_, fun r _ => r.length_encode_le⟩
  exact trace_flatMap decodeResponse (·.rspState = .requestCode) _ _ _ rs
    (fun r _ q hq => (responseLine_trace hq r.encode_valid).1)
    (fun r _ q hq => (responseLine_trace hq r.encode_valid).2) p hs

theorem response_stream_roundTrip_readFINDA :
    (trace decodeResponse .fresh ([OutgoingResponse.readFINDA .finda 0 1 (by decide)].flatMap
        OutgoingResponse.encode)).map responseView =
        [OutgoingResponse.readFINDA .finda 0 1 (by decide)].flatMap
          (fun r => completesAt r.encode.length r.message.fields) ∧
      ∀ r ∈ [OutgoingResponse.readFINDA .finda 0 1 (by decide)],
        r.encode.length ≤ maxResponseSize :=
  response_stream_roundTrip .fresh rfl _

end Responses

end MmuFirmware
