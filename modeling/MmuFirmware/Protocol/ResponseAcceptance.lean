import MmuFirmware.Protocol.ResponseDecoder

/-!
Completeness of `DecodeResponse`: from its start state, and whatever record an earlier line
left behind, the decoder reads a valid line silently up to its newline and completes it
there with the line's own fields.
-/
namespace MmuFirmware
open Transducer

variable (p : Protocol)

theorem responseValue_passes (m : ResponseMsg) {ds : List UInt8} (hds : HexDigits ds) :
    Passes decodeResponse .needMoreData
      { p with rspState := .requestValue
               responseMsg := { m with request := { m.request with value := 0 } } } ds
      { p with rspState := .requestValue
               responseMsg :=
                 { m with
                   request := { m.request with value := UInt8.ofNat (hexNumber ds) } } } := by
  refine Passes.loop (fun read => { p with
    rspState := .requestValue
    responseMsg :=
      { m with request := { m.request with value := UInt8.ofNat (hexNumber read) } } }) ds ?_ []
  intro read d hd
  simp [decodeResponse, hds d hd, hexNumber_snoc, Numeral.shiftLeft_add_uint8]

theorem responseParamValue_passes (m : ResponseMsg) {ds : List UInt8} (hds : HexDigits ds) :
    Passes decodeResponse .needMoreData
      { p with rspState := .paramValue, responseMsg := { m with paramValue := 0 } } ds
      { p with rspState := .paramValue
               responseMsg := { m with paramValue := UInt16.ofNat (hexNumber ds) } } := by
  refine Passes.loop (fun read => { p with
    rspState := .paramValue
    responseMsg := { m with paramValue := UInt16.ofNat (hexNumber read) } }) ds ?_ []
  intro read d hd
  simp [decodeResponse, hds d hd, hexNumber_snoc, Numeral.shiftLeft_add_uint16]

theorem responseCrc_passes (m : ResponseMsg) {ds : List UInt8} (hds : HexDigits ds) :
    Passes decodeResponse .needMoreData
      { p with rspState := .crc
               responseMsg := { m with request := { m.request with crc8 := 0 } } } ds
      { p with rspState := .crc
               responseMsg :=
                 { m with
                   request := { m.request with crc8 := UInt8.ofNat (hexNumber ds) } } } := by
  refine Passes.loop (fun read => { p with
    rspState := .crc
    responseMsg :=
      { m with request := { m.request with crc8 := UInt8.ofNat (hexNumber read) } } }) ds ?_ []
  intro read d hd
  simp [decodeResponse, hds d hd, hexNumber_snoc, Numeral.shiftLeft_add_uint8]

/-- Up to its newline a line is read silently, and its fields are then in the record. -/
theorem responseLine_passes (hs : p.rspState = .requestCode) {s : List UInt8}
    {m : ResponseMsg} (h : ResponseLine s m) :
    ∃ pre nl, s = pre ++ [nl] ∧ isNewLine nl ∧
      Passes decodeResponse .needMoreData p pre { p with rspState := .crc, responseMsg := m } := by
  obtain ⟨hknown, hvalue, hparam, hparamValue, hcrc, hnl⟩ := h
  rename_i code param value paramValue crc nl
  let m₁ : ResponseMsg :=
    { p.responseMsg with request := { code, value := 0, value2 := 0, crc8 := 0 } }
  let m₂ : ResponseMsg :=
    { m₁ with request := { m₁.request with value := UInt8.ofNat (hexNumber value) } }
  let m₃ : ResponseMsg := { m₂ with paramCode := param, paramValue := 0 }
  let m₄ : ResponseMsg := { m₃ with paramValue := UInt16.ofNat (hexNumber paramValue) }
  have hletter : decodeResponse p code.toByte =
      ({ p with rspState := .requestValue, responseMsg := m₁ }, .needMoreData) := by
    simp [decodeResponse, hs, hknown, m₁]
  have hspace : decodeResponse { p with rspState := .requestValue, responseMsg := m₂ }
      ' '.toUInt8 = ({ p with rspState := .paramCode, responseMsg := m₂ }, .needMoreData) := by
    simp [decodeResponse, show isHexDigit ' '.toUInt8 = false by decide]
  have hcode : decodeResponse { p with rspState := .paramCode, responseMsg := m₂ } param.toByte =
      ({ p with rspState := .paramValue, responseMsg := m₃ }, .needMoreData) := by
    simp [decodeResponse, hparam, m₃]
  have hstar : decodeResponse { p with rspState := .paramValue, responseMsg := m₄ } '*'.toUInt8 =
      ({ p with rspState := .crc, responseMsg := m₄ }, .needMoreData) := by
    simp [decodeResponse, show isHexDigit '*'.toUInt8 = false by decide,
      show isCRCSeparator '*'.toUInt8 = true by decide]
  refine ⟨code.toByte :: (value ++ ' '.toUInt8 :: param.toByte ::
    (paramValue ++ '*'.toUInt8 :: crc)), nl, by simp, hnl, ?_⟩
  exact .cons hletter <| (responseValue_passes p m₁ hvalue).append <|
    .cons hspace <| .cons hcode <| (responseParamValue_passes p m₃ hparamValue).append <|
    .cons hstar <| responseCrc_passes p m₄ hcrc

theorem decodeResponse_newLine_crc (hs : p.rspState = .crc) {nl : UInt8} (hnl : isNewLine nl)
    (hcrc : p.responseMsg.request.crc8 = p.responseMsg.computeCRC8) :
    decodeResponse p nl = ({ p with rspState := .requestCode }, .messageCompleted) := by
  simp [decodeResponse, hs, isHexDigit_newLine hnl, hnl, ← hcrc]

/-- The line `s` is accepted with the record `m`: its last byte completes a message and no
earlier byte does. -/
def AcceptsResponse (p : Protocol) (s : List UInt8) (m : ResponseMsg) : Prop :=
  ∃ pre last, s = pre ++ [last] ∧
    (∀ o ∈ trace decodeResponse p pre, o.1 ≠ .messageCompleted) ∧
    (decodeResponse (run decodeResponse p pre) last).2 = .messageCompleted ∧
    (run decodeResponse p s).responseMsg = m

theorem acceptsResponse_of_valid {p : Protocol} (hs : p.rspState = .requestCode)
    {s : List UInt8} {m : ResponseMsg} (h : ValidResponseLine s m) : AcceptsResponse p s m := by
  obtain ⟨pre, nl, rfl, hnl, hpass⟩ := responseLine_passes p hs h.1
  have hlast := decodeResponse_newLine_crc
    { p with rspState := .crc, responseMsg := m } rfl hnl h.2
  refine ⟨pre, nl, rfl, ?_, ?_, ?_⟩
  · intro o ho
    rw [hpass.quiet_of_mem o ho]
    decide
  · rw [hpass.run_eq, hlast]
  · rw [run_append, hpass.run_eq, run_cons, hlast, run_nil]

end MmuFirmware
