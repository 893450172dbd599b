import MmuFirmware.Protocol.Decode
import MmuFirmware.Protocol.Grammar

/-!
`DecodeRequest` against the request grammar. Soundness carries an invariant that names, for
each state of the automaton, the part of a line read so far; completeness drives the
automaton through a line, one loop for each run of digits.
-/
namespace MmuFirmware
open Transducer

/-- What the automaton has read since it was last in its start state. -/
inductive ReadingRequest : RequestStates → List UInt8 → RequestMsg → Prop
  | code {m : RequestMsg} : ReadingRequest .code [] m
  | value {code : RequestMsgCodes} {value : List UInt8}
      (hknown : code ≠ .unknown) (hwrite : code ≠ .write) (hvalue : HexDigits value) :
      ReadingRequest .value (code.toByte :: value)
        { code, value := UInt8.ofNat (hexNumber value), value2 := 0, crc8 := 0 }
  | address {value : List UInt8} (hvalue : HexDigits value) :
      ReadingRequest .address ('W'.toUInt8 :: value)
        { code := .write, value := UInt8.ofNat (hexNumber value), value2 := 0, crc8 := 0 }
  | writeValue {value value2 : List UInt8}
      (hvalue : HexDigits value) (hvalue2 : HexDigits value2) :
      ReadingRequest .writeValue ('W'.toUInt8 :: (value ++ ' '.toUInt8 :: value2))
        { code := .write, value := UInt8.ofNat (hexNumber value)
          value2 := UInt16.ofNat (hexNumber value2), crc8 := 0 }
  | crc {body crc : List UInt8} {m : RequestMsg}
      (hbody : RequestBody body m) (hcrc : HexDigits crc) :
      ReadingRequest .crc (body ++ '*'.toUInt8 :: crc)
        { m with crc8 := UInt8.ofNat (hexNumber crc) }
  | error {s : List UInt8} {m : RequestMsg} (hcode : m.code = .unknown) :
      ReadingRequest .error s m

/-- One byte extends what has been read, or completes it: then a known code is reported only
at the end of a valid line. -/
theorem readingRequest_step {p : Protocol} {s : List UInt8} (c : UInt8)
    (h : ReadingRequest p.rqState s p.requestMsg) :
    ((decodeRequest p c).2 ≠ .messageCompleted ∧
      ReadingRequest (decodeRequest p c).1.rqState (s ++ [c]) (decodeRequest p c).1.requestMsg) ∨
    ((decodeRequest p c).2 = .messageCompleted ∧ (decodeRequest p c).1.rqState = .code ∧
      ((decodeRequest p c).1.requestMsg.code ≠ .unknown →
        ValidRequestLine (s ++ [c]) (decodeRequest p c).1.requestMsg)) := by
  obtain ⟨rqState, m, rspState, responseMsg⟩ := p
  cases h with
  | code =>
      left
      cases hc : RequestMsgCodes.ofByte? c with
      | none => simpa [decodeRequest, hc, requestError] using ReadingRequest.error rfl
      | some code =>
          obtain ⟨hknown, rfl⟩ := RequestMsgCodes.ofByte?_eq_some.mp hc
          by_cases hw : code = .write
          · subst hw
            have hw : RequestMsgCodes.ofByte? 'W'.toUInt8 = some .write := hc
            simpa [decodeRequest, hw, RequestMsgCodes.toByte] using
              ReadingRequest.address hexDigits_nil
          · simpa [decodeRequest, hc, hw, RequestMsgCodes.toByte_eq_W] using
              ReadingRequest.value hknown hw hexDigits_nil
  | @value code value hknown hwrite hvalue =>
      left
      by_cases hd : isHexDigit c
      · simpa [decodeRequest, hd, hexNumber_snoc, Numeral.shiftLeft_or_uint8, char2Nibble_lt]
          using ReadingRequest.value hknown hwrite (hvalue.snoc hd)
      by_cases hstar : isCRCSeparator c
      · have hc : c = '*'.toUInt8 := by simpa [isCRCSeparator] using hstar
        subst hc
        simpa [decodeRequest, hd, hstar] using
          ReadingRequest.crc (.plain hknown hwrite hvalue) hexDigits_nil
      · simpa [decodeRequest, hd, hstar, requestError] using ReadingRequest.error rfl
  | @address value hvalue =>
      left
      by_cases hd : isHexDigit c
      · simpa [decodeRequest, hd, hexNumber_snoc, Numeral.shiftLeft_or_uint8, char2Nibble_lt]
          using ReadingRequest.address (hvalue.snoc hd)
      by_cases hspace : c = ' '.toUInt8
      · subst hspace
        simpa [decodeRequest, hd] using
          ReadingRequest.writeValue hvalue hexDigits_nil
      · simpa [decodeRequest, hd, hspace, requestError] using ReadingRequest.error rfl
  | @writeValue value value2 hvalue hvalue2 =>
      left
      by_cases hd : isHexDigit c
      · simpa [decodeRequest, hd, hexNumber_snoc, Numeral.shiftLeft_or_uint16, char2Nibble_lt]
          using ReadingRequest.writeValue hvalue (hvalue2.snoc hd)
      by_cases hstar : isCRCSeparator c
      · have hc : c = '*'.toUInt8 := by simpa [isCRCSeparator] using hstar
        subst hc
        simpa [decodeRequest, hd, hstar] using
          ReadingRequest.crc (.write hvalue hvalue2) hexDigits_nil
      · simpa [decodeRequest, hd, hstar, requestError] using ReadingRequest.error rfl
  | @crc body crc m hbody hcrc =>
      by_cases hd : isHexDigit c
      · left
        simpa [decodeRequest, hd, hexNumber_snoc, Numeral.shiftLeft_or_uint8, char2Nibble_lt]
          using ReadingRequest.crc hbody (hcrc.snoc hd)
      by_cases hnl : isNewLine c
      · by_cases hmatch : UInt8.ofNat (hexNumber crc) =
            ({ m with crc8 := UInt8.ofNat (hexNumber crc) } : RequestMsg).computeCRC8
        · right
          have hline := RequestLine.intro hbody hcrc hnl
          simpa [decodeRequest, hd, hnl, ← hmatch] using fun _ => ⟨hline, hmatch⟩
        · left
          simpa [decodeRequest, hd, hnl, hmatch, requestError] using ReadingRequest.error rfl
      · left
        simpa [decodeRequest, decodeRequestDefault, hd, hnl, requestError] using
          ReadingRequest.error rfl
  | error hcode =>
      by_cases hnl : isNewLine c
      · right
        have hcode : m.code = .unknown := hcode
        simp [decodeRequest, decodeRequestDefault, hnl, hcode]
      · left
        simpa [decodeRequest, decodeRequestDefault, hnl, requestError] using
          ReadingRequest.error rfl

section Completeness

variable (p : Protocol)

theorem requestValue_passes (m : RequestMsg) {ds : List UInt8} (hds : HexDigits ds) :
    Passes decodeRequest .needMoreData
      { p with rqState := .value, requestMsg := { m with value := 0 } } ds
      { p with rqState := .value
               requestMsg := { m with value := UInt8.ofNat (hexNumber ds) } } := by
  refine Passes.loop (fun read => { p with
    rqState := .value, requestMsg := { m with value := UInt8.ofNat (hexNumber read) } }) ds ?_ []
  intro read d hd
  simp [decodeRequest, hds d hd, hexNumber_snoc, Numeral.shiftLeft_or_uint8, char2Nibble_lt]

theorem requestAddress_passes (m : RequestMsg) {ds : List UInt8} (hds : HexDigits ds) :
    Passes decodeRequest .needMoreData
      { p with rqState := .address, requestMsg := { m with value := 0 } } ds
      { p with rqState := .address
               requestMsg := { m with value := UInt8.ofNat (hexNumber ds) } } := by
  refine Passes.loop (fun read => { p with
    rqState := .address, requestMsg := { m with value := UInt8.ofNat (hexNumber read) } }) ds ?_ []
  intro read d hd
  simp [decodeRequest, hds d hd, hexNumber_snoc, Numeral.shiftLeft_or_uint8, char2Nibble_lt]

theorem requestWriteValue_passes (m : RequestMsg) {ds : List UInt8} (hds : HexDigits ds) :
    Passes decodeRequest .needMoreData
      { p with rqState := .writeValue, requestMsg := { m with value2 := 0 } } ds
      { p with rqState := .writeValue
               requestMsg := { m with value2 := UInt16.ofNat (hexNumber ds) } } := by
  refine Passes.loop (fun read => { p with
    rqState := .writeValue
    requestMsg := { m with value2 := UInt16.ofNat (hexNumber read) } }) ds ?_ []
  intro read d hd
  simp [decodeRequest, hds d hd, hexNumber_snoc, Numeral.shiftLeft_or_uint16, char2Nibble_lt]

theorem requestCrc_passes (m : RequestMsg) {ds : List UInt8} (hds : HexDigits ds) :
    Passes decodeRequest .needMoreData
      { p with rqState := .crc, requestMsg := { m with crc8 := 0 } } ds
      { p with rqState := .crc
               requestMsg := { m with crc8 := UInt8.ofNat (hexNumber ds) } } := by
  refine Passes.loop (fun read => { p with
    rqState := .crc, requestMsg := { m with crc8 := UInt8.ofNat (hexNumber read) } }) ds ?_ []
  intro read d hd
  simp [decodeRequest, hds d hd, hexNumber_snoc, Numeral.shiftLeft_or_uint8, char2Nibble_lt]

theorem requestBody_passes (hs : p.rqState = .code) {body : List UInt8} {m : RequestMsg}
    (h : RequestBody body m) :
    Passes decodeRequest .needMoreData p (body ++ ['*'.toUInt8])
      { p with rqState := .crc, requestMsg := m } := by
  cases h with
  | @plain code value hknown hwrite hvalue =>
      let m : RequestMsg := { code, value := 0, value2 := 0, crc8 := 0 }
      have hletter : decodeRequest p code.toByte =
          ({ p with rqState := .value, requestMsg := m }, .needMoreData) := by
        simp [decodeRequest, hs, hknown, hwrite, RequestMsgCodes.toByte_eq_W, m]
      rw [List.cons_append]
      refine .cons hletter ((requestValue_passes p m hvalue).append (.cons ?_ (.nil _)))
      simp [decodeRequest, show isHexDigit '*'.toUInt8 = false by decide,
        show isCRCSeparator '*'.toUInt8 = true by decide, m]
  | @write value value2 hvalue hvalue2 =>
      let m : RequestMsg := { code := .write, value := 0, value2 := 0, crc8 := 0 }
      have hletter : decodeRequest p 'W'.toUInt8 =
          ({ p with rqState := .address, requestMsg := m }, .needMoreData) := by
        simp [decodeRequest, hs, m,
          show RequestMsgCodes.ofByte? 'W'.toUInt8 = some .write from rfl]
      let m' : RequestMsg := { m with value := UInt8.ofNat (hexNumber value) }
      rw [List.cons_append, List.append_assoc, List.cons_append]
      refine .cons hletter ((requestAddress_passes p m hvalue).append
        (.cons (t := { p with rqState := .writeValue, requestMsg := m' }) ?_
          ((requestWriteValue_passes p m' hvalue2).append (.cons ?_ (.nil _)))))
      · simp [decodeRequest, show isHexDigit ' '.toUInt8 = false by decide, m']
      · simp [decodeRequest, show isHexDigit '*'.toUInt8 = false by decide,
          show isCRCSeparator '*'.toUInt8 = true by decide, m, m']

/-- Up to its newline a line is read silently, and its fields are then in the record. -/
theorem requestLine_passes (hs : p.rqState = .code) {s : List UInt8} {m : RequestMsg}
    (h : RequestLine s m) :
    ∃ pre nl, s = pre ++ [nl] ∧ isNewLine nl ∧
      Passes decodeRequest .needMoreData p pre { p with rqState := .crc, requestMsg := m } := by
  obtain ⟨hbody, hcrc, hnl⟩ := h
  rename_i body crc m nl
  refine ⟨(body ++ ['*'.toUInt8]) ++ crc, nl, by simp, hnl, ?_⟩
  refine (requestBody_passes p hs hbody).append ?_
  have hzero : m = { m with crc8 := 0 } := by cases hbody <;> rfl
  rw [hzero]
  exact requestCrc_passes p m hcrc

theorem decodeRequest_newLine_crc (hs : p.rqState = .crc) {nl : UInt8} (hnl : isNewLine nl)
    (hcrc : p.requestMsg.crc8 = p.requestMsg.computeCRC8) :
    decodeRequest p nl = ({ p with rqState := .code }, .messageCompleted) := by
  simp [decodeRequest, hs, isHexDigit_newLine hnl, hnl, ← hcrc]

end Completeness

/-- The line `s` is accepted with the record `m`: its last byte completes a message and no
earlier byte does. -/
def AcceptsRequest (p : Protocol) (s : List UInt8) (m : RequestMsg) : Prop :=
  ∃ pre last, s = pre ++ [last] ∧
    (∀ o ∈ trace decodeRequest p pre, o.1 ≠ .messageCompleted) ∧
    (decodeRequest (run decodeRequest p pre) last).2 = .messageCompleted ∧
    (run decodeRequest p s).requestMsg = m

theorem acceptsRequest_of_valid {p : Protocol} (hs : p.rqState = .code) {s : List UInt8}
    {m : RequestMsg} (h : ValidRequestLine s m) : AcceptsRequest p s m := by
  obtain ⟨pre, nl, rfl, hnl, hpass⟩ := requestLine_passes p hs h.1
  have hlast := decodeRequest_newLine_crc
    { p with rqState := .crc, requestMsg := m } rfl hnl h.2
  refine ⟨pre, nl, rfl, ?_, ?_, ?_⟩
  · intro o ho
    rw [hpass.quiet_of_mem o ho]
    decide
  · rw [hpass.run_eq, hlast]
  · rw [run_append, hpass.run_eq, run_cons, hlast, run_nil]

/-- As long as nothing is completed, the record reflects everything that was fed. -/
theorem readingRequest_run {p : Protocol} (hs : p.rqState = .code) (s : List UInt8)
    (hsilent : ∀ o ∈ trace decodeRequest p s, o.1 ≠ .messageCompleted) :
    ReadingRequest (run decodeRequest p s).rqState s (run decodeRequest p s).requestMsg := by
  induction s using List.reverseRecOn with
  | nil => simpa [hs] using ReadingRequest.code
  | append_singleton s c ih =>
      simp only [trace_append, trace_cons, trace_nil, List.mem_append, List.mem_singleton]
        at hsilent
      rw [run_append, run_cons, run_nil]
      rcases readingRequest_step c (ih fun o ho => hsilent o (.inl ho)) with h | h
      · exact h.2
      · exact absurd h.1 (hsilent _ (.inr rfl))

/-- From the start state the decoder accepts exactly the valid lines, each with the record
its grammar spells out. -/
theorem decodeRequest_accepts_iff (p : Protocol) (hs : p.rqState = .code) (s : List UInt8)
    (m : RequestMsg) :
    AcceptsRequest p s m ∧ m.code ≠ .unknown ↔ ValidRequestLine s m := by
  constructor
  · rintro ⟨⟨pre, last, rfl, hsilent, hlast, rfl⟩, hknown⟩
    rw [run_append, run_cons, run_nil] at hknown ⊢
    rcases readingRequest_step last (readingRequest_run hs pre hsilent) with h | h
    · exact absurd hlast h.1
    · exact h.2.2 hknown
  · intro h
    refine ⟨acceptsRequest_of_valid hs h, ?_⟩
    obtain ⟨hbody, -, -⟩ := h.1
    cases hbody with
    | plain hknown _ _ => exact hknown
    | write _ _ => simp

theorem decodeRequest_accepts_iff_query :
    AcceptsRequest .fresh (['Q', '0', '*', 'e', 'a', '\n'].map Char.toUInt8) (.init .query 0) ∧
        RequestMsgCodes.query ≠ .unknown ↔
      ValidRequestLine (['Q', '0', '*', 'e', 'a', '\n'].map Char.toUInt8) (.init .query 0) :=
  decodeRequest_accepts_iff .fresh rfl _ _

end MmuFirmware
