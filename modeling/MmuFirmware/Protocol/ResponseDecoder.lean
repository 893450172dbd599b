import MmuFirmware.Protocol.Decode
import MmuFirmware.Protocol.Grammar
import Mathlib.Data.List.DropRight

/-!
`DecodeResponse` against the response grammar. The invariant relates the automaton to the
bytes since the previous newline. The one state it says nothing about is the error state:
an offending byte read before the parameter code leaves the parameter code of an earlier
line in the record, and a newline read next reports that record as completed.
-/
namespace MmuFirmware
open Transducer

/-- The bytes fed after the last newline. -/
def sinceNewLine (s : List UInt8) : List UInt8 := s.rtakeWhile fun c => !isNewLine c

theorem sinceNewLine_snoc (s : List UInt8) (c : UInt8) :
    sinceNewLine (s ++ [c]) = if isNewLine c then [] else sinceNewLine s ++ [c] := by
  by_cases hc : isNewLine c <;> simp [sinceNewLine, hc]

inductive ReadingResponse : ResponseStates → List UInt8 → ResponseMsg → Prop
  | requestCode {m : ResponseMsg} : ReadingResponse .requestCode [] m
  | requestValue {code : RequestMsgCodes} {value : List UInt8}
      {param : ResponseMsgParamCodes} {paramValue : UInt16}
      (hknown : code ≠ .unknown) (hvalue : HexDigits value) :
      ReadingResponse .requestValue (code.toByte :: value)
        { request := { code, value := UInt8.ofNat (hexNumber value), value2 := 0, crc8 := 0 }
          paramCode := param, paramValue }
  | paramCode {code : RequestMsgCodes} {value : List UInt8}
      {param : ResponseMsgParamCodes} {paramValue : UInt16}
      (hknown : code ≠ .unknown) (hvalue : HexDigits value) :
      ReadingResponse .paramCode (code.toByte :: (value ++ [' '.toUInt8]))
        { request := { code, value := UInt8.ofNat (hexNumber value), value2 := 0, crc8 := 0 }
          paramCode := param, paramValue }
  | paramValue {code : RequestMsgCodes} {param : ResponseMsgParamCodes}
      {value paramValue : List UInt8} (hknown : code ≠ .unknown) (hvalue : HexDigits value)
      (hparam : param ≠ .unknown) (hparamValue : HexDigits paramValue) :
      ReadingResponse .paramValue
        (code.toByte :: (value ++ ' '.toUInt8 :: param.toByte :: paramValue))
        { request := { code, value := UInt8.ofNat (hexNumber value), value2 := 0, crc8 := 0 }
          paramCode := param, paramValue := UInt16.ofNat (hexNumber paramValue) }
  | crc {code : RequestMsgCodes} {param : ResponseMsgParamCodes}
      {value paramValue crc : List UInt8} (hknown : code ≠ .unknown) (hvalue : HexDigits value)
      (hparam : param ≠ .unknown) (hparamValue : HexDigits paramValue) (hcrc : HexDigits crc) :
      ReadingResponse .crc
        (code.toByte ::
          (value ++ ' '.toUInt8 :: param.toByte :: (paramValue ++ '*'.toUInt8 :: crc)))
        { request :=
            { code, value := UInt8.ofNat (hexNumber value), value2 := 0
              crc8 := UInt8.ofNat (hexNumber crc) }
          paramCode := param, paramValue := UInt16.ofNat (hexNumber paramValue) }
  | error {t : List UInt8} {m : ResponseMsg} : ReadingResponse .error t m

theorem ReadingResponse.eq_nil {t : List UInt8} {m : ResponseMsg}
    (h : ReadingResponse .requestCode t m) : t = [] := by
  cases h
  rfl

theorem readingResponse_step {p : Protocol} {t : List UInt8} (c : UInt8)
    (h : ReadingResponse p.rspState t p.responseMsg) :
    ReadingResponse (decodeResponse p c).1.rspState (if isNewLine c then [] else t ++ [c])
        (decodeResponse p c).1.responseMsg ∧
      ((decodeResponse p c).2 = .messageCompleted →
        p.rspState = .error ∨ ValidResponseLine (t ++ [c]) (decodeResponse p c).1.responseMsg) := by
  obtain ⟨rqState, requestMsg, rspState, m⟩ := p
  cases h with
  | requestCode =>
      cases hc : RequestMsgCodes.ofByte? c with
      | none =>
          by_cases hnl : isNewLine c
          · simpa [decodeResponse, hc, hnl] using ReadingResponse.requestCode
          · simpa [decodeResponse, hc, hnl, responseErrorKeep] using ReadingResponse.error
      | some code =>
          obtain ⟨hknown, rfl⟩ := RequestMsgCodes.ofByte?_eq_some.mp hc
          have hnl : isNewLine code.toByte = false := by
            by_contra hnl
            simp [(separates _).newLine (by simpa using hnl)] at hc
          simpa [decodeResponse, hc, hnl] using
            ReadingResponse.requestValue hknown hexDigits_nil
  | @requestValue code value param paramValue hknown hvalue =>
      by_cases hd : isHexDigit c
      · obtain ⟨hnl, -⟩ := (separates c).digit hd
        simpa [decodeResponse, hd, hnl, hexNumber_snoc, Numeral.shiftLeft_add_uint8] using
          ReadingResponse.requestValue hknown (hvalue.snoc hd)
      by_cases hspace : c = ' '.toUInt8
      · subst hspace
        have hnl : isNewLine ' '.toUInt8 = false := by decide
        simpa [decodeResponse, hd, hnl] using ReadingResponse.paramCode hknown hvalue
      · simpa [decodeResponse, hd, hspace, responseErrorKeep] using ReadingResponse.error
  | @paramCode code value param paramValue hknown hvalue =>
      cases hc : ResponseMsgParamCodes.ofByte? c with
      | none => simpa [decodeResponse, hc, responseErrorClear] using ReadingResponse.error
      | some param =>
          obtain ⟨hparam, rfl⟩ := ResponseMsgParamCodes.ofByte?_eq_some.mp hc
          have hnl : isNewLine param.toByte = false := by
            by_contra hnl
            simp [(separates _).newLine (by simpa using hnl)] at hc
          simpa [decodeResponse, hc, hnl] using
            ReadingResponse.paramValue hknown hvalue hparam hexDigits_nil
  | @paramValue code param value paramValue hknown hvalue hparam hparamValue =>
      by_cases hd : isHexDigit c
      · obtain ⟨hnl, -⟩ := (separates c).digit hd
        simpa [decodeResponse, hd, hnl, hexNumber_snoc, Numeral.shiftLeft_add_uint16] using
          ReadingResponse.paramValue hknown hvalue hparam (hparamValue.snoc hd)
      by_cases hstar : isCRCSeparator c
      · have hc : c = '*'.toUInt8 := by simpa [isCRCSeparator] using hstar
        subst hc
        have hnl : isNewLine '*'.toUInt8 = false := by decide
        simpa [decodeResponse, hd, hstar, hnl] using
          ReadingResponse.crc hknown hvalue hparam hparamValue hexDigits_nil
      · simpa [decodeResponse, hd, hstar, responseErrorClear] using ReadingResponse.error
  | @crc code param value paramValue crc hknown hvalue hparam hparamValue hcrc =>
      by_cases hd : isHexDigit c
      · obtain ⟨hnl, -⟩ := (separates c).digit hd
        simpa [decodeResponse, hd, hnl, hexNumber_snoc, Numeral.shiftLeft_add_uint8] using
          ReadingResponse.crc hknown hvalue hparam hparamValue (hcrc.snoc hd)
      by_cases hnl : isNewLine c
      · have hline := ResponseLine.intro hknown hvalue hparam hparamValue hcrc hnl
        let m : ResponseMsg :=
          { request :=
              { code, value := UInt8.ofNat (hexNumber value), value2 := 0
                crc8 := UInt8.ofNat (hexNumber crc) }
            paramCode := param, paramValue := UInt16.ofNat (hexNumber paramValue) }
        by_cases hmatch : m.request.crc8 = m.computeCRC8
        · have hmatch' := hmatch
          simp only [m] at hmatch
          refine ⟨?_, fun _ => .inr ?_⟩
          · simpa [decodeResponse, hd, hnl, ← hmatch] using ReadingResponse.requestCode
          · simpa [decodeResponse, hd, hnl, ← hmatch] using ⟨hline, hmatch'⟩
        · simp only [m] at hmatch
          simpa [decodeResponse, hd, hnl, hmatch, responseErrorClear] using ReadingResponse.error
      · simpa [decodeResponse, hd, hnl, responseErrorClear] using ReadingResponse.error
  | error =>
      by_cases hnl : isNewLine c
      · simpa [decodeResponse, hnl] using ReadingResponse.requestCode
      · simpa [decodeResponse, hnl, responseErrorClear] using ReadingResponse.error

/-- The byte is offending, comes before the parameter code and finds a parameter code in
the record: the error transition it causes keeps that code. -/
def LeavesStale (p : Protocol) (c : UInt8) : Prop :=
  p.responseMsg.paramCode ≠ .unknown ∧
    (p.rspState = .requestCode ∧ RequestMsgCodes.ofByte? c = none ∧ isNewLine c = false ∨
      p.rspState = .requestValue ∧ isHexDigit c = false ∧ c ≠ ' '.toUInt8)

theorem decodeResponse_error_code {p : Protocol} {c : UInt8}
    (hstate : (decodeResponse p c).1.rspState = .error) :
    (decodeResponse p c).1.responseMsg.paramCode = .unknown ∨ LeavesStale p c := by
  obtain ⟨rqState, requestMsg, rspState, m⟩ := p
  rw [LeavesStale]
  by_cases hparam : m.paramCode = .unknown
  · left
    revert hstate
    cases rspState <;>
      simp only [decodeResponse, responseErrorKeep, responseErrorClear] <;>
      repeat' split
    all_goals simp [hparam]
  · cases rspState with
    | requestCode =>
        right
        revert hstate
        cases hc : RequestMsgCodes.ofByte? c <;> by_cases hnl : isNewLine c <;>
          simp [decodeResponse, hc, hnl, hparam]
    | requestValue =>
        right
        revert hstate
        by_cases hd : isHexDigit c
        · simp [decodeResponse, hd]
        by_cases hspace : c = ' '.toUInt8
        · subst hspace
          simp [decodeResponse, show isHexDigit ' '.toUInt8 = false by decide]
        · simp [decodeResponse, hd, hspace, hparam]
    | paramCode | paramValue | crc | error =>
        left
        revert hstate
        simp only [decodeResponse, responseErrorClear]
        repeat' split
        all_goals simp

theorem decodeResponse_leavesStale {p : Protocol} {c : UInt8} (h : LeavesStale p c) :
    decodeResponse p c = ({ p with rspState := .error }, .error) := by
  obtain ⟨-, ⟨hs, hc, hnl⟩ | ⟨hs, hd, hspace⟩⟩ := h
  · simp [decodeResponse, hs, hc, hnl, responseErrorKeep]
  · simp [decodeResponse, hs, hd, hspace, responseErrorKeep]

/-- Every message reported while `s` is read is the line read since the previous newline. -/
def SoundReports (p : Protocol) (s : List UInt8) : Prop :=
  ∀ pre c post, s = pre ++ c :: post →
    (decodeResponse (run decodeResponse p pre) c).2 = .messageCompleted →
    (run decodeResponse p (pre ++ [c])).responseMsg.paramCode ≠ .unknown →
    ValidResponseLine (sinceNewLine pre ++ [c]) (run decodeResponse p (pre ++ [c])).responseMsg

/-- No line breaks off, with a stale record, right before a newline. -/
def NoStaleBreak (p : Protocol) (s : List UInt8) : Prop :=
  ∀ pre c nl post, s = pre ++ c :: nl :: post → isNewLine nl →
    ¬ LeavesStale (run decodeResponse p pre) c

theorem readingResponse_run {p : Protocol} (hs : p.rspState = .requestCode)
    (s : List UInt8) :
    ReadingResponse (run decodeResponse p s).rspState (sinceNewLine s)
      (run decodeResponse p s).responseMsg := by
  refine run_invariant decodeResponse
    (fun q read => ReadingResponse q.rspState (sinceNewLine read) q.responseMsg) p ?_ ?_ s
  · simpa [hs, sinceNewLine] using ReadingResponse.requestCode
  · intro q read c h
    simpa only [sinceNewLine_snoc] using (readingResponse_step c h).1

theorem not_validResponseLine_of_break {p : Protocol} {t : List UInt8} {c nl : UInt8}
    {m : ResponseMsg} (hread : ReadingResponse p.rspState t p.responseMsg)
    (h : LeavesStale p c) :
    ¬ ValidResponseLine ((if isNewLine c then [] else t ++ [c]) ++ [nl]) m := by
  rintro ⟨hline, -⟩
  generalize hbytes : (if isNewLine c then [] else t ++ [c]) ++ [nl] = bytes at hline
  obtain ⟨hknown, hvalue, -, -, -, -⟩ := hline
  by_cases hc : isNewLine c
  · simpa [hc] using congrArg List.length hbytes
  rw [if_neg hc] at hbytes
  obtain ⟨-, ⟨hs, hletter, -⟩ | ⟨hs, hd, hspace⟩⟩ := h
  · rw [hs] at hread
    cases hread
    have hfirst := (List.cons.inj hbytes).1
    rw [hfirst, RequestMsgCodes.ofByte?_toByte hknown] at hletter
    cases hletter
  · rw [hs] at hread
    generalize p.responseMsg = record at hread
    cases hread with
    | requestValue _ hdigits =>
        simp only [List.cons_append, List.append_assoc, List.nil_append] at hbytes
        have htail := (List.cons.inj hbytes).2
        exact hspace (hexDigits_split hdigits hvalue hd (by decide) htail).2.1

/-- The reports are sound exactly when no line breaks off before its parameter code, with an
earlier line's code still in the record, on the last byte before a newline. -/
theorem decodeResponse_sound_iff (p : Protocol) (hs : p.rspState = .requestCode)
    (s : List UInt8) : SoundReports p s ↔ NoStaleBreak p s := by
  constructor
  · intro hsound pre c nl post heq hnl hstale
    have hread := readingResponse_run hs pre
    have hc := decodeResponse_leavesStale hstale
    have hlast : decodeResponse (run decodeResponse p (pre ++ [c])) nl =
        ({ run decodeResponse p pre with rspState := .requestCode }, .messageCompleted) := by
      rw [run_append, run_cons, run_nil, hc]
      simp [decodeResponse, hnl]
    have hreport := hsound (pre ++ [c]) nl post (by simpa using heq) (by rw [hlast])
    rw [run_append, run_cons, run_nil, hlast, sinceNewLine_snoc] at hreport
    exact not_validResponseLine_of_break hread hstale (hreport hstale.1)
  · intro hbreak pre c post heq hdone hcode
    rw [run_append, run_cons, run_nil] at hcode ⊢
    rcases (readingResponse_step c (readingResponse_run hs pre)).2 hdone with herr | hvalid
    · -- completed from the error state: the byte before is the one that left the record
      exfalso
      have hnl : isNewLine c := by
        by_contra hnl
        simp [decodeResponse, herr, hnl, responseErrorClear] at hdone
      simp only [decodeResponse, herr, hnl, if_true] at hcode
      rcases List.eq_nil_or_concat pre with rfl | ⟨pre, b, rfl⟩
      · rw [run_nil, hs] at herr
        cases herr
      · rw [List.concat_eq_append, run_append, run_cons, run_nil] at herr hcode
        rcases decodeResponse_error_code herr with hunknown | hstale
        · exact hcode hunknown
        · exact hbreak pre b c post (by simpa using heq) hnl hstale
    · exact hvalid

theorem decodeResponse_sound_iff_fresh :
    SoundReports .fresh (['b', '\n'].map Char.toUInt8) ↔
      NoStaleBreak .fresh (['b', '\n'].map Char.toUInt8) :=
  decodeResponse_sound_iff .fresh rfl _

/-- A finished tool change, then a line of noise: the noise is reported as finished too. -/
theorem staleResponse_unsound :
    ¬ SoundReports .fresh
      (['T', '0', ' ', 'F', '0', '*', '1', '8', '\n', 'b', '\n'].map Char.toUInt8) := by
  intro h
  have hreport := h (['T', '0', ' ', 'F', '0', '*', '1', '8', '\n', 'b'].map Char.toUInt8)
    '\n'.toUInt8 [] (by decide) (by decide +kernel) (by decide +kernel)
  have hbytes : sinceNewLine
      (['T', '0', ' ', 'F', '0', '*', '1', '8', '\n', 'b'].map Char.toUInt8) = ['b'.toUInt8] := by
    decide +kernel
  rw [hbytes] at hreport
  have hlen := hreport.1.length_ge
  simp at hlen

end MmuFirmware
