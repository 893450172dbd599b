import MmuFirmware.Protocol.RequestCorruption

/-!
One damaged byte in a response line. Besides the two ways of a request line there is a
third: the decoder skips a newline in front of a line, so a letter turned into a newline
leaves a line that starts with the first digit of the value. Only the digit `f` is a letter
too, and there the checksum decides.
-/
namespace MmuFirmware
open Transducer ListDistance Crc

def ReportsResponse (p : Protocol) (s : List UInt8) (m : ResponseMsg) : Prop :=
  ∃ pre c post, s = pre ++ c :: post ∧
    (decodeResponse (run decodeResponse p pre) c).2 = .messageCompleted ∧
    (run decodeResponse p (pre ++ [c])).responseMsg = m ∧ m.paramCode ≠ .unknown

theorem decodeResponse_completed {p : Protocol} {c : UInt8}
    (h : (decodeResponse p c).2 = .messageCompleted) :
    isNewLine c ∧ p.rspState ≠ .requestCode ∧ ResponseLineEnds p := by
  have hnl : isNewLine c := by
    by_contra hnl
    revert h
    simp only [decodeResponse, responseErrorKeep, responseErrorClear, hnl, if_false]
    repeat' split
    all_goals simp
  have hstart : p.rspState ≠ .requestCode := by
    intro hs
    simp [decodeResponse, hs, ((separates c).newLine hnl).2.2.1, hnl] at h
  refine ⟨hnl, hstart, ?_⟩
  rw [ResponseLineEnds]
  revert h
  cases hs : p.rspState with
  | requestCode => exact absurd hs hstart
  | error => simp
  | crc =>
      by_cases hcrc : p.responseMsg.request.crc8 = p.responseMsg.computeCRC8
      · simp [hcrc]
      · simp [decodeResponse, hs, isHexDigit_newLine hnl, hnl, hcrc, responseErrorClear]
  | paramCode =>
      simp [decodeResponse, hs, ((separates c).newLine hnl).2.2.2, responseErrorClear]
  | requestValue =>
      simp [decodeResponse, hs, isHexDigit_newLine hnl, ((separates c).newLine hnl).2.1,
        responseErrorKeep]
  | paramValue =>
      simp [decodeResponse, hs, isHexDigit_newLine hnl, ((separates c).newLine hnl).1,
        responseErrorClear]

section Record

/-- Outside the parameter's value and checksum the record carries no parameter code. -/
def RecordClear (p : Protocol) : Prop :=
  p.rspState ≠ .paramValue → p.rspState ≠ .crc → p.responseMsg.paramCode = .unknown

theorem recordClear_step {p : Protocol} {c : UInt8} (h : RecordClear p)
    (hopen : (decodeResponse p c).2 ≠ .messageCompleted) :
    RecordClear (decodeResponse p c).1 := by
  obtain ⟨rqState, requestMsg, rspState, m⟩ := p
  revert h hopen
  simp only [RecordClear]
  cases rspState <;>
    simp only [decodeResponse, responseErrorKeep, responseErrorClear] <;> repeat' split
  all_goals simp_all

theorem responseSilent_of_newLine_free {p : Protocol} {s : List UInt8}
    (hs : ∀ c ∈ s, isNewLine c = false) :
    ∀ o ∈ trace decodeResponse p s, o.1 ≠ .messageCompleted := by
  intro o ho hdone
  obtain ⟨pre, c, post, rfl, rfl⟩ := (mem_trace_iff decodeResponse p s o).mp ho
  have hnl := (decodeResponse_completed hdone).1
  rw [hs c (by simp)] at hnl
  cases hnl

theorem recordClear_run {p : Protocol} (h : RecordClear p) {s : List UInt8}
    (hs : ∀ c ∈ s, isNewLine c = false) : RecordClear (run decodeResponse p s) := by
  induction s generalizing p with
  | nil => exact h
  | cons c s ih =>
      rw [run_cons]
      refine ih (recordClear_step h ?_) fun d hd => hs d (List.mem_cons_of_mem c hd)
      have hmem : ((decodeResponse p c).2, (decodeResponse p c).1) ∈ trace decodeResponse p (c :: s) :=
        List.mem_cons_self
      exact responseSilent_of_newLine_free hs _ hmem

theorem sinceNewLine_of_free {s : List UInt8} (hs : ∀ c ∈ s, isNewLine c = false) :
    sinceNewLine s = s := by
  rw [sinceNewLine, List.rtakeWhile_eq_self_iff]
  intro c hc
  simp [hs c hc]

/-- With no parameter code from an earlier line a report is the line since the newline. -/
theorem validResponseLine_of_report {p : Protocol} (hs : p.rspState = .requestCode)
    (hclear : RecordClear p) {pre : List UInt8} {c : UInt8}
    (hpre : ∀ d ∈ pre, isNewLine d = false)
    (hdone : (decodeResponse (run decodeResponse p pre) c).2 = .messageCompleted)
    (hknown : (run decodeResponse p (pre ++ [c])).responseMsg.paramCode ≠ .unknown) :
    ValidResponseLine (pre ++ [c]) (run decodeResponse p (pre ++ [c])).responseMsg := by
  rw [run_append, run_cons, run_nil] at hknown ⊢
  rcases (readingResponse_step c (readingResponse_run hs pre)).2 hdone with herr | hvalid
  · have hunknown := recordClear_run hclear hpre (by rw [herr]; decide) (by rw [herr]; decide)
    have hnl := (decodeResponse_completed hdone).1
    simp only [decodeResponse, herr, hnl, if_true] at hknown
    exact absurd hunknown hknown
  · rwa [sinceNewLine_of_free hpre] at hvalid

end Record

theorem responseLine_onTrack {p : Protocol} (hs : p.rspState = .requestCode)
    {a rest : List UInt8} {x nl : UInt8} {m : ResponseMsg} (hx : isNewLine x = false)
    (h : ResponseLine (a ++ x :: (rest ++ [nl])) m) :
    (run decodeResponse p a).rspState ≠ .error := by
  intro herr
  obtain ⟨pre, last, heq, -, hpass⟩ := responseLine_passes p hs h
  have hpre : pre = a ++ x :: rest := by
    have heq' : (a ++ x :: rest) ++ [nl] = pre ++ [last] := by simpa using heq
    exact (List.append_inj_left' heq' rfl).symm
  have hquiet := hpass.quiet_of_mem _ ((mem_trace_iff decodeResponse p pre _).mpr
    ⟨a, x, rest, hpre, rfl⟩)
  rw [decodeResponse_error herr hx] at hquiet
  cases hquiet

section Cut

/-- The part of a response line that its checksum covers. -/
inductive ResponseBody : List UInt8 → ResponseMsg → Prop
  | intro {code : RequestMsgCodes} {param : ResponseMsgParamCodes}
      {value paramValue : List UInt8} (hknown : code ≠ .unknown) (hvalue : HexDigits value)
      (hparam : param ≠ .unknown) (hparamValue : HexDigits paramValue) :
      ResponseBody (code.toByte :: (value ++ ' '.toUInt8 :: param.toByte :: paramValue))
        { request := { code, value := UInt8.ofNat (hexNumber value), value2 := 0, crc8 := 0 }
          paramCode := param, paramValue := UInt16.ofNat (hexNumber paramValue) }

theorem ResponseLine.body {s : List UInt8} {m : ResponseMsg} (h : ResponseLine s m) :
    ∃ body crc nl m₀, ResponseBody body m₀ ∧ HexDigits crc ∧ isNewLine nl ∧
      s = body ++ '*'.toUInt8 :: (crc ++ [nl]) ∧ m.fields = m₀.fields := by
  obtain ⟨hknown, hvalue, hparam, hword, hcrc, hnl⟩ := h
  exact ⟨_, _, _, _, .intro hknown hvalue hparam hword, hcrc, hnl, by simp, rfl⟩

theorem ResponseBody.star_not_mem {body : List UInt8} {m : ResponseMsg}
    (h : ResponseBody body m) : '*'.toUInt8 ∉ body := by
  obtain ⟨-, hvalue, -, hword⟩ := h
  rename_i code param value word
  simp only [List.mem_cons, List.mem_append, not_or]
  exact ⟨by cases code <;> decide, hvalue.not_mem (by decide), by decide,
    by cases param <;> decide, hword.not_mem (by decide)⟩

theorem ResponseBody.unique {body : List UInt8} {m m' : ResponseMsg}
    (h : ResponseBody body m) (h' : ResponseBody body m') : m = m' := by
  generalize hbody : body = body' at h'
  obtain ⟨-, hvalue, -, -⟩ := h
  obtain ⟨-, hvalue', -, -⟩ := h'
  obtain ⟨hcode, htail⟩ := List.cons.inj hbody
  obtain ⟨rfl, -, htail⟩ := hexDigits_split hvalue hvalue' (by decide) (by decide) htail
  obtain ⟨hparam, rfl⟩ := List.cons.inj htail
  rw [RequestMsgCodes.toByte_injective hcode, ResponseMsgParamCodes.toByte_injective hparam]

theorem ResponseLine.fields_of_cut {a t : List UInt8} {b : UInt8} {m m' : ResponseMsg}
    (h : ResponseLine (a ++ t) m) (h' : ResponseLine (a ++ [b]) m') : m'.fields = m.fields := by
  obtain ⟨body, crc, nl, m₀, hbody, -, -, hs, hfields⟩ := h.body
  obtain ⟨body', crc', nl', m₀', hbody', -, -, hs', hfields'⟩ := h'.body
  have ha : a = body' ++ '*'.toUInt8 :: crc' := by
    have heq : a ++ [b] = (body' ++ '*'.toUInt8 :: crc') ++ [nl'] := by simpa using hs'
    exact List.append_inj_left' heq rfl
  rw [ha, List.append_assoc, List.cons_append] at hs
  obtain rfl := body_eq_of_star hbody'.star_not_mem hbody.star_not_mem hs
  rw [hfields, hfields', hbody.unique hbody']

end Cut

section Shifted

/-- The one letter that is a hexadecimal digit as well. -/
theorem letter_digit {code : RequestMsgCodes} (h : isHexDigit code.toByte) :
    code = .filamentSensor := by
  revert h
  cases code <;> decide

/-- The checksums of a line and of the line that starts at its digit `f` differ, whichever
letter and second digit the first one has. -/
theorem shifted_crc (code : RequestMsgCodes) (hknown : code ≠ .unknown) :
    ccittUpdateCX (ccittUpdateCX 0 code.toByte) 15 ≠
        ccittUpdateCX (ccittUpdateCX 0 RequestMsgCodes.filamentSensor.toByte) 0 ∧
      ∀ x : Fin 16, ccittUpdateCX (ccittUpdateCX 0 code.toByte) (UInt8.ofNat (240 + x)) ≠
        ccittUpdateCX (ccittUpdateCX 0 RequestMsgCodes.filamentSensor.toByte) (UInt8.ofNat x) := by
  have h : ∀ code ∈ RequestMsgCodes.letters,
      ccittUpdateCX (ccittUpdateCX 0 code.toByte) 15 ≠
        ccittUpdateCX (ccittUpdateCX 0 RequestMsgCodes.filamentSensor.toByte) 0 ∧
      ∀ x : Fin 16, ccittUpdateCX (ccittUpdateCX 0 code.toByte) (UInt8.ofNat (240 + x)) ≠
        ccittUpdateCX (ccittUpdateCX 0 RequestMsgCodes.filamentSensor.toByte) (UInt8.ofNat x) := by
    decide +kernel
  exact h code (RequestMsgCodes.mem_letters.mpr hknown)

/-- Numerals of one byte that start with `f`, with what is left when the `f` is cut off. -/
theorem uint8ToHex_f {value : UInt8} {ds : List UInt8}
    (h : uint8ToHex value = RequestMsgCodes.filamentSensor.toByte :: ds) :
    value = 15 ∧ UInt8.ofNat (hexNumber ds) = 0 ∨
      ∃ x : Fin 16, value = UInt8.ofNat (240 + x) ∧ UInt8.ofNat (hexNumber ds) = UInt8.ofNat x := by
  have hall : ∀ n : Fin 256,
      (uint8ToHex (UInt8.ofNat n)).head? = some RequestMsgCodes.filamentSensor.toByte →
        UInt8.ofNat n = 15 ∧ UInt8.ofNat (hexNumber (uint8ToHex (UInt8.ofNat n)).tail) = 0 ∨
          ∃ x : Fin 16, UInt8.ofNat n = UInt8.ofNat (240 + x) ∧
            UInt8.ofNat (hexNumber (uint8ToHex (UInt8.ofNat n)).tail) = UInt8.ofNat x := by
    decide +kernel
  have hvalue := hall ⟨value.toNat, value.toNat_lt⟩
  simpa only [UInt8.ofNat_toNat, h, List.head?_cons, List.tail_cons, forall_const] using hvalue

/-- Without its first byte an encoded response is no valid line. -/
theorem spell_not_shifted {m : ResponseMsg} {digits : List UInt8}
    (henc : OutgoingResponse.Encodable m digits) {x : UInt8} {rest : List UInt8}
    (h : OutgoingResponse.spell m digits = x :: rest) (m' : ResponseMsg) :
    ¬ ValidResponseLine rest m' := by
  rintro ⟨hline, hsum⟩
  obtain ⟨hvalue, hvalueNumber, -⟩ := uint8ToHex_spec m.request.value
  obtain ⟨hcrc, hcrcNumber, -⟩ := uint8ToHex_spec m.request.crc8
  rw [OutgoingResponse.spell_eq] at h
  obtain ⟨-, rfl⟩ := List.cons.inj h
  generalize hbytes : uint8ToHex m.request.value ++ ' '.toUInt8 :: m.paramCode.toByte ::
    (digits ++ '*'.toUInt8 :: (uint8ToHex m.request.crc8 ++ ['\n'.toUInt8])) = bytes at hline
  obtain ⟨hknown, hvalue', -, hword', hcrc', hnl'⟩ := hline
  rename_i code param value word crc nl
  cases hdigits : uint8ToHex m.request.value with
  | nil =>
      rw [hdigits] at hbytes
      have hspace := (List.cons.inj hbytes).1
      cases code <;> exact absurd hspace (by decide)
  | cons d ds =>
      rw [hdigits] at hvalue hbytes
      obtain ⟨rfl, htail⟩ := List.cons.inj hbytes
      have hletter := letter_digit (hvalue _ List.mem_cons_self)
      subst hletter
      obtain ⟨rfl, -, htail⟩ := hexDigits_split
        (fun c hc => hvalue c (List.mem_cons_of_mem _ hc)) hvalue' (by decide) (by decide) htail
      obtain ⟨hparam, htail⟩ := List.cons.inj htail
      obtain ⟨rfl, -, htail⟩ := hexDigits_split henc.digits_hex hword' (by decide) (by decide) htail
      obtain rfl : uint8ToHex m.request.crc8 = crc := List.append_inj_left' htail rfl
      -- both lines carry one checksum, so it is that of two values behind two letters
      have hsums : m.computeCRC8 = _ := henc.crc_eq.symm.trans <|
        (by rw [hcrcNumber, UInt8.ofNat_toNat] :
          m.request.crc8 = UInt8.ofNat (hexNumber (uint8ToHex m.request.crc8))).trans hsum
      simp only [ResponseMsg.computeCRC8, RequestMsg.computeCRC8, hparam, henc.digits_value,
        henc.value2_zero, UInt16.ofNat_toNat, ccittUpdateW_crc_inj, ccittUpdateCX_crc_inj] at hsums
      have hcrcs := shifted_crc m.request.code henc.code_known
      rcases uint8ToHex_f hdigits with ⟨hv, hv'⟩ | ⟨x, hv, hv'⟩
      · rw [hv, hv'] at hsums
        exact hcrcs.1 hsums
      · rw [hv, hv'] at hsums
        exact hcrcs.2 x hsums

end Shifted

section Damage

/-- Completed from the error state, the record is the one the automaton came there with. -/
theorem record_of_error {p : Protocol} (herr : p.rspState = .error) {nl : UInt8}
    (hnl : isNewLine nl) : (decodeResponse p nl).1.responseMsg = p.responseMsg := by
  simp [decodeResponse, herr, hnl]

theorem responseLine_star_mem {s : List UInt8} {m : ResponseMsg} (h : ResponseLine s m) :
    '*'.toUInt8 ∈ s := by
  cases h
  simp

/-- Digits behind a completed line leave its record as it is, or no record at all. -/
theorem record_behind_line {p : Protocol} (hs : p.rspState = .requestCode) {rest : List UInt8}
    {nl : UInt8} (hrest : HexDigits rest)
    (hdone : (decodeResponse (run decodeResponse p rest) nl).2 = .messageCompleted)
    (hknown : (decodeResponse (run decodeResponse p rest) nl).1.responseMsg.paramCode ≠ .unknown) :
    (decodeResponse (run decodeResponse p rest) nl).1.responseMsg = p.responseMsg := by
  have hnl := (decodeResponse_completed hdone).1
  have hread := readingResponse_run hs rest
  rcases (readingResponse_step nl hread).2 hdone with herr | hvalid
  · rw [record_of_error herr hnl] at hknown ⊢
    rcases List.eq_nil_or_concat rest with rfl | ⟨rest, d, rfl⟩
    · rfl
    · rw [List.concat_eq_append] at hrest
      rw [List.concat_eq_append, run_append, run_cons, run_nil] at herr hknown ⊢
      rcases decodeResponse_error_code herr with hunknown | hstale
      · exact absurd hunknown hknown
      · rw [decodeResponse_leavesStale hstale]
        have hread := readingResponse_run hs rest
        rcases hstale.2 with ⟨hstart, -⟩ | ⟨-, hdigit, -⟩
        · rw [hstart, sinceNewLine_of_free fun c hc => hrest.not_isNewLine c (by simp [hc])]
            at hread
          obtain rfl := hread.eq_nil
          rfl
        · rw [hrest d (by simp)] at hdigit
          cases hdigit
  · rw [sinceNewLine_of_free hrest.not_isNewLine] at hvalid
    exact absurd (responseLine_star_mem hvalid.1) (not_mem_crc hrest hnl (by decide))

/-- A newline inside an encoded line is followed by a report at most of the line itself. -/
theorem response_cut {p : Protocol} (hs : p.rspState = .requestCode)
    (hclear : RecordClear p) {r : OutgoingResponse} {a rest : List UInt8} {x b nl : UInt8}
    (hencode : r.encode = a ++ x :: (rest ++ [nl]))
    (ha : ∀ d ∈ a, isNewLine d = false) (hx : isNewLine x = false) (hb : isNewLine b)
    (hrest : ∀ d ∈ rest, isNewLine d = false) {m' : ResponseMsg}
    (hdone : (decodeResponse (run decodeResponse p (a ++ b :: rest)) nl).2 = .messageCompleted)
    (hm : (run decodeResponse p ((a ++ b :: rest) ++ [nl])).responseMsg = m')
    (hknown : m'.paramCode ≠ .unknown) : m'.fields = r.message.fields := by
  subst hm
  have hline := r.encode_valid.1
  rw [hencode] at hline
  have hread := readingResponse_run hs a
  rw [sinceNewLine_of_free ha] at hread
  have hstep := (readingResponse_step b hread).2
  have hclearA := recordClear_run hclear ha
  simp only [run_append, run_cons, run_nil] at hdone hknown ⊢
  by_cases hends : ResponseLineEnds (run decodeResponse p a)
  · rcases hends with hstart | herr | ⟨hcrc, hmatch⟩
    · -- the letter became a newline, which the decoder skips
      exfalso
      have hskip : decodeResponse (run decodeResponse p a) b =
          (run decodeResponse p a, .needMoreData) := by
        simp [decodeResponse, hstart, ((separates b).newLine hb).2.2.1, hb]
      rw [hstart] at hread
      obtain rfl := hread.eq_nil
      rw [hskip] at hdone hknown
      have hvalid := validResponseLine_of_report hstart hclearA hrest hdone
        (by simpa using hknown)
      rw [OutgoingResponse.encode_eq_spell] at hencode
      exact spell_not_shifted r.encodable hencode _ hvalid
    · exact absurd herr (responseLine_onTrack hs hx hline)
    · -- the newline ends the line early, behind part of its checksum
      have hend := decodeResponse_newLine_crc _ hcrc hb hmatch
      obtain ⟨body, crc, nl', m₀, hbody, hcrcDigits, hnl', hbytes, -⟩ := hline.body
      have hstar : '*'.toUInt8 ∈ a := by
        rw [hcrc] at hread
        generalize (run decodeResponse p a).responseMsg = record at hread
        cases hread
        simp
      have hdigits := hexDigits_behind_star hbody.star_not_mem hcrcDigits hnl' hstar hbytes
      rw [hend] at hdone hknown hstep ⊢
      rw [record_behind_line rfl hdigits hdone hknown]
      rcases hstep rfl with herr | hvalid
      · exact absurd herr (responseLine_onTrack hs hx hline)
      · exact ResponseLine.fields_of_cut hline hvalid.1
  · exfalso
    have herr := decodeResponse_newLine_of_not_ends hb hends
    have hopen : (decodeResponse (run decodeResponse p a) b).2 ≠ .messageCompleted := fun h =>
      hends (decodeResponse_completed h).2.2
    have hunknown := recordClear_step hclearA hopen (by rw [herr]; decide) (by rw [herr]; decide)
    have hpass := responseError_passes herr hunknown hrest
    rw [hpass.run_eq] at hdone hknown
    rw [record_of_error herr (decodeResponse_completed hdone).1] at hknown
    exact hknown hunknown

theorem response_corruption {p : Protocol} (hs : p.rspState = .requestCode)
    (hclear : RecordClear p) (r : OutgoingResponse) (i : Nat) (b : UInt8) {m' : ResponseMsg}
    (hreport : ReportsResponse p (r.encode.set i b) m') : m'.fields = r.message.fields := by
  have h := r.encode_valid
  obtain ⟨line, nl, hencode, hnl, hline⟩ := h.1.newLine_last
  rw [hencode] at h hreport
  obtain ⟨pre, c, post, heq, hdone, rfl, hknown⟩ := hreport
  have hc := (decodeResponse_completed hdone).1
  rcases set_line hline nl i b with ⟨line', y, hset, hline'⟩ | ⟨a, x, rest, rfl, hset, hb⟩
  · obtain ⟨rfl, rfl, rfl⟩ := split_at_end hline' hc (heq.symm.trans hset)
    have hvalid := validResponseLine_of_report hs hclear hline' hdone hknown
    rw [← heq] at hvalid
    refine (h.eq_of_distance ?_ (by simp) (mismatches_set_le _ i b)).symm
    rwa [← heq]
  · have hx : isNewLine x = false := hline x (by simp)
    have ha : ∀ d ∈ a, isNewLine d = false := fun d hd => hline d (by simp [hd])
    have hrest : ∀ d ∈ rest, isNewLine d = false := fun d hd => hline d (by simp [hd])
    rw [List.append_assoc, List.cons_append] at hencode h
    obtain ⟨t, rfl, ht⟩ := behind_of_free ha hc (heq.symm.trans hset)
    cases t with
    | nil =>
        rw [List.append_nil] at hdone hknown ⊢
        have hvalid := validResponseLine_of_report hs hclear ha hdone hknown
        exact ResponseLine.fields_of_cut h.1 hvalid.1
    | cons d t =>
        obtain ⟨rfl, htail⟩ := List.cons.inj ht
        obtain ⟨rfl, rfl, rfl⟩ := split_at_end hrest hc htail
        exact response_cut hs hclear hencode ha hx hb hrest hdone rfl hknown

end Damage

/-- Whatever byte of an encoded line is replaced by whatever other one, a fresh decoder
reports either nothing known or exactly the fields that were encoded. -/
theorem single_byte_corruption :
    (∀ (r : OutgoingRequest) (i : Nat) (b : UInt8) (m : RequestMsg),
      ReportsRequest .fresh (r.encode.set i b) m → m.fields = r.message.fields) ∧
    (∀ (r : OutgoingResponse) (i : Nat) (b : UInt8) (m : ResponseMsg),
      ReportsResponse .fresh (r.encode.set i b) m → m.fields = r.message.fields) :=
  ⟨fun r i b _ h => request_corruption rfl r.encode_valid i b h,
    fun r i b _ h => response_corruption rfl (fun _ _ => rfl) r i b h⟩

theorem single_byte_corruption_carriageReturn :
    (RequestMsg.init .query 0).fields =
      (OutgoingRequest.request .query 0 (by decide) (by decide)).message.fields :=
  single_byte_corruption.1 (.request .query 0 (by decide) (by decide)) 5 '\r'.toUInt8
    (.init .query 0)
    ⟨['Q', '0', '*', 'e', 'a'].map Char.toUInt8, '\r'.toUInt8, [], by decide +kernel,
      by decide +kernel, by decide +kernel, by decide⟩

end MmuFirmware
