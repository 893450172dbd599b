import MmuFirmware.Protocol.Message

/-!
The line formats of the protocol, stated on bytes and independently of the automata. A
field is a possibly empty run of hexadecimal digits, read as a number modulo the width of
the register that holds it.
-/
namespace MmuFirmware

section Bytes

theorem forall_uint8 (P : UInt8 → Prop) (h : ∀ n : Fin 256, P (UInt8.ofNat n)) (c : UInt8) :
    P c := by
  simpa using h ⟨c.toNat, c.toNat_lt⟩

theorem char2Nibble_lt (c : UInt8) : (char2Nibble c).toNat < 16 :=
  forall_uint8 (fun c => (char2Nibble c).toNat < 16) (by decide +kernel) c

/-- The byte classes that separate a line into fields exclude one another. -/
structure Separates (c : UInt8) : Prop where
  digit : isHexDigit c → isNewLine c = false ∧ isCRCSeparator c = false ∧ c ≠ ' '.toUInt8 ∧
    ResponseMsgParamCodes.ofByte? c = none
  newLine : isNewLine c → isCRCSeparator c = false ∧ c ≠ ' '.toUInt8 ∧
    RequestMsgCodes.ofByte? c = none ∧ ResponseMsgParamCodes.ofByte? c = none

theorem separates (c : UInt8) : Separates c := by
  have h := forall_uint8 (fun c =>
    (isHexDigit c → isNewLine c = false ∧ isCRCSeparator c = false ∧ c ≠ ' '.toUInt8 ∧
      ResponseMsgParamCodes.ofByte? c = none) ∧
    (isNewLine c → isCRCSeparator c = false ∧ c ≠ ' '.toUInt8 ∧
      RequestMsgCodes.ofByte? c = none ∧ ResponseMsgParamCodes.ofByte? c = none))
    (by decide +kernel) c
  exact ⟨h.1, h.2⟩

theorem isHexDigit_newLine {c : UInt8} (h : isNewLine c) : isHexDigit c = false := by
  by_contra hd
  have := (separates c).digit (by simpa using hd)
  simp [h] at this

end Bytes

def HexDigits (ds : List UInt8) : Prop := ∀ c ∈ ds, isHexDigit c

instance (ds : List UInt8) : Decidable (HexDigits ds) :=
  List.decidableBAll (fun c => isHexDigit c) ds

/-- The number a run of hexadecimal digits denotes. -/
def hexNumber (ds : List UInt8) : Nat :=
  Numeral.value 16 (ds.map fun c => (char2Nibble c).toNat)

@[simp] theorem hexNumber_nil : hexNumber [] = 0 := rfl

theorem hexNumber_snoc (ds : List UInt8) (c : UInt8) :
    hexNumber (ds ++ [c]) = hexNumber ds * 16 + (char2Nibble c).toNat := by
  simp [hexNumber, Numeral.value_snoc]

theorem HexDigits.snoc {ds : List UInt8} {c : UInt8} (h : HexDigits ds) (hc : isHexDigit c) :
    HexDigits (ds ++ [c]) := by
  intro d hd
  rcases List.mem_append.mp hd with hd | hd
  · exact h d hd
  · simpa [List.mem_singleton.mp hd] using hc

@[simp] theorem hexDigits_nil : HexDigits [] := by simp [HexDigits]

/-- A line falls apart at its first byte that is no digit in only one way. -/
theorem hexDigits_split {as bs cs ds : List UInt8} {x y : UInt8} (has : HexDigits as)
    (hbs : HexDigits bs) (hx : isHexDigit x = false) (hy : isHexDigit y = false)
    (h : as ++ x :: cs = bs ++ y :: ds) : as = bs ∧ x = y ∧ cs = ds := by
  induction as generalizing bs with
  | nil =>
      cases bs with
      | nil => simpa using h
      | cons b bs =>
          have hb := hbs b List.mem_cons_self
          rw [(List.cons.inj h).1, hb] at hx
          cases hx
  | cons a as ih =>
      cases bs with
      | nil =>
          have ha := has a List.mem_cons_self
          rw [← (List.cons.inj h).1, ha] at hy
          cases hy
      | cons b bs =>
          obtain ⟨rfl, htail⟩ := List.cons.inj h
          have hrest := ih (fun c hc => has c (List.mem_cons_of_mem _ hc))
            (fun c hc => hbs c (List.mem_cons_of_mem _ hc)) htail
          simpa using hrest

/-- The part of a request line that its checksum covers. -/
inductive RequestBody : List UInt8 → RequestMsg → Prop
  | plain {code : RequestMsgCodes} {value : List UInt8}
      (hknown : code ≠ .unknown) (hwrite : code ≠ .write) (hvalue : HexDigits value) :
      RequestBody (code.toByte :: value)
        { code, value := UInt8.ofNat (hexNumber value), value2 := 0, crc8 := 0 }
  | write {value value2 : List UInt8} (hvalue : HexDigits value) (hvalue2 : HexDigits value2) :
      RequestBody ('W'.toUInt8 :: (value ++ ' '.toUInt8 :: value2))
        { code := .write, value := UInt8.ofNat (hexNumber value)
          value2 := UInt16.ofNat (hexNumber value2), crc8 := 0 }

/-- A line of the request grammar and the fields it spells out. -/
inductive RequestLine : List UInt8 → RequestMsg → Prop
  | intro {body crc : List UInt8} {m : RequestMsg} {nl : UInt8}
      (hbody : RequestBody body m) (hcrc : HexDigits crc) (hnl : isNewLine nl) :
      RequestLine (body ++ '*'.toUInt8 :: (crc ++ [nl]))
        { m with crc8 := UInt8.ofNat (hexNumber crc) }

/-- A line of the response grammar and the fields it spells out. -/
inductive ResponseLine : List UInt8 → ResponseMsg → Prop
  | intro {code : RequestMsgCodes} {param : ResponseMsgParamCodes}
      {value paramValue crc : List UInt8} {nl : UInt8}
      (hknown : code ≠ .unknown) (hvalue : HexDigits value) (hparam : param ≠ .unknown)
      (hparamValue : HexDigits paramValue) (hcrc : HexDigits crc) (hnl : isNewLine nl) :
      ResponseLine
        (code.toByte :: (value ++ ' '.toUInt8 :: param.toByte ::
          (paramValue ++ '*'.toUInt8 :: (crc ++ [nl]))))
        { request :=
            { code, value := UInt8.ofNat (hexNumber value), value2 := 0
              crc8 := UInt8.ofNat (hexNumber crc) }
          paramCode := param, paramValue := UInt16.ofNat (hexNumber paramValue) }

/-- A request line whose transmitted checksum is that of the fields it spells out. -/
def ValidRequestLine (s : List UInt8) (m : RequestMsg) : Prop :=
  RequestLine s m ∧ m.crc8 = m.computeCRC8

def ValidResponseLine (s : List UInt8) (m : ResponseMsg) : Prop :=
  ResponseLine s m ∧ m.request.crc8 = m.computeCRC8

section NewLine

theorem HexDigits.not_isNewLine {ds : List UInt8} (h : HexDigits ds) :
    ∀ c ∈ ds, isNewLine c = false := fun c hc => ((separates c).digit (h c hc)).1

theorem RequestMsgCodes.not_isNewLine (code : RequestMsgCodes) :
    isNewLine code.toByte = false := by
  cases code <;> decide

theorem ResponseMsgParamCodes.not_isNewLine (code : ResponseMsgParamCodes) :
    isNewLine code.toByte = false := by
  cases code <;> decide

theorem RequestBody.not_isNewLine {body : List UInt8} {m : RequestMsg} (h : RequestBody body m) :
    ∀ c ∈ body, isNewLine c = false := by
  cases h with
  | plain _ _ hvalue =>
      simpa using ⟨RequestMsgCodes.not_isNewLine _, hvalue.not_isNewLine⟩
  | write hvalue hvalue2 =>
      simp only [List.mem_cons, List.mem_append]
      rintro c (rfl | hc | rfl | hc)
      · decide
      · exact hvalue.not_isNewLine c hc
      · decide
      · exact hvalue2.not_isNewLine c hc

/-- A line has one newline, at its end. -/
theorem RequestLine.newLine_last {s : List UInt8} {m : RequestMsg} (h : RequestLine s m) :
    ∃ pre nl, s = pre ++ [nl] ∧ isNewLine nl ∧ ∀ c ∈ pre, isNewLine c = false := by
  obtain ⟨hbody, hcrc, hnl⟩ := h
  rename_i body crc m nl
  refine ⟨body ++ '*'.toUInt8 :: crc, nl, by simp, hnl, ?_⟩
  simp only [List.mem_cons, List.mem_append]
  rintro c (hc | rfl | hc)
  · exact hbody.not_isNewLine c hc
  · decide
  · exact hcrc.not_isNewLine c hc

theorem ResponseLine.newLine_last {s : List UInt8} {m : ResponseMsg} (h : ResponseLine s m) :
    ∃ pre nl, s = pre ++ [nl] ∧ isNewLine nl ∧ ∀ c ∈ pre, isNewLine c = false := by
  obtain ⟨-, hvalue, -, hparamValue, hcrc, hnl⟩ := h
  rename_i code param value paramValue crc nl
  refine ⟨code.toByte :: (value ++ ' '.toUInt8 :: param.toByte ::
    (paramValue ++ '*'.toUInt8 :: crc)), nl, by simp, hnl, ?_⟩
  simp only [List.mem_cons, List.mem_append]
  rintro c (rfl | hc | rfl | rfl | hc | rfl | hc)
  · exact RequestMsgCodes.not_isNewLine _
  · exact hvalue.not_isNewLine c hc
  · decide
  · exact ResponseMsgParamCodes.not_isNewLine _
  · exact hparamValue.not_isNewLine c hc
  · decide
  · exact hcrc.not_isNewLine c hc

end NewLine

section Inhabited

/-- The query line, as the printer sends it. -/
theorem exists_validRequestLine : ∃ s m, ValidRequestLine s m ∧ m.code ≠ .unknown := by
  have hbody := RequestBody.plain (show RequestMsgCodes.query ≠ .unknown by decide) (by decide)
    (show HexDigits (['0'].map Char.toUInt8) by decide)
  have hline := RequestLine.intro hbody (show HexDigits (['e', 'a'].map Char.toUInt8) by decide)
    (show isNewLine '\n'.toUInt8 by decide)
  exact ⟨_, _, ⟨hline, by decide +kernel⟩, by decide⟩

/-- The answer `T0 F0*18` to a query after a tool change. -/
theorem exists_validResponseLine : ∃ s m, ValidResponseLine s m ∧ m.paramCode ≠ .unknown := by
  have hzero : HexDigits (['0'].map Char.toUInt8) := by decide
  have hline := ResponseLine.intro (show RequestMsgCodes.tool ≠ .unknown by decide) hzero
    (show ResponseMsgParamCodes.finished ≠ .unknown by decide) hzero
    (show HexDigits (['1', '8'].map Char.toUInt8) by decide)
    (show isNewLine '\n'.toUInt8 by decide)
  exact ⟨_, _, ⟨hline, by decide +kernel⟩, by decide⟩

end Inhabited

theorem ResponseLine.length_ge {s : List UInt8} {m : ResponseMsg} (h : ResponseLine s m) :
    5 ≤ s.length := by
  cases h
  simp only [List.length_cons, List.length_append, List.length_nil]
  omega

end MmuFirmware
