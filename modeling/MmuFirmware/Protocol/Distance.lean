import MmuFirmware.Lib.Distance
import MmuFirmware.Protocol.Grammar

/-!
Valid lines that are one byte apart carry the same fields. The separators occur once in a
line, so both lines are cut into fields at the same places and at most one field differs;
if its text does, then either it is the checksum's or the checksums are equal, and these
tell apart any two values of one field.
-/
namespace MmuFirmware
open Crc ListDistance

theorem HexDigits.not_mem {ds : List UInt8} (h : HexDigits ds) {x : UInt8}
    (hx : isHexDigit x = false) : x ∉ ds := by
  intro hmem
  have hd := h x hmem
  rw [hx] at hd
  cases hd

/-- The end of a line, digits and a newline, holds no separator. -/
theorem not_mem_crc {crc : List UInt8} {nl x : UInt8} (hcrc : HexDigits crc)
    (hnl : isNewLine nl) (hx : isHexDigit x = false ∧ isNewLine x = false) :
    x ∉ crc ++ [nl] := by
  intro hmem
  rcases List.mem_append.mp hmem with hmem | hmem
  · exact hcrc.not_mem hx.1 hmem
  · rw [← List.mem_singleton.mp hmem, hx.2] at hnl
    cases hnl

/-- A word whose numeral changes in one digit keeps its low or its high byte. -/
theorem hexNumber_share {ds ds' : List UInt8} (hlen : ds.length = ds'.length)
    (h : mismatches ds ds' ≤ 1) :
    (UInt16.ofNat (hexNumber ds)).toUInt8 = (UInt16.ofNat (hexNumber ds')).toUInt8 ∨
      (UInt16.ofNat (hexNumber ds) >>> 8).toUInt8 =
        (UInt16.ofNat (hexNumber ds') >>> 8).toUInt8 := by
  have hlt : ∀ (es : List UInt8), ∀ x ∈ es.map (fun c => (char2Nibble c).toNat), x < 16 := by
    intro es x hx
    obtain ⟨c, -, rfl⟩ := List.mem_map.mp hx
    exact char2Nibble_lt c
  have hmap : mismatches (ds.map fun c => (char2Nibble c).toNat)
      (ds'.map fun c => (char2Nibble c).toNat) ≤ 1 :=
    (mismatches_map_le _ ds ds').trans h
  rcases Numeral.value_low_or_high (by decide : 1 < 16) 2 (hlt ds) (hlt ds') (by simpa) hmap
    with hlow | hhigh
  · left
    change hexNumber ds % 16 ^ 2 = hexNumber ds' % 16 ^ 2 at hlow
    apply UInt8.toNat_inj.mp
    simp only [UInt16.toNat_toUInt8, UInt16.toNat_ofNat']
    omega
  · right
    change hexNumber ds / 16 ^ 2 = hexNumber ds' / 16 ^ 2 at hhigh
    apply UInt8.toNat_inj.mp
    simp only [UInt16.toNat_toUInt8, UInt16.toNat_shiftRight, UInt16.toNat_ofNat',
      UInt16.reduceToNat, Nat.shiftRight_eq_div_pow, Nat.reduceMod]
    omega

section Request

theorem RequestBody.unique {body : List UInt8} {m m' : RequestMsg} (h : RequestBody body m)
    (h' : RequestBody body m') : m = m' := by
  generalize hbody : body = body' at h'
  cases h with
  | @plain code value hknown hwrite hvalue =>
      cases h' with
      | plain _ _ _ =>
          obtain ⟨hcode, rfl⟩ := List.cons.inj hbody
          rw [RequestMsgCodes.toByte_injective hcode]
      | write _ _ =>
          exact absurd (RequestMsgCodes.toByte_eq_W.mp (List.cons.inj hbody).1) hwrite
  | @write value value2 hvalue hvalue2 =>
      cases h' with
      | plain _ hwrite' _ =>
          exact absurd (RequestMsgCodes.toByte_eq_W.mp (List.cons.inj hbody).1.symm) hwrite'
      | write hvalue' _ =>
          obtain ⟨rfl, -, rfl⟩ :=
            hexDigits_split hvalue hvalue' (by decide) (by decide) (List.cons.inj hbody).2
          rfl

theorem RequestBody.star_not_mem {body : List UInt8} {m : RequestMsg} (h : RequestBody body m) :
    '*'.toUInt8 ∉ body := by
  cases h with
  | @plain code value _ _ hvalue =>
      rw [List.mem_cons, not_or]
      exact ⟨by cases code <;> decide, hvalue.not_mem (by decide)⟩
  | write hvalue hvalue2 =>
      simp only [List.mem_cons, List.mem_append, not_or]
      exact ⟨by decide, hvalue.not_mem (by decide), by decide, hvalue2.not_mem (by decide)⟩

/-- One byte cannot turn one grammar into the other: the letter and the space both differ. -/
theorem plain_write_apart {code : RequestMsgCodes} {value value₁ value₂ : List UInt8}
    (hwrite : code ≠ .write) (hvalue : HexDigits value) :
    ¬ mismatches (code.toByte :: value)
      ('W'.toUInt8 :: (value₁ ++ ' '.toUInt8 :: value₂)) ≤ 1 := by
  intro hd
  rw [mismatches_cons, if_neg (fun h => hwrite (RequestMsgCodes.toByte_eq_W.mp h))] at hd
  have hrest : value = value₁ ++ ' '.toUInt8 :: value₂ := mismatches_eq_zero.mp (by omega)
  exact hvalue.not_mem (x := ' '.toUInt8) (by decide) (hrest ▸ by simp)

/-- Bodies one byte apart whose checksums agree spell the same request. -/
theorem RequestBody.eq_of_distance {body body' : List UInt8} {m m' : RequestMsg}
    (h : RequestBody body m) (h' : RequestBody body' m') (hlen : body.length = body'.length)
    (hd : mismatches body body' ≤ 1) (hcrc : m.computeCRC8 = m'.computeCRC8) : m = m' := by
  have hspace : isHexDigit ' '.toUInt8 = false := by decide
  cases h with
  | @plain code value hknown hwrite hvalue =>
      cases h' with
      | @plain code' value' hknown' hwrite' hvalue' =>
          rw [mismatches_cons] at hd
          simp only [RequestMsg.computeCRC8, ccittUpdateW_crc_inj] at hcrc
          by_cases hcode : code.toByte = code'.toByte
          · rw [hcode, ccittUpdateCX_byte_inj] at hcrc
            rw [RequestMsgCodes.toByte_injective hcode, hcrc]
          · rw [if_neg hcode] at hd
            have hvalues : value = value' := mismatches_eq_zero.mp (by omega)
            subst hvalues
            rw [ccittUpdateCX_crc_inj, ccittUpdateCX_byte_inj] at hcrc
            exact absurd hcrc hcode
      | write _ _ => exact absurd hd (plain_write_apart hwrite hvalue)
  | @write value value2 hvalue hvalue2 =>
      cases h' with
      | plain _ hwrite' hvalue' =>
          rw [mismatches_comm] at hd
          exact absurd hd (plain_write_apart hwrite' hvalue')
      | @write value' value2' hvalue' hvalue2' =>
          simp only [mismatches_cons, if_true, Nat.zero_add] at hd
          have hlens := length_eq_of_separator (hvalue.not_mem hspace) (hvalue'.not_mem hspace)
            (hvalue2.not_mem hspace) (hvalue2'.not_mem hspace) hd
          simp only [mismatches_append hlens, mismatches_cons, if_true, Nat.zero_add] at hd
          simp only [List.length_cons, List.length_append] at hlen
          simp only [RequestMsg.computeCRC8] at hcrc
          rcases Nat.eq_zero_or_pos (mismatches value value') with hzero | hpos
          · obtain rfl := mismatches_eq_zero.mp hzero
            rw [ccittUpdateW_word_inj (hexNumber_share (by omega) (by omega)) hcrc]
          · obtain rfl : value2 = value2' := mismatches_eq_zero.mp (by omega)
            rw [ccittUpdateW_crc_inj, ccittUpdateCX_byte_inj] at hcrc
            rw [hcrc]

/-- Valid request lines of one length that differ in at most one byte carry the same code
and values. -/
theorem ValidRequestLine.eq_of_distance {s s' : List UInt8} {m m' : RequestMsg}
    (h : ValidRequestLine s m) (h' : ValidRequestLine s' m') (hlen : s.length = s'.length)
    (hd : mismatches s s' ≤ 1) : m.fields = m'.fields := by
  have hstar : isHexDigit '*'.toUInt8 = false ∧ isNewLine '*'.toUInt8 = false := by decide
  obtain ⟨⟨hbody, hcrc, hnl⟩, hsum⟩ := h
  obtain ⟨⟨hbody', hcrc', hnl'⟩, hsum'⟩ := h'
  rename_i body crc m nl body' crc' m' nl'
  have hlens := length_eq_of_separator hbody.star_not_mem hbody'.star_not_mem
    (not_mem_crc hcrc hnl hstar) (not_mem_crc hcrc' hnl' hstar) hd
  simp only [List.length_append, List.length_cons, List.length_nil] at hlen
  rw [mismatches_append hlens, mismatches_cons, if_pos rfl,
    mismatches_append (by omega : crc.length = crc'.length)] at hd
  rcases Nat.eq_zero_or_pos (mismatches crc crc') with hzero | hpos
  · obtain rfl := mismatches_eq_zero.mp hzero
    have hsums : m.computeCRC8 = m'.computeCRC8 := by
      have hleft : m.computeCRC8 = _ := RequestMsg.computeCRC8_congr rfl rfl rfl
      have hright : m'.computeCRC8 = _ := RequestMsg.computeCRC8_congr rfl rfl rfl
      exact hleft.trans (hsum.symm.trans (hsum'.trans hright.symm))
    obtain rfl := hbody.eq_of_distance hbody' hlens (by omega) hsums
    rfl
  · obtain rfl : body = body' := mismatches_eq_zero.mp (by omega)
    obtain rfl := hbody.unique hbody'
    rfl

end Request

section Response

/-- Checksums of responses that differ in at most one field are equal only if the field is. -/
theorem ResponseMsg.fields_eq_of_crc {m m' : ResponseMsg}
    (hcrc : m.computeCRC8 = m'.computeCRC8) (hvalue2 : m.request.value2 = m'.request.value2)
    (hone : m.request.code = m'.request.code ∧ m.request.value = m'.request.value ∧
        m.paramCode = m'.paramCode ∧
        (m.paramValue.toUInt8 = m'.paramValue.toUInt8 ∨
          (m.paramValue >>> 8).toUInt8 = (m'.paramValue >>> 8).toUInt8) ∨
      m.request.code = m'.request.code ∧ m.request.value = m'.request.value ∧
        m.paramValue = m'.paramValue ∨
      m.request.code = m'.request.code ∧ m.paramCode = m'.paramCode ∧
        m.paramValue = m'.paramValue ∨
      m.request.value = m'.request.value ∧ m.paramCode = m'.paramCode ∧
        m.paramValue = m'.paramValue) :
    m.fields = m'.fields := by
  simp only [ResponseMsg.fields, RequestMsg.fields, Prod.mk.injEq]
  simp only [ResponseMsg.computeCRC8, RequestMsg.computeCRC8] at hcrc
  rcases hone with ⟨hc, hv, hp, hshare⟩ | ⟨hc, hv, hw⟩ | ⟨hc, hp, hw⟩ | ⟨hv, hp, hw⟩
  · rw [hc, hv, hp, hvalue2] at hcrc
    exact ⟨⟨hc, hv, hvalue2⟩, hp, ccittUpdateW_word_inj hshare hcrc⟩
  · rw [hc, hv, hw, hvalue2, ccittUpdateW_crc_inj, ccittUpdateCX_byte_inj] at hcrc
    exact ⟨⟨hc, hv, hvalue2⟩, ResponseMsgParamCodes.toByte_injective hcrc, hw⟩
  · rw [hc, hp, hw, hvalue2, ccittUpdateW_crc_inj, ccittUpdateCX_crc_inj, ccittUpdateW_crc_inj,
      ccittUpdateCX_byte_inj] at hcrc
    exact ⟨⟨hc, hcrc, hvalue2⟩, hp, hw⟩
  · rw [hv, hp, hw, hvalue2, ccittUpdateW_crc_inj, ccittUpdateCX_crc_inj, ccittUpdateW_crc_inj,
      ccittUpdateCX_crc_inj, ccittUpdateCX_byte_inj] at hcrc
    exact ⟨⟨RequestMsgCodes.toByte_injective hcrc, hv, hvalue2⟩, hp, hw⟩

theorem space_not_mem_param (param : ResponseMsgParamCodes) {word crc : List UInt8} {nl : UInt8}
    (hword : HexDigits word) (hcrc : HexDigits crc) (hnl : isNewLine nl) :
    ' '.toUInt8 ∉ param.toByte :: (word ++ '*'.toUInt8 :: (crc ++ [nl])) := by
  rw [List.mem_cons, List.mem_append, List.mem_cons, not_or, not_or, not_or]
  exact ⟨by cases param <;> decide, hword.not_mem (by decide), by decide,
    not_mem_crc hcrc hnl (by decide)⟩

/-- Valid response lines of one length that differ in at most one byte carry the same
fields. -/
theorem ValidResponseLine.eq_of_distance {s s' : List UInt8} {m m' : ResponseMsg}
    (h : ValidResponseLine s m) (h' : ValidResponseLine s' m') (hlen : s.length = s'.length)
    (hd : mismatches s s' ≤ 1) : m.fields = m'.fields := by
  have hspace : isHexDigit ' '.toUInt8 = false := by decide
  have hstar : isHexDigit '*'.toUInt8 = false ∧ isNewLine '*'.toUInt8 = false := by decide
  obtain ⟨⟨-, hvalue, -, hword, hcrc, hnl⟩, hsum⟩ := h
  obtain ⟨⟨-, hvalue', -, hword', hcrc', hnl'⟩, hsum'⟩ := h'
  rename_i code param value word crc nl code' param' value' word' crc' nl'
  rw [mismatches_cons] at hd
  simp only [List.length_cons, List.length_append, List.length_nil] at hlen
  have hlens := length_eq_of_separator (hvalue.not_mem hspace) (hvalue'.not_mem hspace)
    (space_not_mem_param param hword hcrc hnl) (space_not_mem_param param' hword' hcrc' hnl')
    (Nat.le_trans (Nat.le_add_left _ _) hd)
  rw [mismatches_append hlens, mismatches_cons, if_pos rfl, mismatches_cons] at hd
  have hlens' := length_eq_of_separator (hword.not_mem hstar.1) (hword'.not_mem hstar.1)
    (not_mem_crc hcrc hnl hstar) (not_mem_crc hcrc' hnl' hstar) (by omega)
  rw [mismatches_append hlens', mismatches_cons, if_pos rfl,
    mismatches_append (by omega : crc.length = crc'.length)] at hd
  -- the cost of each field, of which at most one is not zero
  have hcode : (if code.toByte = code'.toByte then 0 else 1) = 0 → code = code' := fun h =>
    RequestMsgCodes.toByte_injective (by by_contra hne; rw [if_neg hne] at h; cases h)
  have hparam : (if param.toByte = param'.toByte then 0 else 1) = 0 → param = param' := fun h =>
    ResponseMsgParamCodes.toByte_injective (by by_contra hne; rw [if_neg hne] at h; cases h)
  have hvalues : mismatches value value' = 0 → value = value' := mismatches_eq_zero.mp
  have hwords : mismatches word word' = 0 → word = word' := mismatches_eq_zero.mp
  rcases Nat.eq_zero_or_pos (mismatches crc crc') with hsame | hpos
  · obtain rfl := mismatches_eq_zero.mp hsame
    refine ResponseMsg.fields_eq_of_crc (hsum.symm.trans hsum') rfl ?_
    rcases Nat.eq_zero_or_pos (mismatches word word') with hw | hw
    · obtain rfl := hwords hw
      rcases Nat.eq_zero_or_pos (if param.toByte = param'.toByte then 0 else 1) with hp | hp
      · obtain rfl := hparam hp
        rcases Nat.eq_zero_or_pos (mismatches value value') with hv | hv
        · exact .inr (.inr (.inr ⟨by simp [hvalues hv], rfl, rfl⟩))
        · exact .inr (.inr (.inl ⟨hcode (by omega), rfl, rfl⟩))
      · exact .inr (.inl ⟨hcode (by omega), by simp [hvalues (by omega)], rfl⟩)
    · exact .inl ⟨hcode (by omega), by simp [hvalues (by omega)], hparam (by omega),
        hexNumber_share hlens' (by omega)⟩
  · obtain rfl := hcode (by omega)
    obtain rfl := hparam (by omega)
    obtain rfl := hvalues (by omega)
    obtain rfl := hwords (by omega)
    rfl

end Response

end MmuFirmware
