import MmuFirmware.Protocol.Grammar
import Mathlib.Tactic.IntervalCases

/-!
The encoders of `modules/protocol.cpp`. A function that fills the transmit buffer and
returns the number of bytes is the list of these bytes. Every encoder writes one line of
the grammar, with numerals that drop leading zeros and read back as what was written.
-/
namespace MmuFirmware

section Numerals

def uint8ToHex (value : UInt8) : List UInt8 :=
  if value = 0 then ['0'.toUInt8]
  else
    let v := value >>> 4
    (if v ≠ 0 then [nibble2Char v] else []) ++ [nibble2Char (value &&& 0xf)]

/-- The loop that skips initial zeros; it ends before `charsOut` reaches zero because the
value is not zero. -/
def skipInitialZeros : Nat → UInt16 → Nat × UInt16
  | 0, value => (0, value)
  | charsOut + 1, value =>
      if value &&& 0xf000 = 0 then skipInitialZeros charsOut (value <<< 4)
      else (charsOut + 1, value)

def emitNibbles : Nat → UInt16 → List UInt8
  | 0, _ => []
  | charsOut + 1, value =>
      nibble2Char ((value &&& 0xf000) >>> 12).toUInt8 :: emitNibbles charsOut (value <<< 4)

def uint16ToHex (value : UInt16) : List UInt8 :=
  if value = 0 then ['0'.toUInt8]
  else
    let (charsOut, value) := skipInitialZeros 4 value
    emitNibbles charsOut value

theorem nibble2Char_spec {n : UInt8} (hn : n.toNat < 16) :
    isHexDigit (nibble2Char n) ∧ char2Nibble (nibble2Char n) = n := by
  have h : ∀ k : Fin 16, isHexDigit (nibble2Char (UInt8.ofNat k)) ∧
      char2Nibble (nibble2Char (UInt8.ofNat k)) = UInt8.ofNat k := by decide +kernel
  simpa using h ⟨n.toNat, hn⟩

theorem uint8ToHex_spec (value : UInt8) :
    HexDigits (uint8ToHex value) ∧ hexNumber (uint8ToHex value) = value.toNat ∧
      (uint8ToHex value).length ≤ 2 :=
  forall_uint8 (fun value => HexDigits (uint8ToHex value) ∧
    hexNumber (uint8ToHex value) = value.toNat ∧ (uint8ToHex value).length ≤ 2)
    (by decide +kernel) value

theorem topNibble (value : UInt16) :
    ((value &&& 0xf000) >>> 12).toUInt8.toNat = value.toNat / 4096 := by
  have hmask : (value.toNat &&& 61440) >>> 12 = value.toNat / 4096 % 16 := by
    rw [Nat.shiftRight_and_distrib, Nat.shiftRight_eq_div_pow]
    exact Nat.and_two_pow_sub_one_eq_mod (value.toNat / 2 ^ 12) 4
  have hlt := value.toNat_lt
  simp [hmask]
  omega

theorem topNibble_eq_zero (value : UInt16) :
    value &&& 0xf000 = 0 ↔ value.toNat < 4096 := by
  have hhigh : (value.toNat &&& 61440) / 2 ^ 12 = value.toNat / 2 ^ 12 % 16 := by
    rw [← Nat.shiftRight_eq_div_pow, Nat.shiftRight_and_distrib, Nat.shiftRight_eq_div_pow]
    exact Nat.and_two_pow_sub_one_eq_mod (value.toNat / 2 ^ 12) 4
  have hlow : (value.toNat &&& 61440) % 2 ^ 12 = 0 := by
    rw [Nat.and_mod_two_pow]
    simp
  have hlt := value.toNat_lt
  rw [← UInt16.toNat_inj]
  simp only [UInt16.toNat_and, UInt16.reduceToNat]
  omega

theorem hexNumber_cons (c : UInt8) (ds : List UInt8) :
    hexNumber (c :: ds) = (char2Nibble c).toNat * 16 ^ ds.length + hexNumber ds := by
  have h := Numeral.value_append 16 [(char2Nibble c).toNat]
    (ds.map fun c => (char2Nibble c).toNat)
  simpa [hexNumber, Numeral.value_singleton] using h

@[simp] theorem length_emitNibbles (charsOut : Nat) (value : UInt16) :
    (emitNibbles charsOut value).length = charsOut := by
  induction charsOut generalizing value with
  | zero => rfl
  | succ n ih => simp [emitNibbles, ih]

theorem toNat_shiftLeft_nibble (value : UInt16) :
    (value <<< 4).toNat = value.toNat % 4096 * 16 := by
  simp [Nat.shiftLeft_eq]
  omega

/-- The digits emitted are the `charsOut` highest of the four in the register. -/
theorem emitNibbles_spec {charsOut : Nat} (hn : charsOut ≤ 4) (value : UInt16) :
    HexDigits (emitNibbles charsOut value) ∧
      hexNumber (emitNibbles charsOut value) = value.toNat / 16 ^ (4 - charsOut) := by
  induction charsOut generalizing value with
  | zero =>
      have hlt := value.toNat_lt
      refine ⟨hexDigits_nil, ?_⟩
      simp only [emitNibbles, hexNumber_nil]
      omega
  | succ n ih =>
      obtain ⟨hdigits, hnumber⟩ := ih (by omega) (value <<< 4)
      have hlt := value.toNat_lt
      have htop := topNibble value
      obtain ⟨hhex, hnibble⟩ :=
        nibble2Char_spec (n := ((value &&& 0xf000) >>> 12).toUInt8) (by omega)
      refine ⟨?_, ?_⟩
      · intro c hc
        rcases List.mem_cons.mp hc with rfl | hc
        · exact hhex
        · exact hdigits c hc
      · rw [emitNibbles, hexNumber_cons, hnibble, htop, hnumber, length_emitNibbles,
          toNat_shiftLeft_nibble]
        have hn' : n ≤ 3 := by omega
        interval_cases n <;> simp only [Nat.reduceSub, Nat.reducePow, Nat.reduceAdd] <;> omega

/-- Skipping a zero nibble keeps the number spelled by the remaining digits. -/
theorem skipInitialZeros_spec {charsOut : Nat} (hn : charsOut ≤ 4) (value : UInt16) :
    (skipInitialZeros charsOut value).1 ≤ charsOut ∧
      (skipInitialZeros charsOut value).2.toNat / 16 ^ (4 - (skipInitialZeros charsOut value).1) =
        value.toNat / 16 ^ (4 - charsOut) := by
  induction charsOut generalizing value with
  | zero => exact ⟨le_rfl, rfl⟩
  | succ n ih =>
      rw [skipInitialZeros]
      split
      · next hzero =>
          obtain ⟨hle, hnumber⟩ := ih (by omega) (value <<< 4)
          refine ⟨by omega, ?_⟩
          have hsmall := (topNibble_eq_zero value).mp hzero
          rw [hnumber, toNat_shiftLeft_nibble, Nat.mod_eq_of_lt hsmall]
          have hn' : n ≤ 3 := by omega
          interval_cases n <;> simp only [Nat.reduceSub, Nat.reducePow, Nat.reduceAdd] <;> omega
      · exact ⟨le_rfl, rfl⟩

theorem uint16ToHex_spec (value : UInt16) :
    HexDigits (uint16ToHex value) ∧ hexNumber (uint16ToHex value) = value.toNat ∧
      (uint16ToHex value).length ≤ 4 := by
  rw [uint16ToHex]
  split
  · next hzero => simpa [hzero] using by decide +kernel
  · obtain ⟨hle, hskip⟩ := skipInitialZeros_spec le_rfl value
    obtain ⟨hdigits, hnumber⟩ := emitNibbles_spec hle (skipInitialZeros 4 value).2
    refine ⟨hdigits, ?_, ?_⟩
    · rw [hnumber, hskip]
      simp
    · simpa using hle

end Numerals

section Encoders

def beginEncodeRequest (msg : RequestMsg) : List UInt8 :=
  msg.code.toByte :: (uint8ToHex msg.value ++ [' '.toUInt8])

def appendCRC (crc : UInt8) : List UInt8 := '*'.toUInt8 :: uint8ToHex crc

def encodeRequest (msg : RequestMsg) : List UInt8 :=
  msg.code.toByte :: uint8ToHex msg.value ++ appendCRC msg.crc8 ++ ['\n'.toUInt8]

def encodeWriteRequest (address : UInt8) (value : UInt16) : List UInt8 :=
  let msg := RequestMsg.initWrite .write address value
  beginEncodeRequest msg ++ uint16ToHex value ++ appendCRC msg.crc8 ++ ['\n'.toUInt8]

/-- The request is rebuilt from its code and value, so that `value2` is zero. -/
def encodeResponseCmdAR (msg : RequestMsg) (ar : ResponseMsgParamCodes) : List UInt8 :=
  let rsp := ResponseMsg.init (.init msg.code msg.value) ar 0
  beginEncodeRequest rsp.request ++ [ar.toByte] ++ appendCRC rsp.request.crc8 ++ ['\n'.toUInt8]

def encodeResponseRead (msg : RequestMsg) (accepted : Bool) (value2 : UInt16) : List UInt8 :=
  let rsp := ResponseMsg.init msg (if accepted then .accepted else .rejected)
    (if accepted then value2 else 0)
  beginEncodeRequest msg ++ [rsp.paramCode.toByte] ++
    (if accepted then uint16ToHex value2 else []) ++
    appendCRC rsp.request.crc8 ++ ['\n'.toUInt8]

def encodeResponseReadFINDA (msg : RequestMsg) (findaValue : UInt8) : List UInt8 :=
  encodeResponseRead msg true findaValue.toUInt16

def encodeResponseQueryOperation (msg : RequestMsg) (rcs : ResponseCommandStatus) :
    List UInt8 :=
  let rsp := ResponseMsg.init msg rcs.code rcs.value
  beginEncodeRequest msg ++ [rsp.paramCode.toByte] ++ uint16ToHex rsp.paramValue ++
    appendCRC rsp.request.crc8 ++ ['\n'.toUInt8]

def maxRequestSize : Nat := 13

def maxResponseSize : Nat := 14

end Encoders

end MmuFirmware
