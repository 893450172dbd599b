import Mathlib.Data.UInt
import Mathlib.Logic.Function.Iterate
import Mathlib.Tactic.Common

/-!
The CRC8-CCITT of `modules/crc.h`. One byte is eight conditional shifts, each of which is
undone by a shift the other way; so updating with a byte is injective in the byte as well
as in the running value, and a change confined to one byte of a message always shows.
-/
namespace MmuFirmware.Crc

/-- One turn of the loop in `CCITT_updateCX`. -/
def ccittShift (data : UInt8) : UInt8 :=
  if data &&& 0x80 ≠ 0 then (data <<< 1) ^^^ 0x07 else data <<< 1

def ccittUpdateCX (crc b : UInt8) : UInt8 :=
  ccittShift^[8] (crc ^^^ b)

/-- The union in the source puts the low byte first, as the little-endian AVR does. -/
def ccittUpdateW (crc : UInt8) (w : UInt16) : UInt8 :=
  ccittUpdateCX (ccittUpdateCX crc w.toUInt8) (w >>> 8).toUInt8

/-- The polynomial is odd, so the bit shifted out is still visible as the lowest bit. -/
def ccittUnshift (data : UInt8) : UInt8 :=
  if data &&& 1 ≠ 0 then ((data ^^^ 0x07) >>> 1) ||| 0x80 else data >>> 1

theorem ccittUnshift_ccittShift (data : UInt8) : ccittUnshift (ccittShift data) = data := by
  have h : ∀ n : Fin 256,
      ccittUnshift (ccittShift (UInt8.ofNat n)) = UInt8.ofNat n := by decide +kernel
  simpa using h ⟨data.toNat, data.toNat_lt⟩

theorem ccittShift_injective : Function.Injective ccittShift :=
  Function.LeftInverse.injective ccittUnshift_ccittShift

theorem ccittUpdateCX_inj {crc crc' b b' : UInt8} :
    ccittUpdateCX crc b = ccittUpdateCX crc' b' ↔ crc ^^^ b = crc' ^^^ b' := by
  unfold ccittUpdateCX
  exact (ccittShift_injective.iterate 8).eq_iff

@[simp] theorem ccittUpdateCX_byte_inj {crc b b' : UInt8} :
    ccittUpdateCX crc b = ccittUpdateCX crc b' ↔ b = b' := by
  rw [ccittUpdateCX_inj, UInt8.xor_right_inj]

@[simp] theorem ccittUpdateCX_crc_inj {crc crc' b : UInt8} :
    ccittUpdateCX crc b = ccittUpdateCX crc' b ↔ crc = crc' := by
  rw [ccittUpdateCX_inj, UInt8.xor_left_inj]

@[simp] theorem ccittUpdateW_crc_inj {crc crc' : UInt8} {w : UInt16} :
    ccittUpdateW crc w = ccittUpdateW crc' w ↔ crc = crc' := by
  simp [ccittUpdateW]

theorem word_ext {w w' : UInt16} (hlow : w.toUInt8 = w'.toUInt8)
    (hhigh : (w >>> 8).toUInt8 = (w' >>> 8).toUInt8) : w = w' := by
  apply UInt16.toNat_inj.mp
  have hl := congrArg UInt8.toNat hlow
  have hh := congrArg UInt8.toNat hhigh
  simp [Nat.shiftRight_eq_div_pow] at hl hh
  have := w.toNat_lt
  have := w'.toNat_lt
  omega

/-- Words that share their low byte or their high byte are told apart by the CRC. -/
theorem ccittUpdateW_word_inj {crc : UInt8} {w w' : UInt16}
    (hshare : w.toUInt8 = w'.toUInt8 ∨ (w >>> 8).toUInt8 = (w' >>> 8).toUInt8)
    (h : ccittUpdateW crc w = ccittUpdateW crc w') : w = w' := by
  rcases hshare with hlow | hhigh
  · rw [ccittUpdateW, ccittUpdateW, hlow, ccittUpdateCX_byte_inj] at h
    exact word_ext hlow h
  · rw [ccittUpdateW, ccittUpdateW, hhigh, ccittUpdateCX_crc_inj, ccittUpdateCX_byte_inj] at h
    exact word_ext h hhigh

end MmuFirmware.Crc
