import MmuFirmware.Lib.Avr
import MmuFirmware.Modules.PulseGen
import Mathlib.Tactic.Ring

/-!
`modules/math.h`: the two multiplications, in C and as the inline assembly the firmware is
built with. The registers are those the assembly names; the operands come in byte by byte.
-/
namespace MmuFirmware

open Avr

/-- `%A0` is `a0` and so on: the operands of a statement, and the registers it clobbers. -/
inductive AsmReg where
  | a0 | b0 | a1 | b1 | c1 | a2 | b2 | c2 | r0 | r1 | r26 | r27
  deriving DecidableEq, Repr

instance : ProductRegs AsmReg := ⟨.r0, .r1, by decide⟩

def mulU8X16toH16C (charIn1 : BitVec 8) (intIn2 : BitVec 16) : BitVec 16 :=
  ((charIn1.setWidth 32 * intIn2.setWidth 32) >>> 8).setWidth 16

def mulU8X16toH16Program : List (Instr AsmReg) :=
  [
    .mul .b2 .a1,
    .movw (.a0, .b0) (.r0, .r1),
    .mul .a2 .a1,
    .lsl .r0,
    .adc .a0 .r1,
    .clr .r1,
    .adc .b0 .r1
  ]

/-- The assembly, on a processor in any state. -/
def mulU8X16toH16Asm (c : Cpu AsmReg) (charIn1 : BitVec 8) (intIn2 : BitVec 16) : BitVec 16 :=
  let c := c.set .a1 charIn1
  let c := (c.set .a2 (intIn2.extractLsb' 0 8)).set .b2 (intIn2.extractLsb' 8 8)
  BitVec.ofNat 16 ((c.run mulU8X16toH16Program).value [.a0, .b0])

def mulU24X24toH16C (longIn1 longIn2 : BitVec 32) : BitVec 16 :=
  ((longIn1.setWidth 64 * longIn2.setWidth 64) >>> 24).setWidth 16

def mulU24X24toH16Program : List (Instr AsmReg) :=
  [
    .clr .r26,
    .mul .a1 .b2,
    .mov .r27 .r1,
    .mul .b1 .c2,
    .movw (.a0, .b0) (.r0, .r1),
    .mul .c1 .c2,
    .add .b0 .r0,
    .mul .c1 .b2,
    .add .a0 .r0,
    .adc .b0 .r1,
    .mul .a1 .c2,
    .add .r27 .r0,
    .adc .a0 .r1,
    .adc .b0 .r26,
    .mul .b1 .b2,
    .add .r27 .r0,
    .adc .a0 .r1,
    .adc .b0 .r26,
    .mul .c1 .a2,
    .add .r27 .r0,
    .adc .a0 .r1,
    .adc .b0 .r26,
    .mul .b1 .a2,
    .add .r27 .r1,
    .adc .a0 .r26,
    .adc .b0 .r26,
    .lsl .r27,
    .adc .a0 .r26,
    .adc .b0 .r26,
    .clr .r1
  ]

/-- The three low bytes of the operands in the registers of the assembly. -/
def loadLongs (c : Cpu AsmReg) (longIn1 longIn2 : BitVec 32) : Cpu AsmReg :=
  let c := (c.set .a1 (longIn1.extractLsb' 0 8)).set .b1 (longIn1.extractLsb' 8 8)
  let c := c.set .c1 (longIn1.extractLsb' 16 8)
  let c := (c.set .a2 (longIn2.extractLsb' 0 8)).set .b2 (longIn2.extractLsb' 8 8)
  c.set .c2 (longIn2.extractLsb' 16 8)

def mulU24X24toH16Asm (c : Cpu AsmReg) (longIn1 longIn2 : BitVec 32) : BitVec 16 :=
  BitVec.ofNat 16
    (((loadLongs c longIn1 longIn2).run mulU24X24toH16Program).value [.a0, .b0])

section Assembly

variable {s c : Cpu AsmReg} {sum : Nat}

/-- The registers the partial products are added up in, from the third byte of the product. -/
def accumulator : List AsmReg := [.r27, .a0, .b0]

/-- A partial product adds up to `sum`; the operands are those the assembly was started with. -/
structure Accumulated (s : Cpu AsmReg) (sum : Nat) (c : Cpu AsmReg) : Prop where
  operands : ∀ r ∈ [AsmReg.a1, .b1, .c1, .a2, .b2, .c2], c.regs r = s.regs r
  zero : c.regs .r26 = 0
  value : c.value accumulator = sum % 2 ^ 24

/-- A product is formed and added at the place `low` leaves. -/
theorem Accumulated.mulAdd (h : Accumulated s sum c) (d r : AsmReg) (low ds rs : List AsmReg)
    (hacc : accumulator = low ++ ds) (hlength : ds.length = rs.length)
    (hrs : ∀ r' ∈ rs, r' ∈ [AsmReg.r0, .r1, .r26]) :
    Accumulated s
      (sum + 256 ^ low.length * (c.step (.mul d r)).value rs)
      (c.run (.mul d r :: Cpu.addChain ds rs)) := by
  have hmem : ∀ r' ∈ ds, r' ∈ accumulator := fun r' hr' => by
    rw [hacc]
    exact List.mem_append_right low hr'
  have happart : ∀ r' ∈ rs, r' ∉ ds := fun r' hr' hds => by
    have hin := hrs r' hr'
    have hout := hmem r' hds
    revert hin hout
    cases r' <;> decide
  have hkept : ∀ r' : AsmReg, r' ∉ AsmReg.r0 :: .r1 :: accumulator →
      (c.run (.mul d r :: Cpu.addChain ds rs)).regs r' = c.regs r' := fun r' hr' => by
    rw [List.mem_cons, List.mem_cons, not_or, not_or] at hr'
    rw [Cpu.run_cons, Cpu.regs_run_addChain_of_notMem _ hlength fun hds => hr'.2.2 (hmem r' hds)]
    exact c.regs_mul_of_ne d r hr'.1 hr'.2.1
  refine ⟨fun r' hr' => ?_, ?_, ?_⟩
  · rw [hkept r' (by revert hr'; cases r' <;> decide)]
    exact h.operands r' hr'
  · rw [hkept .r26 (by decide)]
    exact h.zero
  · have hbefore : (c.step (.mul d r)).value accumulator = c.value accumulator :=
      Cpu.value_congr fun r' hr' => by
        apply c.regs_mul_of_ne d r <;> rintro rfl <;> revert hr' <;> decide
    have hnodup : (low ++ ds).Nodup := by
      rw [← hacc]
      decide
    have hadd := (c.step (.mul d r)).value_run_addChain hlength hnodup happart
    rw [← hacc, hbefore, h.value] at hadd
    rw [Cpu.run_cons, hadd]
    show (sum % 2 ^ 24 + _) % 2 ^ 24 = (sum + _) % 2 ^ 24
    rw [Nat.mod_add_mod]

/-- The partial product of two operands. -/
def partialProduct (s : Cpu AsmReg) (d r : AsmReg) : Nat := (s.regs d).toNat * (s.regs r).toNat

section Products

variable (h : Accumulated s sum c) (d r : AsmReg)
  (hd : d ∈ [AsmReg.a1, .b1, .c1, .a2, .b2, .c2]) (hr : r ∈ [AsmReg.a1, .b1, .c1, .a2, .b2, .c2])

include h hd hr

theorem Accumulated.product_r0 :
    ((c.step (.mul d r)).regs .r0).toNat = partialProduct s d r % 256 := by
  rw [partialProduct, ← h.operands d hd, ← h.operands r hr]
  exact c.toNat_mul_r0 d r

theorem Accumulated.product_r1 :
    ((c.step (.mul d r)).regs .r1).toNat = partialProduct s d r / 256 := by
  rw [partialProduct, ← h.operands d hd, ← h.operands r hr]
  exact c.toNat_mul_r1 d r

omit hd hr in
theorem Accumulated.product_r26 : ((c.step (.mul d r)).regs .r26).toNat = 0 := by
  rw [c.regs_mul_of_ne d r (by decide) (by decide), h.zero]
  rfl

/-- All of a partial product that begins in the third byte. -/
theorem Accumulated.mulAdd_third :
    Accumulated s (sum + partialProduct s d r)
      (c.run [.mul d r, .add .r27 .r0, .adc .a0 .r1, .adc .b0 .r26]) := by
  have hsum := h.mulAdd d r [] accumulator [.r0, .r1, .r26] rfl rfl (by decide)
  have hvalue : (c.step (.mul d r)).value [.r0, .r1, .r26] = partialProduct s d r := by
    simp only [Cpu.value_cons, Cpu.value_nil, h.product_r0 d r hd hr, h.product_r1 d r hd hr,
      h.product_r26 d r]
    omega
  rwa [hvalue, List.length_nil, Nat.pow_zero, Nat.one_mul] at hsum

/-- Of a partial product that begins in the second byte, its upper byte. -/
theorem Accumulated.mulAdd_second :
    Accumulated s (sum + partialProduct s d r / 256)
      (c.run [.mul d r, .add .r27 .r1, .adc .a0 .r26, .adc .b0 .r26]) := by
  have hsum := h.mulAdd d r [] accumulator [.r1, .r26, .r26] rfl rfl (by decide)
  have hvalue : (c.step (.mul d r)).value [.r1, .r26, .r26] = partialProduct s d r / 256 := by
    simp only [Cpu.value_cons, Cpu.value_nil, h.product_r1 d r hd hr, h.product_r26 d r]
    omega
  rwa [hvalue, List.length_nil, Nat.pow_zero, Nat.one_mul] at hsum

theorem Accumulated.mulAdd_fourth :
    Accumulated s (sum + 256 * partialProduct s d r)
      (c.run [.mul d r, .add .a0 .r0, .adc .b0 .r1]) := by
  have hsum := h.mulAdd d r [.r27] [.a0, .b0] [.r0, .r1] rfl rfl (by decide)
  have hvalue : (c.step (.mul d r)).value [.r0, .r1] = partialProduct s d r := by
    simp only [Cpu.value_cons, Cpu.value_nil, h.product_r0 d r hd hr, h.product_r1 d r hd hr]
    omega
  rwa [hvalue, List.length_singleton, Nat.pow_one] at hsum

/-- What the upper byte would add lies above the result. -/
theorem Accumulated.mulAdd_fifth :
    Accumulated s (sum + 65536 * (partialProduct s d r % 256))
      (c.run [.mul d r, .add .b0 .r0]) := by
  have hsum := h.mulAdd d r [.r27, .a0] [.b0] [.r0] rfl rfl (by decide)
  have hvalue : (c.step (.mul d r)).value [.r0] = partialProduct s d r % 256 := by
    simp only [Cpu.value_cons, Cpu.value_nil, h.product_r0 d r hd hr]
    omega
  rwa [hvalue] at hsum

end Products

theorem partialProduct_lt (s : Cpu AsmReg) (d r : AsmReg) : partialProduct s d r < 256 * 256 :=
  Nat.mul_lt_mul'' (s.regs d).isLt (s.regs r).isLt

/-- The first two partial products are moved to their places. -/
theorem accumulated_start (s : Cpu AsmReg) :
    Accumulated s (partialProduct s .a1 .b2 / 256 + 256 * partialProduct s .b1 .c2)
      (s.run
        [.clr .r26, .mul .a1 .b2, .mov .r27 .r1, .mul .b1 .c2, .movw (.a0, .b0) (.r0, .r1)]) := by
  let c₁ := s.step (.clr .r26)
  let c₂ := (c₁.step (.mul .a1 .b2)).step (.mov .r27 .r1)
  let c₃ := c₂.step (.mul .b1 .c2)
  have hkept₁ : ∀ r, r ≠ AsmReg.r26 → c₁.regs r = s.regs r := fun r hr => s.regs_set_of_ne 0 hr
  have hkept₂ : ∀ r, r ∉ [AsmReg.r0, .r1, .r27] → c₂.regs r = c₁.regs r := fun r hr => by
    simp only [List.mem_cons, List.not_mem_nil, or_false, not_or] at hr
    rw [← c₁.regs_mul_of_ne .a1 .b2 hr.1 hr.2.1]
    exact Cpu.regs_set_of_ne _ _ hr.2.2
  have hkept₃ : ∀ r, r ∉ [AsmReg.r0, .r1] → c₃.regs r = c₂.regs r := fun r hr => by
    simp only [List.mem_cons, List.not_mem_nil, or_false, not_or] at hr
    exact c₂.regs_mul_of_ne .b1 .c2 hr.1 hr.2
  have hkept : ∀ r, r ∉ [AsmReg.r0, .r1, .r26, .r27, .a0, .b0] →
      ((c₃.set .a0 (c₃.regs .r0)).set .b0 (c₃.regs .r1)).regs r = s.regs r := fun r hr => by
    simp only [List.mem_cons, List.not_mem_nil, or_false, not_or] at hr
    rw [Cpu.regs_set_of_ne _ _ hr.2.2.2.2.2, Cpu.regs_set_of_ne _ _ hr.2.2.2.2.1,
      hkept₃ r (by simp [hr]), hkept₂ r (by simp [hr]), hkept₁ r hr.2.2.1]
  show Accumulated s _ ((c₃.set .a0 (c₃.regs .r0)).set .b0 (c₃.regs .r1))
  refine ⟨fun r hr => hkept r (by revert hr; cases r <;> decide), ?_, ?_⟩
  · rw [Cpu.regs_set_of_ne _ _ (by decide), Cpu.regs_set_of_ne _ _ (by decide),
      hkept₃ _ (by decide), hkept₂ _ (by decide)]
    exact Cpu.regs_set_self ..
  · have hlow : (c₂.regs .r27).toNat = partialProduct s .a1 .b2 / 256 := by
      rw [partialProduct, ← hkept₁ .a1 (by decide), ← hkept₁ .b2 (by decide)]
      exact (congrArg BitVec.toNat (Cpu.regs_set_self ..)).trans (c₁.toNat_mul_r1 .a1 .b2)
    have hb1 : c₂.regs .b1 = s.regs .b1 := (hkept₂ _ (by decide)).trans (hkept₁ _ (by decide))
    have hc2 : c₂.regs .c2 = s.regs .c2 := (hkept₂ _ (by decide)).trans (hkept₁ _ (by decide))
    have hr0 : (c₃.regs .r0).toNat = partialProduct s .b1 .c2 % 256 := by
      rw [partialProduct, ← hb1, ← hc2]
      exact c₂.toNat_mul_r0 .b1 .c2
    have hr1 : (c₃.regs .r1).toNat = partialProduct s .b1 .c2 / 256 := by
      rw [partialProduct, ← hb1, ← hc2]
      exact c₂.toNat_mul_r1 .b1 .c2
    have hlt := partialProduct_lt s .a1 .b2
    have hlt' := partialProduct_lt s .b1 .c2
    simp only [accumulator, Cpu.value_cons, Cpu.value_nil, Cpu.regs_set_self]
    rw [Cpu.regs_set_of_ne _ _ (by decide), Cpu.regs_set_of_ne _ _ (by decide),
      Cpu.regs_set_of_ne _ _ (by decide), Cpu.regs_set_self, hkept₃ _ (by decide), hlow, hr0, hr1]
    omega

/-- Rounding adds the highest bit of the byte that is dropped. -/
theorem Accumulated.round (h : Accumulated s sum c) :
    (c.run [.lsl .r27, .adc .a0 .r26, .adc .b0 .r26, .clr .r1]).value [.a0, .b0] =
      (sum + 128) / 256 % 2 ^ 16 := by
  let c₁ := c.step (.lsl .r27)
  have hkept : ∀ r, r ≠ AsmReg.r27 → c₁.regs r = c.regs r := fun r hr => c.regs_lsl_of_ne hr
  have hcarry : c₁.carry.toNat = (c.regs .r27).toNat / 128 := c.toNat_carry_lsl .r27
  have hchain := @Cpu.value_run_adcChain AsmReg _ _ c₁ [.a0, .b0] [.r26, .r26] rfl (by decide)
    (by decide)
  have hvalue := h.value
  have hzero := h.zero
  have hlt := (c₁.run (Cpu.adcChain [AsmReg.a0, .b0] [.r26, .r26])).value_lt [AsmReg.a0, .b0]
  have hresult : (c.run [.lsl .r27, .adc .a0 .r26, .adc .b0 .r26, .clr .r1]).value [.a0, .b0] =
      (c₁.run (Cpu.adcChain [AsmReg.a0, .b0] [.r26, .r26])).value [.a0, .b0] :=
    Cpu.value_congr fun r hr => Cpu.regs_set_of_ne _ _ (by rintro rfl; revert hr; decide)
  have hvalue₁ : c₁.value [.a0, .b0] = c.value [.a0, .b0] :=
    Cpu.value_congr fun r hr => hkept r (by rintro rfl; revert hr; decide)
  rw [hcarry, hvalue₁] at hchain
  simp only [Cpu.value_cons, Cpu.value_nil, hkept .r26 (by decide), hzero] at hchain
  rw [hresult]
  rw [show 256 ^ [AsmReg.a0, .b0].length = 65536 from rfl] at hchain hlt
  have hr26 : (0 : BitVec 8).toNat = 0 := rfl
  simp only [accumulator, Cpu.value_cons, Cpu.value_nil] at hvalue hchain hlt ⊢
  omega

/-- The sum of the partial products, without what lies below the third byte of each. -/
theorem value_mulU24X24toH16Program (s : Cpu AsmReg) :
    (s.run mulU24X24toH16Program).value [.a0, .b0] =
      (partialProduct s .a1 .b2 / 256 + 256 * partialProduct s .b1 .c2 +
        65536 * (partialProduct s .c1 .c2 % 256) + 256 * partialProduct s .c1 .b2 +
        partialProduct s .a1 .c2 + partialProduct s .b1 .b2 + partialProduct s .c1 .a2 +
        partialProduct s .b1 .a2 / 256 + 128) / 256 % 2 ^ 16 := by
  have hstart := accumulated_start s
  have hc1c2 := hstart.mulAdd_fifth .c1 .c2 (by decide) (by decide)
  have hc1b2 := hc1c2.mulAdd_fourth .c1 .b2 (by decide) (by decide)
  have ha1c2 := hc1b2.mulAdd_third .a1 .c2 (by decide) (by decide)
  have hb1b2 := ha1c2.mulAdd_third .b1 .b2 (by decide) (by decide)
  have hc1a2 := hb1b2.mulAdd_third .c1 .a2 (by decide) (by decide)
  have hb1a2 := hc1a2.mulAdd_second .b1 .a2 (by decide) (by decide)
  exact hb1a2.round

end Assembly

section Results

variable (c : Cpu AsmReg)

/-- The bytes of the operands. -/
theorem toNat_loadLongs (x y : BitVec 32) :
    (((loadLongs c x y).regs .a1).toNat = x.toNat % 256 ∧
      ((loadLongs c x y).regs .b1).toNat = x.toNat / 256 % 256 ∧
      ((loadLongs c x y).regs .c1).toNat = x.toNat / 65536 % 256) ∧
    (((loadLongs c x y).regs .a2).toNat = y.toNat % 256 ∧
      ((loadLongs c x y).regs .b2).toNat = y.toNat / 256 % 256 ∧
      ((loadLongs c x y).regs .c2).toNat = y.toNat / 65536 % 256) := by
  simp [loadLongs, Cpu.set, BitVec.extractLsb'_toNat, Nat.shiftRight_eq_div_pow]

/-- The assembly is what the interrupt has been taken to compute. -/
theorem mulU24X24toH16Asm_eq (longIn1 longIn2 : BitVec 32) :
    mulU24X24toH16Asm c longIn1 longIn2 = mulU24X24toH16 longIn1 longIn2 := by
  obtain ⟨⟨ha1, hb1, hc1⟩, ha2, hb2, hc2⟩ := toNat_loadLongs c longIn1 longIn2
  rw [mulU24X24toH16Asm, value_mulU24X24toH16Program, mulU24X24toH16, ← BitVec.toNat_inj,
    BitVec.toNat_ofNat, BitVec.toNat_ofNat]
  simp only [partialProduct, ha1, hb1, hc1, ha2, hb2, hc2]
  omega

/-- What the assembly drops is less than three units of the byte it rounds away. -/
theorem rounded_product (a1 b1 c1 a2 b2 c2 : Nat) (ha1 : a1 < 256) (ha2 : a2 < 256) :
    ∃ dropped < 3,
      (a1 + 256 * b1 + 65536 * c1) * (a2 + 256 * b2 + 65536 * c2) / 65536 =
        256 * (b1 * c2 + 256 * (c1 * c2) + c1 * b2) +
          (a1 * b2 / 256 + a1 * c2 + b1 * b2 + c1 * a2 + b1 * a2 / 256) + dropped := by
  have hlowest : a1 * a2 ≤ 255 * 255 := Nat.mul_le_mul (by omega) (by omega)
  have hproduct : (a1 + 256 * b1 + 65536 * c1) * (a2 + 256 * b2 + 65536 * c2) =
      a1 * a2 + 256 * (a1 * b2 + b1 * a2) + 65536 * (a1 * c2 + b1 * b2 + c1 * a2) +
        16777216 * (b1 * c2 + c1 * b2) + 4294967296 * (c1 * c2) := by
    ring
  rw [hproduct]
  generalize a1 * a2 = p at *
  refine ⟨(p + 256 * (a1 * b2 % 256 + b1 * a2 % 256)) / 65536, ?_, ?_⟩ <;> omega

theorem toNat_mulU24X24toH16C {longIn1 longIn2 : BitVec 32} (h1 : longIn1.toNat < 2 ^ 24)
    (h2 : longIn2.toNat < 2 ^ 24) :
    (mulU24X24toH16C longIn1 longIn2).toNat = longIn1.toNat * longIn2.toNat / 2 ^ 24 % 2 ^ 16 := by
  have hlt : longIn1.toNat * longIn2.toNat < 2 ^ 24 * 2 ^ 24 := Nat.mul_lt_mul'' h1 h2
  have hlong1 : (longIn1.setWidth 64).toNat = longIn1.toNat :=
    BitVec.toNat_setWidth_of_le (by decide)
  have hlong2 : (longIn2.setWidth 64).toNat = longIn2.toNat :=
    BitVec.toNat_setWidth_of_le (by decide)
  have hword : longIn1.toNat * longIn2.toNat % 2 ^ 64 = longIn1.toNat * longIn2.toNat :=
    Nat.mod_eq_of_lt (by omega)
  rw [mulU24X24toH16C, BitVec.toNat_setWidth, BitVec.toNat_ushiftRight, BitVec.toNat_mul, hlong1,
    hlong2, hword, Nat.shiftRight_eq_div_pow]

theorem mulU24X24toH16Asm_agrees {longIn1 longIn2 : BitVec 32} (h1 : longIn1.toNat < 2 ^ 24)
    (h2 : longIn2.toNat < 2 ^ 24) :
    mulU24X24toH16Asm c longIn1 longIn2 = mulU24X24toH16C longIn1 longIn2 ∨
      mulU24X24toH16Asm c longIn1 longIn2 = mulU24X24toH16C longIn1 longIn2 + 1 := by
  have hone : (1 : BitVec 16).toNat = 1 := rfl
  rw [← BitVec.toNat_inj, ← BitVec.toNat_inj, BitVec.toNat_add, hone, toNat_mulU24X24toH16C h1 h2,
    mulU24X24toH16Asm_eq, mulU24X24toH16, BitVec.toNat_ofNat]
  obtain ⟨dropped, hdropped, hproduct⟩ := rounded_product
    (longIn1.toNat % 256) (longIn1.toNat / 256 % 256) (longIn1.toNat / 65536 % 256)
    (longIn2.toNat % 256) (longIn2.toNat / 256 % 256) (longIn2.toNat / 65536 % 256)
    (by omega) (by omega)
  have hx : longIn1.toNat % 256 + 256 * (longIn1.toNat / 256 % 256) +
      65536 * (longIn1.toNat / 65536 % 256) = longIn1.toNat := by omega
  have hy : longIn2.toNat % 256 + 256 * (longIn2.toNat / 256 % 256) +
      65536 * (longIn2.toNat / 65536 % 256) = longIn2.toNat := by omega
  rw [hx, hy] at hproduct
  have hshift : longIn1.toNat * longIn2.toNat / 2 ^ 24 =
      longIn1.toNat * longIn2.toNat / 65536 / 256 := (Nat.div_div_eq_div_mul _ 65536 256).symm
  rw [hshift, hproduct]
  omega

/-- The upper byte of a product is added, and the highest bit of the lower one. -/
theorem value_roundByte (s : Cpu AsmReg) :
    (s.run [.lsl .r0, .adc .a0 .r1, .clr .r1, .adc .b0 .r1]).value [.a0, .b0] =
      (s.value [.a0, .b0] + (s.regs .r1).toNat + (s.regs .r0).toNat / 128) % 2 ^ 16 := by
  obtain ⟨c, hc⟩ : ∃ c, c = s.step (.lsl .r0) := ⟨_, rfl⟩
  have hkept : ∀ r, r ≠ AsmReg.r0 → c.regs r = s.regs r := fun r hr => by
    rw [hc, s.regs_lsl_of_ne hr]
  have hcarry : c.carry.toNat = (s.regs .r0).toNat / 128 := by rw [hc, s.toNat_carry_lsl]
  have hlow := c.toNat_addCarry .a0 .r1 c.carry
  have hhigh := ((c.addCarry .a0 .r1 c.carry).set .r1 0).toNat_addCarry .b0 .r1
    (c.addCarry .a0 .r1 c.carry).carry
  have hlt := ((c.addCarry .a0 .r1 c.carry).regs .a0).isLt
  rw [Cpu.regs_set_of_ne _ _ (by decide), c.regs_addCarry_of_ne _ _ (by decide), Cpu.regs_set_self,
    hkept .b0 (by decide)] at hhigh
  rw [hkept .a0 (by decide), hkept .r1 (by decide), hcarry] at hlow
  have hrun : s.run [.lsl .r0, .adc .a0 .r1, .clr .r1, .adc .b0 .r1] =
      ((c.addCarry .a0 .r1 c.carry).set .r1 0).addCarry .b0 .r1
        (c.addCarry .a0 .r1 c.carry).carry := by
    rw [hc]
    rfl
  have hr1 : (0 : BitVec 8).toNat = 0 := rfl
  rw [hrun]
  simp only [Cpu.value_cons, Cpu.value_nil]
  rw [Cpu.regs_addCarry_of_ne _ _ _ (by decide), Cpu.regs_set_of_ne _ _ (by decide)]
  omega

/-- The product of the upper byte is moved to the result, the other one rounded. -/
theorem value_mulU8X16toH16Program (s : Cpu AsmReg) :
    (s.run mulU8X16toH16Program).value [.a0, .b0] =
      (partialProduct s .b2 .a1 + (partialProduct s .a2 .a1 + 128) / 256) % 2 ^ 16 := by
  obtain ⟨c₁, hc₁⟩ : ∃ c₁, c₁ = s.step (.mul .b2 .a1) := ⟨_, rfl⟩
  obtain ⟨c₂, hc₂⟩ : ∃ c₂, c₂ = (c₁.set .a0 (c₁.regs .r0)).set .b0 (c₁.regs .r1) := ⟨_, rfl⟩
  have hkept : ∀ r, r ∉ [AsmReg.r0, .r1, .a0, .b0] → c₂.regs r = s.regs r := fun r hr => by
    simp only [List.mem_cons, List.not_mem_nil, or_false, not_or] at hr
    rw [hc₂, Cpu.regs_set_of_ne _ _ hr.2.2.2, Cpu.regs_set_of_ne _ _ hr.2.2.1, hc₁,
      s.regs_mul_of_ne .b2 .a1 hr.1 hr.2.1]
  have hupper : c₂.value [.a0, .b0] = partialProduct s .b2 .a1 := by
    have hlow : (c₁.regs .r0).toNat = partialProduct s .b2 .a1 % 256 := by
      rw [hc₁]
      exact s.toNat_mul_r0 .b2 .a1
    have hhigh : (c₁.regs .r1).toNat = partialProduct s .b2 .a1 / 256 := by
      rw [hc₁]
      exact s.toNat_mul_r1 .b2 .a1
    rw [hc₂, Cpu.value_cons, Cpu.value_cons, Cpu.value_nil, Cpu.regs_set_of_ne _ _ (by decide),
      Cpu.regs_set_self, Cpu.regs_set_self, hlow, hhigh]
    omega
  have hproduct : partialProduct c₂ .a2 .a1 = partialProduct s .a2 .a1 := by
    rw [partialProduct, hkept .a2 (by decide), hkept .a1 (by decide), partialProduct]
  have hkept' : (c₂.step (.mul .a2 .a1)).value [.a0, .b0] = c₂.value [.a0, .b0] :=
    Cpu.value_congr fun r hr =>
      c₂.regs_mul_of_ne .a2 .a1 (by rintro rfl; revert hr; decide)
        (by rintro rfl; revert hr; decide)
  have hlow : ((c₂.step (.mul .a2 .a1)).regs .r0).toNat = partialProduct c₂ .a2 .a1 % 256 :=
    c₂.toNat_mul_r0 .a2 .a1
  have hhigh : ((c₂.step (.mul .a2 .a1)).regs .r1).toNat = partialProduct c₂ .a2 .a1 / 256 :=
    c₂.toNat_mul_r1 .a2 .a1
  rw [mulU8X16toH16Program, Cpu.run_cons, Cpu.run_cons, Cpu.run_cons, ← hc₁, Cpu.step, ← hc₂,
    value_roundByte, hkept', hupper, hlow, hhigh, hproduct]
  omega

theorem toNat_mulU8X16toH16C (charIn1 : BitVec 8) (intIn2 : BitVec 16) :
    (mulU8X16toH16C charIn1 intIn2).toNat = charIn1.toNat * intIn2.toNat / 256 := by
  have hlt : charIn1.toNat * intIn2.toNat < 2 ^ 8 * 2 ^ 16 :=
    Nat.mul_lt_mul'' charIn1.isLt intIn2.isLt
  have hchar : (charIn1.setWidth 32).toNat = charIn1.toNat :=
    BitVec.toNat_setWidth_of_le (by decide)
  have hint : (intIn2.setWidth 32).toNat = intIn2.toNat :=
    BitVec.toNat_setWidth_of_le (by decide)
  have hword : charIn1.toNat * intIn2.toNat % 2 ^ 32 = charIn1.toNat * intIn2.toNat :=
    Nat.mod_eq_of_lt (by omega)
  rw [mulU8X16toH16C, BitVec.toNat_setWidth, BitVec.toNat_ushiftRight, BitVec.toNat_mul, hchar,
    hint, hword, Nat.shiftRight_eq_div_pow]
  omega

/-- The assembly is what the speed table has been taken to interpolate with. -/
theorem mulU8X16toH16Asm_eq (charIn1 : BitVec 8) (intIn2 : BitVec 16) :
    mulU8X16toH16Asm c charIn1 intIn2 = mulU8X16toH16 (charIn1.setWidth 16) intIn2 := by
  have hchar : (charIn1.setWidth 16).toNat = charIn1.toNat :=
    BitVec.toNat_setWidth_of_le (by decide)
  have hhigh : intIn2.toNat / 256 % 256 = intIn2.toNat / 256 :=
    Nat.mod_eq_of_lt (by have := intIn2.isLt; omega)
  have hbytes : intIn2.toNat = intIn2.toNat % 256 + 256 * (intIn2.toNat / 256) := by omega
  have hproduct : charIn1.toNat * intIn2.toNat =
      intIn2.toNat % 256 * charIn1.toNat + 256 * (intIn2.toNat / 256 * charIn1.toNat) := by
    grind
  rw [mulU8X16toH16Asm, value_mulU8X16toH16Program, mulU8X16toH16, ← BitVec.toNat_inj,
    BitVec.toNat_ofNat, BitVec.toNat_ofNat, hchar, hproduct]
  simp [partialProduct, Cpu.set, BitVec.extractLsb'_toNat, Nat.shiftRight_eq_div_pow, hhigh]
  omega

theorem mulU8X16toH16Asm_agrees (charIn1 : BitVec 8) (intIn2 : BitVec 16) :
    mulU8X16toH16Asm c charIn1 intIn2 = mulU8X16toH16C charIn1 intIn2 ∨
      mulU8X16toH16Asm c charIn1 intIn2 = mulU8X16toH16C charIn1 intIn2 + 1 := by
  have hone : (1 : BitVec 16).toNat = 1 := rfl
  have hchar : (charIn1.setWidth 16).toNat = charIn1.toNat :=
    BitVec.toNat_setWidth_of_le (by decide)
  have hlt : charIn1.toNat * intIn2.toNat ≤ 255 * 65535 :=
    Nat.mul_le_mul (Nat.le_of_lt_succ charIn1.isLt) (Nat.le_of_lt_succ intIn2.isLt)
  rw [← BitVec.toNat_inj, ← BitVec.toNat_inj, BitVec.toNat_add, hone, toNat_mulU8X16toH16C,
    mulU8X16toH16Asm_eq, mulU8X16toH16, BitVec.toNat_ofNat, hchar]
  omega

/-- On numbers of three bytes, and of a byte and a word, the assembly computes what the C code
does, or one more. -/
theorem assembly_agrees {longIn1 longIn2 : BitVec 32} (h1 : longIn1.toNat < 2 ^ 24)
    (h2 : longIn2.toNat < 2 ^ 24) (charIn1 : BitVec 8) (intIn2 : BitVec 16) :
    (mulU24X24toH16Asm c longIn1 longIn2 = mulU24X24toH16C longIn1 longIn2 ∨
      mulU24X24toH16Asm c longIn1 longIn2 = mulU24X24toH16C longIn1 longIn2 + 1) ∧
    (mulU8X16toH16Asm c charIn1 intIn2 = mulU8X16toH16C charIn1 intIn2 ∨
      mulU8X16toH16Asm c charIn1 intIn2 = mulU8X16toH16C charIn1 intIn2 + 1) :=
  ⟨mulU24X24toH16Asm_agrees c h1 h2, mulU8X16toH16Asm_agrees c charIn1 intIn2⟩

theorem assembly_agrees_largest :
    (mulU24X24toH16Asm ⟨fun _ => 0, true⟩ 0xffffff 0xffffff = mulU24X24toH16C 0xffffff 0xffffff ∨
      mulU24X24toH16Asm ⟨fun _ => 0, true⟩ 0xffffff 0xffffff =
        mulU24X24toH16C 0xffffff 0xffffff + 1) ∧
    (mulU8X16toH16Asm ⟨fun _ => 0, true⟩ 0xff 0xffff = mulU8X16toH16C 0xff 0xffff ∨
      mulU8X16toH16Asm ⟨fun _ => 0, true⟩ 0xff 0xffff = mulU8X16toH16C 0xff 0xffff + 1) :=
  assembly_agrees ⟨fun _ => 0, true⟩ (by decide) (by decide) 0xff 0xffff

end Results

end MmuFirmware
