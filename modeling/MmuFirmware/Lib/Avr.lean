import Mathlib.Logic.Function.Basic
import Mathlib.Data.List.Basic
import Mathlib.Algebra.Order.Ring.Nat

/-!
The part of the AVR instruction set that numbers of several bytes are added and multiplied
with: registers of a byte and the carry flag. Registers are named by an arbitrary type; two of
them receive the products. Numbers lie in lists of registers, the lowest byte first, and the
chains of additions carry from one register to the next.
-/
namespace Avr

/-- The registers a product is left in, its low byte in `r0`. -/
class ProductRegs (ρ : Type*) where
  r0 : ρ
  r1 : ρ
  r0_ne_r1 : r0 ≠ r1

inductive Instr (ρ : Type*) where
  | clr (d : ρ)
  | mov (d r : ρ)
  /-- A pair of registers is named by both, the lower one first. -/
  | movw (d r : ρ × ρ)
  | mul (d r : ρ)
  | add (d r : ρ)
  | adc (d r : ρ)
  | lsl (d : ρ)
  deriving DecidableEq, Repr

structure Cpu (ρ : Type*) where
  regs : ρ → BitVec 8
  carry : Bool

namespace Cpu

variable {ρ : Type*}

/-- The number in a list of registers. -/
def value (c : Cpu ρ) : List ρ → Nat
  | [] => 0
  | d :: ds => (c.regs d).toNat + 256 * c.value ds

@[simp] theorem value_nil (c : Cpu ρ) : c.value [] = 0 := rfl

@[simp] theorem value_cons (c : Cpu ρ) (d : ρ) (ds : List ρ) :
    c.value (d :: ds) = (c.regs d).toNat + 256 * c.value ds := rfl

theorem value_lt (c : Cpu ρ) (ds : List ρ) : c.value ds < 256 ^ ds.length := by
  induction ds with
  | nil => exact Nat.one_pos
  | cons d ds ih =>
      have hd := (c.regs d).isLt
      rw [value_cons, List.length_cons, Nat.pow_succ]
      omega

theorem value_append (c : Cpu ρ) (low ds : List ρ) :
    c.value (low ++ ds) = c.value low + 256 ^ low.length * c.value ds := by
  induction low with
  | nil => simp
  | cons d low ih =>
      rw [List.cons_append, value_cons, value_cons, ih, List.length_cons, Nat.pow_succ]
      grind

theorem value_congr {c c' : Cpu ρ} {ds : List ρ} (h : ∀ d ∈ ds, c.regs d = c'.regs d) :
    c.value ds = c'.value ds := by
  induction ds with
  | nil => rfl
  | cons d ds ih =>
      rw [value_cons, value_cons, h d List.mem_cons_self,
        ih fun d hd => h d (List.mem_cons_of_mem _ hd)]

variable [DecidableEq ρ]

def set (c : Cpu ρ) (d : ρ) (v : BitVec 8) : Cpu ρ :=
  { c with regs := Function.update c.regs d v }

/-- The sum goes to `d`, what it exceeds a byte by to the flag. -/
def addCarry (c : Cpu ρ) (d r : ρ) (carryIn : Bool) : Cpu ρ :=
  let sum := (c.regs d).toNat + (c.regs r).toNat + carryIn.toNat
  { c.set d (BitVec.ofNat 8 sum) with carry := decide (256 ≤ sum) }

@[simp] theorem regs_set_self (c : Cpu ρ) (d : ρ) (v : BitVec 8) : (c.set d v).regs d = v :=
  Function.update_self ..

theorem regs_set_of_ne (c : Cpu ρ) {d r : ρ} (v : BitVec 8) (h : r ≠ d) :
    (c.set d v).regs r = c.regs r :=
  Function.update_of_ne h ..

theorem regs_addCarry_of_ne (c : Cpu ρ) {d r : ρ} (r' : ρ) (carryIn : Bool) (h : r ≠ d) :
    (c.addCarry d r' carryIn).regs r = c.regs r :=
  c.regs_set_of_ne _ h

/-- Sum and carry together are the sum of the bytes. -/
theorem toNat_addCarry (c : Cpu ρ) (d r : ρ) (carryIn : Bool) :
    ((c.addCarry d r carryIn).regs d).toNat + 256 * (c.addCarry d r carryIn).carry.toNat =
      (c.regs d).toNat + (c.regs r).toNat + carryIn.toNat := by
  have hd := (c.regs d).isLt
  have hr := (c.regs r).isLt
  have hin := carryIn.toNat_le
  simp only [addCarry, regs_set_self, BitVec.toNat_ofNat]
  by_cases hwide : 256 ≤ (c.regs d).toNat + (c.regs r).toNat + carryIn.toNat
  · simp only [hwide, decide_true, Bool.toNat_true]
    omega
  · simp only [hwide, decide_false, Bool.toNat_false]
    omega

variable [ProductRegs ρ]

open ProductRegs

/-- `clr` and the moves leave the flag alone; a product leaves its top bit there. -/
def step (c : Cpu ρ) : Instr ρ → Cpu ρ
  | .clr d => c.set d 0
  | .mov d r => c.set d (c.regs r)
  | .movw d r => (c.set d.1 (c.regs r.1)).set d.2 (c.regs r.2)
  | .mul d r =>
      let product := (c.regs d).toNat * (c.regs r).toNat
      { (c.set r0 (BitVec.ofNat 8 product)).set r1 (BitVec.ofNat 8 (product / 256)) with
        carry := decide (2 ^ 15 ≤ product) }
  | .add d r => c.addCarry d r false
  | .adc d r => c.addCarry d r c.carry
  | .lsl d => c.addCarry d d false

def run (c : Cpu ρ) (program : List (Instr ρ)) : Cpu ρ := program.foldl step c

@[simp] theorem run_nil (c : Cpu ρ) : c.run [] = c := rfl

@[simp] theorem run_cons (c : Cpu ρ) (i : Instr ρ) (program : List (Instr ρ)) :
    c.run (i :: program) = (c.step i).run program := rfl

theorem run_append (c : Cpu ρ) (program program' : List (Instr ρ)) :
    c.run (program ++ program') = (c.run program).run program' :=
  List.foldl_append

section Chains

/-- Additions that take the carry along, from the one there is. -/
def adcChain (ds rs : List ρ) : List (Instr ρ) := List.zipWith .adc ds rs

/-- The chain that begins without a carry. -/
def addChain : List ρ → List ρ → List (Instr ρ)
  | d :: ds, r :: rs => .add d r :: adcChain ds rs
  | _, _ => []

theorem regs_run_adcChain_of_notMem (c : Cpu ρ) (ds rs : List ρ) {r : ρ} (h : r ∉ ds) :
    (c.run (adcChain ds rs)).regs r = c.regs r := by
  induction ds generalizing c rs with
  | nil => rfl
  | cons d ds ih =>
      rw [List.mem_cons, not_or] at h
      cases rs with
      | nil => rfl
      | cons r' rs =>
          rw [adcChain, List.zipWith_cons_cons, run_cons, ← adcChain, ih _ _ h.2]
          exact c.regs_addCarry_of_ne r' c.carry h.1

/-- A chain adds the numbers, the carry included that goes in and the one that comes out. -/
theorem value_run_adcChain (c : Cpu ρ) {ds rs : List ρ} (hlength : ds.length = rs.length)
    (hnodup : ds.Nodup) (happart : ∀ r ∈ rs, r ∉ ds) :
    (c.run (adcChain ds rs)).value ds +
        256 ^ ds.length * (c.run (adcChain ds rs)).carry.toNat =
      c.value ds + c.value rs + c.carry.toNat := by
  induction ds generalizing c rs with
  | nil =>
      cases rs with
      | nil => simp [adcChain]
      | cons r rs => simp at hlength
  | cons d ds ih =>
      cases rs with
      | nil => simp at hlength
      | cons r rs =>
          rw [List.nodup_cons] at hnodup
          rw [List.length_cons, List.length_cons, Nat.add_right_cancel_iff] at hlength
          have happart' : ∀ r ∈ rs, r ∉ ds := fun r hr hmem =>
            happart r (List.mem_cons_of_mem _ hr) (List.mem_cons_of_mem _ hmem)
          have hhead := c.toNat_addCarry d r c.carry
          have htail := ih (c.addCarry d r c.carry) hlength hnodup.2 happart'
          have hds : (c.addCarry d r c.carry).value ds = c.value ds := value_congr fun d' hd' =>
            c.regs_addCarry_of_ne r c.carry fun heq => hnodup.1 (heq ▸ hd')
          have hrs : (c.addCarry d r c.carry).value rs = c.value rs := value_congr fun r' hr' =>
            c.regs_addCarry_of_ne r c.carry fun heq =>
              happart r' (List.mem_cons_of_mem _ hr') (heq ▸ List.mem_cons_self)
          have hlow := regs_run_adcChain_of_notMem (c.addCarry d r c.carry) ds rs hnodup.1
          rw [hds, hrs] at htail
          rw [show adcChain (d :: ds) (r :: rs) = .adc d r :: adcChain ds rs from rfl, run_cons,
            step, value_cons, value_cons, value_cons, hlow, List.length_cons, Nat.pow_succ]
          grind

theorem run_addChain (c : Cpu ρ) {ds rs : List ρ} (hlength : ds.length = rs.length) :
    (c.run (addChain ds rs)).regs = (Cpu.run { c with carry := false } (adcChain ds rs)).regs := by
  cases ds with
  | nil => rfl
  | cons d ds =>
      cases rs with
      | nil => simp at hlength
      | cons r rs => rfl

/-- A chain in the upper registers of a number adds at their weight, as far as the number
reaches. -/
theorem value_run_addChain (c : Cpu ρ) {low ds rs : List ρ} (hlength : ds.length = rs.length)
    (hnodup : (low ++ ds).Nodup) (happart : ∀ r ∈ rs, r ∉ ds) :
    (c.run (addChain ds rs)).value (low ++ ds) =
      (c.value (low ++ ds) + 256 ^ low.length * c.value rs) % 256 ^ (low ++ ds).length := by
  rw [List.nodup_append] at hnodup
  obtain ⟨-, hnodup, hdisjoint⟩ := hnodup
  have hadd := value_run_adcChain { c with carry := false } hlength hnodup happart
  have hregs := c.run_addChain hlength
  have hsame : ∀ ds' : List ρ, Cpu.value { c with carry := false } ds' = c.value ds' := fun _ =>
    value_congr fun _ _ => rfl
  have hlow : (c.run (addChain ds rs)).value low = c.value low := value_congr fun d hd => by
    rw [hregs, regs_run_adcChain_of_notMem _ _ _ fun hmem => hdisjoint d hd d hmem rfl]
  have hds : (c.run (addChain ds rs)).value ds =
      (Cpu.run { c with carry := false } (adcChain ds rs)).value ds := value_congr fun d _ => by
    rw [hregs]
  have hltlow := c.value_lt low
  have hltds := (c.run (addChain ds rs)).value_lt ds
  rw [hsame, hsame, ← hds, Bool.toNat_false, Nat.add_zero] at hadd
  rw [value_append, value_append, hlow, List.length_append, Nat.pow_add, Nat.add_assoc,
    ← Nat.mul_add, ← hadd, Nat.mul_add, ← Nat.add_assoc, ← Nat.mul_assoc, Nat.add_mul_mod_self_left,
    Nat.mod_eq_of_lt]
  calc c.value low + 256 ^ low.length * (c.run (addChain ds rs)).value ds
      < 256 ^ low.length + 256 ^ low.length * (c.run (addChain ds rs)).value ds :=
        Nat.add_lt_add_right hltlow _
    _ = 256 ^ low.length * ((c.run (addChain ds rs)).value ds + 1) := by
        rw [Nat.mul_add, Nat.mul_one, Nat.add_comm]
    _ ≤ 256 ^ low.length * 256 ^ ds.length := Nat.mul_le_mul_left _ hltds

theorem regs_run_addChain_of_notMem (c : Cpu ρ) {ds rs : List ρ} {r : ρ}
    (hlength : ds.length = rs.length) (h : r ∉ ds) :
    (c.run (addChain ds rs)).regs r = c.regs r := by
  rw [c.run_addChain hlength, regs_run_adcChain_of_notMem _ _ _ h]

end Chains

section Products

theorem regs_mul_of_ne (c : Cpu ρ) (d r : ρ) {r' : ρ} (h0 : r' ≠ r0) (h1 : r' ≠ r1) :
    (c.step (.mul d r)).regs r' = c.regs r' := by
  show ((c.set r0 _).set r1 _).regs r' = c.regs r'
  rw [regs_set_of_ne _ _ h1, regs_set_of_ne _ _ h0]

theorem toNat_mul_r0 (c : Cpu ρ) (d r : ρ) :
    ((c.step (.mul d r)).regs r0).toNat = (c.regs d).toNat * (c.regs r).toNat % 256 := by
  show (((c.set r0 _).set r1 _).regs r0).toNat = _
  rw [regs_set_of_ne _ _ r0_ne_r1, regs_set_self, BitVec.toNat_ofNat]

theorem toNat_mul_r1 (c : Cpu ρ) (d r : ρ) :
    ((c.step (.mul d r)).regs r1).toNat = (c.regs d).toNat * (c.regs r).toNat / 256 := by
  have hd := (c.regs d).isLt
  have hr := (c.regs r).isLt
  have hlt : (c.regs d).toNat * (c.regs r).toNat / 256 < 256 := by
    rw [Nat.div_lt_iff_lt_mul (by decide)]
    exact Nat.mul_lt_mul'' hd hr
  show (((c.set r0 _).set r1 _).regs r1).toNat = _
  rw [regs_set_self, BitVec.toNat_ofNat]
  exact Nat.mod_eq_of_lt hlt

theorem regs_lsl_of_ne (c : Cpu ρ) {d r : ρ} (h : r ≠ d) : (c.step (.lsl d)).regs r = c.regs r :=
  c.regs_addCarry_of_ne d false h

/-- The bit that is shifted out. -/
theorem toNat_carry_lsl (c : Cpu ρ) (d : ρ) :
    (c.step (.lsl d)).carry.toNat = (c.regs d).toNat / 128 := by
  have hlt := (c.regs d).isLt
  have hlt' := ((c.addCarry d d false).regs d).isLt
  have hdouble := c.toNat_addCarry d d false
  rw [Bool.toNat_false] at hdouble
  show (c.addCarry d d false).carry.toNat = _
  omega

end Products

end Cpu
end Avr
