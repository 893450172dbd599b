import Mathlib.Data.Nat.Basic
import Mathlib.Algebra.Order.Ring.Nat

/-!
Arithmetic on words that does not wrap: an operation whose exact result is no word has none.
Each rule says when an operation succeeds, with which word, and which number that is.
-/
namespace Checked

variable {w : Nat}

def add (a b : BitVec w) : Option (BitVec w) :=
  if a.toNat + b.toNat < 2 ^ w then some (a + b) else none

def sub (a b : BitVec w) : Option (BitVec w) := if b.toNat ≤ a.toNat then some (a - b) else none

def mul (a b : BitVec w) : Option (BitVec w) :=
  if a.toNat * b.toNat < 2 ^ w then some (a * b) else none

def div (a b : BitVec w) : Option (BitVec w) := if b.toNat ≠ 0 then some (a / b) else none

def shiftLeft (a : BitVec w) (k : Nat) : Option (BitVec w) :=
  if a.toNat * 2 ^ k < 2 ^ w then some (a <<< k) else none

/-- The computation succeeds with the word, which is the number. -/
structure Gives (c : Option (BitVec w)) (x : BitVec w) (n : Nat) : Prop where
  eq : c = some x
  toNat : x.toNat = n

variable {a b : BitVec w} {m n k : Nat}

theorem gives_add (ha : a.toNat = m) (hb : b.toNat = n) (h : m + n < 2 ^ w) :
    Gives (add a b) (a + b) (m + n) := by
  subst ha hb
  exact ⟨if_pos h, BitVec.toNat_add_of_lt h⟩

theorem add_zero (a : BitVec w) : add a 0 = some a := by
  have hadd := gives_add (rfl : a.toNat = _) (BitVec.toNat_ofNat 0 w) (by
    rw [Nat.zero_mod]
    exact a.isLt)
  exact hadd.eq.trans (congrArg some (BitVec.add_zero a))

theorem gives_sub (ha : a.toNat = m) (hb : b.toNat = n) (h : n ≤ m) :
    Gives (sub a b) (a - b) (m - n) := by
  subst ha hb
  exact ⟨if_pos h, BitVec.toNat_sub_of_le (BitVec.le_def.mpr h)⟩

theorem gives_mul (ha : a.toNat = m) (hb : b.toNat = n) (h : m * n < 2 ^ w) :
    Gives (mul a b) (a * b) (m * n) := by
  subst ha hb
  exact ⟨if_pos h, BitVec.toNat_mul_of_lt h⟩

theorem gives_div (ha : a.toNat = m) (hb : b.toNat = n) (h : n ≠ 0) :
    Gives (div a b) (a / b) (m / n) := by
  subst ha hb
  exact ⟨if_pos h, BitVec.toNat_udiv⟩

theorem gives_shiftLeft (ha : a.toNat = m) (h : m * 2 ^ k < 2 ^ w) :
    Gives (shiftLeft a k) (a <<< k) (m * 2 ^ k) := by
  subst ha
  refine ⟨if_pos h, ?_⟩
  rw [BitVec.toNat_shiftLeft, Nat.shiftLeft_eq, Nat.mod_eq_of_lt h]

end Checked
