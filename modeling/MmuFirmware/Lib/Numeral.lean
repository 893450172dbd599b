import Mathlib.Data.Nat.Digits.Defs
import Mathlib.Data.UInt
import Mathlib.Tactic.Ring
import MmuFirmware.Lib.Distance

/-!
Positional numerals with the most significant digit first, and the fixed-width accumulator
`(v << 4) | digit` that reads a hexadecimal numeral modulo the width of its register.
-/
namespace Numeral
open ListDistance

/-- The value of a digit string in base `b`, most significant digit first. -/
def value (b : Nat) (digits : List Nat) : Nat := Nat.ofDigits b digits.reverse

@[simp] theorem value_nil (b : Nat) : value b [] = 0 := rfl

theorem value_append (b : Nat) (xs ys : List Nat) :
    value b (xs ++ ys) = value b xs * b ^ ys.length + value b ys := by
  rw [value, List.reverse_append, Nat.ofDigits_append, List.length_reverse]
  simp only [value]
  ring

theorem value_singleton (b x : Nat) : value b [x] = x := by
  simp [value]

theorem value_snoc (b : Nat) (xs : List Nat) (x : Nat) :
    value b (xs ++ [x]) = value b xs * b + x := by
  rw [value_append, value_singleton, List.length_singleton, pow_one]

theorem value_lt {b : Nat} (hb : 1 < b) {xs : List Nat} (hxs : ∀ x ∈ xs, x < b) :
    value b xs < b ^ xs.length := by
  simpa [value] using
    Nat.ofDigits_lt_base_pow_length hb (l := xs.reverse) (by simpa using hxs)

theorem value_append_mod (b k : Nat) (xs ys : List Nat) (hk : k ≤ ys.length) :
    value b (xs ++ ys) % b ^ k = value b ys % b ^ k := by
  have hexp : b ^ ys.length = b ^ k * b ^ (ys.length - k) := by
    rw [← pow_add, Nat.add_sub_cancel' hk]
  rw [value_append, hexp, Nat.mul_left_comm, Nat.mul_add_mod]

theorem value_append_div {b k : Nat} (hb : 1 < b) (xs : List Nat) {ys : List Nat}
    (hys : ∀ y ∈ ys, y < b) (hk : ys.length ≤ k) :
    value b (xs ++ ys) / b ^ k = value b xs / b ^ (k - ys.length) := by
  have hexp : b ^ k = b ^ ys.length * b ^ (k - ys.length) := by
    rw [← pow_add, Nat.add_sub_cancel' hk]
  rw [hexp, ← Nat.div_div_eq_div_mul, value_append, Nat.mul_comm,
    Nat.mul_add_div (Nat.pow_pos (by omega)), Nat.div_eq_of_lt (value_lt hb hys), Nat.add_zero]

/-- Changing one digit leaves the low `k` digits or everything above them unchanged. -/
theorem value_low_or_high {b : Nat} (hb : 1 < b) (k : Nat) {xs ys : List Nat}
    (hx : ∀ x ∈ xs, x < b) (hy : ∀ y ∈ ys, y < b) (hlen : xs.length = ys.length)
    (h : mismatches xs ys ≤ 1) :
    value b xs % b ^ k = value b ys % b ^ k ∨ value b xs / b ^ k = value b ys / b ^ k := by
  rcases eq_or_single_of_mismatches_le_one hlen h with rfl | ⟨pre, x, y, post, rfl, rfl⟩
  · exact .inl rfl
  rcases Nat.lt_or_ge post.length k with hk | hk
  · -- the digit is one of the low `k`, so `pre` alone decides what stands above them
    right
    have hx' : ∀ z ∈ x :: post, z < b := fun z hz => hx z (by simp [hz])
    have hy' : ∀ z ∈ y :: post, z < b := fun z hz => hy z (by simp [hz])
    rw [value_append_div hb pre hx' (by simpa), value_append_div hb pre hy' (by simpa)]
    rfl
  · -- the low `k` digits all lie in `post`
    left
    rw [List.append_cons, List.append_cons pre y, value_append_mod b k _ post hk,
      value_append_mod b k _ post hk]

section Accumulator

/-- One step `(v << 4) | d` of an accumulator whose width is a multiple of four bits. -/
theorem shiftLeft_or_mod (v d m : Nat) (hd : d < 16) :
    v <<< 4 % (16 * m) ||| d = (v * 16 + d) % (16 * m) := by
  have hshift : v <<< 4 % (16 * m) = (v % m) <<< 4 := by
    rw [Nat.shiftLeft_eq, Nat.shiftLeft_eq, Nat.mul_comm v, Nat.mul_comm (v % m)]
    exact Nat.mul_mod_mul_left 16 v m
  rw [hshift, ← Nat.shiftLeft_add_eq_or_of_lt (i := 4) hd, Nat.shiftLeft_eq, Nat.mod_mul]
  have hlow : (v * 16 + d) % 16 = d := by omega
  have hhigh : (v * 16 + d) / 16 = v := by omega
  rw [hlow, hhigh]
  omega

theorem shiftLeft_or_uint8 (n : Nat) (d : UInt8) (hd : d.toNat < 16) :
    UInt8.ofNat n <<< 4 ||| d = UInt8.ofNat (n * 16 + d.toNat) := by
  apply UInt8.toNat_inj.mp
  have h := shiftLeft_or_mod (n % 256) d.toNat 16 hd
  simpa [Nat.add_mod, Nat.mul_mod] using h

theorem shiftLeft_or_uint16 (n : Nat) (d : UInt8) (hd : d.toNat < 16) :
    UInt16.ofNat n <<< 4 ||| d.toUInt16 = UInt16.ofNat (n * 16 + d.toNat) := by
  apply UInt16.toNat_inj.mp
  have h := shiftLeft_or_mod (n % 65536) d.toNat 4096 hd
  simpa [Nat.add_mod, Nat.mul_mod] using h

theorem shiftLeft_add_uint8 (n : Nat) (d : UInt8) :
    UInt8.ofNat n <<< 4 + d = UInt8.ofNat (n * 16 + d.toNat) := by
  apply UInt8.toNat_inj.mp
  simp [Nat.shiftLeft_eq, Nat.add_mod, Nat.mul_mod]

theorem shiftLeft_add_uint16 (n : Nat) (d : UInt8) :
    UInt16.ofNat n <<< 4 + d.toUInt16 = UInt16.ofNat (n * 16 + d.toNat) := by
  apply UInt16.toNat_inj.mp
  simp [Nat.shiftLeft_eq, Nat.add_mod, Nat.mul_mod]

end Accumulator

end Numeral
