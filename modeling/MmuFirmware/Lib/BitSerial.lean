import Mathlib.Data.List.Induction

/-!
Words that are built bit by bit, the most significant bit first: what a word holds after a list
of bits was shifted into it. A register that a wire feeds and a word that a loop packs are both
of this kind.
-/

namespace BitSerial

variable {w : Nat}

def shifted (word : BitVec w) (bit : Bool) : BitVec w :=
  word <<< 1 ||| (BitVec.ofBool bit).setWidth w

theorem getLsbD_shifted_zero (word : BitVec w) (bit : Bool) (hw : 0 < w) :
    (shifted word bit).getLsbD 0 = bit := by
  simp [shifted, hw]

theorem getLsbD_shifted_succ (word : BitVec w) (bit : Bool) {k : Nat} (hk : k + 1 < w) :
    (shifted word bit).getLsbD (k + 1) = word.getLsbD k := by
  simp [shifted, hk, BitVec.getLsbD_eq_getElem (Nat.lt_of_succ_lt hk)]

def shiftIn (word : BitVec w) (bits : List Bool) : BitVec w := bits.foldl shifted word

/-- The bits shifted in are the lowest ones, the last of them the lowest; the others moved up. -/
theorem getLsbD_shiftIn (bits : List Bool) (word : BitVec w) {k : Nat} (hk : k < w) :
    (shiftIn word bits).getLsbD k = bits.reverse[k]?.getD (word.getLsbD (k - bits.length)) := by
  induction bits using List.reverseRecOn generalizing k with
  | nil => rfl
  | append_singleton bits bit ih =>
      rw [shiftIn, List.foldl_append, List.foldl_cons, List.foldl_nil, List.reverse_append,
        List.length_append]
      cases k with
      | zero => exact getLsbD_shifted_zero _ bit hk
      | succ k =>
          rw [getLsbD_shifted_succ _ bit hk]
          simpa [shiftIn] using ih (Nat.lt_of_succ_lt hk)

/-- The lowest bits of a word, the most significant first. -/
def msbFirst (v : BitVec w) (n : Nat) : List Bool := ((List.range n).map v.getLsbD).reverse

theorem msbFirst_succ (v : BitVec w) (n : Nat) :
    msbFirst v (n + 1) = v.getLsbD n :: msbFirst v n := by
  simp [msbFirst, List.range_succ]

/-- A whole word shifted in displaces what was there. -/
theorem shiftIn_msbFirst (word v : BitVec w) : shiftIn word (msbFirst v w) = v := by
  apply BitVec.eq_of_getLsbD_eq
  intro k hk
  rw [getLsbD_shiftIn _ _ hk, msbFirst, List.reverse_reverse, List.getElem?_map,
    List.getElem?_range hk]
  rfl

end BitSerial
