import MmuFirmware.Modules.PermanentStorage
import Mathlib.Data.List.Range
import Mathlib.Tactic.ByContra

/-!
The record of the loaded filament as a cursor that runs over the data cells: from the first
to the last and back, under four keys in turn. A cell is named by how far it is away from
where the cursor starts under a key, so that both directions are treated as one. One data
cell may be bad: the cursor turns in front of it, or takes it for written already when the
byte it is stuck at happens to carry the key.
-/
namespace MmuFirmware
namespace FilamentLoaded

section Keys

namespace Key

theorem toByte_injective : Function.Injective toByte := by
  intro k k' h
  cases k <;> cases k' <;> first | rfl | exact absurd h (by decide)

@[simp] theorem toByte_inj {k k' : Key} : k.toByte = k'.toByte ↔ k = k' :=
  toByte_injective.eq_iff

@[simp] theorem ofByte?_toByte (k : Key) : ofByte? k.toByte = some k := by
  cases k <;> rfl

def isFront : Key → Bool
  | keyFront1 | keyFront2 => true
  | keyReverse1 | keyReverse2 => false

@[simp] theorem isFront_next (k : Key) : k.next.isFront = !k.isFront := by
  cases k <;> rfl

/-- Three keys in a row are different. -/
theorem next_ne (k : Key) : k.next ≠ k ∧ k.next.next ≠ k ∧ k.next.next.next ≠ k := by
  cases k <;> decide

/-- The cell the cursor comes to after `t` others. -/
def place (k : Key) (t : Nat) : Nat := if k.isFront then t else size - 1 - t

theorem place_lt (k : Key) {t : Nat} (h : t < size) : k.place t < size := by
  rw [place]
  split
  · exact h
  · rw [size] at h ⊢
    omega

theorem place_place (k : Key) {t : Nat} (h : t < size) : k.place (k.place t) = t := by
  simp only [place]
  split
  · rfl
  · rw [size] at h ⊢
    omega

theorem place_inj (k : Key) {t t' : Nat} (h : t < size) (h' : t' < size) :
    k.place t = k.place t' ↔ t = t' := by
  constructor
  · intro heq
    rw [← k.place_place h, heq, k.place_place h']
  · rintro rfl
    rfl

/-- The next key runs the other way. -/
theorem place_next (k : Key) {t : Nat} (h : t < size) :
    k.next.place t = k.place (size - 1 - t) := by
  simp only [place, isFront_next]
  rw [size] at h ⊢
  cases k.isFront
  · simp only [Bool.not_false, if_true, Bool.false_eq_true, if_false]
    omega
  · simp

end Key

@[simp] theorem getNextStatus_toByte (k : Key) : getNextStatus k.toByte = k.next.toByte := by
  simp [getNextStatus]

theorem toNat_and_nibble (b : UInt8) : (b &&& 0x0f).toNat = b.toNat % 16 := by
  rw [UInt8.toNat_and]
  exact Nat.and_two_pow_sub_one_eq_mod b.toNat 4

theorem toNat_shiftRight_nibble (b : UInt8) : (b >>> 4).toNat = b.toNat / 16 := by
  rw [UInt8.toNat_shiftRight]
  exact Nat.shiftRight_eq_div_pow b.toNat 4

/-- A data byte carries its key and the low bits of the filament. -/
theorem rawFilament_spec (k : Key) (filament : UInt8) :
    rawFilament k.toByte filament >>> 4 = k.toByte ∧
      rawFilament k.toByte filament &&& 0x0f = filament &&& 0x0f := by
  have hkey : k.toByte.toNat < 4 := by cases k <;> decide
  have hhigh : (k.toByte <<< 4 &&& 0xf0).toNat = k.toByte.toNat * 16 := by cases k <;> decide
  have hraw : (rawFilament k.toByte filament).toNat = k.toByte.toNat * 16 + filament.toNat % 16 := by
    rw [rawFilament, UInt8.toNat_add, hhigh, toNat_and_nibble]
    omega
  constructor
  · rw [← UInt8.toNat_inj, toNat_shiftRight_nibble, hraw]
    omega
  · rw [← UInt8.toNat_inj, toNat_and_nibble, toNat_and_nibble, hraw]
    omega

end Keys

section Status

variable {e : EEPROM} {status : UInt8}

/-- Two of the three status cells agree, whatever the third one holds. -/
def Voted (e : EEPROM) (status : UInt8) : Prop :=
  ∃ i₀, ∀ i < 3, i ≠ i₀ → e.read (.filamentStatus i) = status

theorem getStatus_of_voted (h : Voted e status) : getStatus e = status := by
  obtain ⟨i₀, h⟩ := h
  have h₀ := h 0 (by omega)
  have h₁ := h 1 (by omega)
  have h₂ := h 2 (by omega)
  simp only [getStatus]
  grind

/-- At most one of the three status cells is broken. -/
def StatusWorks (e : EEPROM) : Prop := ∃ i₀, ∀ i < 3, i ≠ i₀ → e.broken (.filamentStatus i) = false

theorem read_setStatus_of_ne {a : Cell} (h : ∀ i, a ≠ .filamentStatus i) :
    (setStatus e status).2.read a = e.read a := by
  simp only [setStatus, List.foldl_cons, List.foldl_nil]
  rw [Memory.read_update_of_ne _ _ (h 2), Memory.read_update_of_ne _ _ (h 1),
    Memory.read_update_of_ne _ _ (h 0)]

@[simp] theorem broken_setStatus : (setStatus e status).2.broken = e.broken := by
  simp [setStatus]

theorem writesLeft_setStatus (hpower : e.writesLeft = none) :
    (setStatus e status).2.writesLeft = none := by
  simp [setStatus, hpower]

theorem read_setStatus (hpower : e.writesLeft = none) {i : Nat} (hi : i < 3)
    (hworks : e.broken (.filamentStatus i) = false) :
    (setStatus e status).2.read (.filamentStatus i) = status := by
  simp only [setStatus, List.foldl_cons, List.foldl_nil]
  have hself : ∀ e' : EEPROM, e'.writesLeft = none → e'.broken = e.broken →
      (e'.update (.filamentStatus i) status).read (.filamentStatus i) = status := by
    intro e' hpower' hbroken
    refine Memory.read_update_self _ ?_ (by rwa [hbroken])
    simp [hpower']
  have hi : i = 0 ∨ i = 1 ∨ i = 2 := by omega
  rcases hi with rfl | rfl | rfl
  · rw [Memory.read_update_of_ne _ _ (by simp), Memory.read_update_of_ne _ _ (by simp)]
    exact hself _ hpower rfl
  · rw [Memory.read_update_of_ne _ _ (by simp)]
    exact hself _ (by simp [hpower]) (by simp)
  · exact hself _ (by simp [hpower]) (by simp)

theorem voted_setStatus (hpower : e.writesLeft = none) (hworks : StatusWorks e) :
    Voted (setStatus e status).2 status := by
  obtain ⟨i₀, hworks⟩ := hworks
  exact ⟨i₀, fun i hi hne => read_setStatus hpower hi (hworks i hi hne)⟩

theorem setStatus_stored (hpower : e.writesLeft = none) (hworks : StatusWorks e) :
    (setStatus e status).1 = true := by
  have hvoted : Voted (setStatus e status).2 status := voted_setStatus hpower hworks
  simpa [setStatus] using getStatus_of_voted hvoted

end Status

/-- What is recorded depends on the status and on what the data cells hold, and on nothing
else. -/
theorem getIndex_congr {e e' : EEPROM} (hstatus : getStatus e = getStatus e')
    (hdata : ∀ i, e.read (.filament i) = e'.read (.filament i)) : getIndex e = getIndex e' := by
  have hnibble : ∀ i, keyNibble e i = keyNibble e' i := fun i => by
    rw [keyNibble, keyNibble, hdata]
  simp only [getIndex, hstatus, hnibble]

theorem get_congr {e e' : EEPROM} (hstatus : getStatus e = getStatus e')
    (hdata : ∀ i, e.read (.filament i) = e'.read (.filament i)) : get e = get e' := by
  simp only [get, getIndex_congr hstatus hdata, hstatus, hdata]

section Scan

variable {e : EEPROM} {k : Key} {s : Nat}

/-- An index that may lie one cell outside. -/
def Key.index (k : Key) (t : Int) : Int := if k.isFront then t else size - 1 - t

/-- The cells a search passes over, and the one it stops at. -/
structure Scan (e : EEPROM) (k : Key) (s : Nat) : Prop where
  le : s ≤ size
  before : ∀ t < s, keyNibble e (k.place t) = k.toByte
  stop : s < size → keyNibble e (k.place s) ≠ k.toByte

theorem find_mismatch (h : Scan e k s) :
    ((List.range size).find? fun t => k.toByte != keyNibble e (k.place t)) =
      if s < size then some s else none := by
  split
  · next hs =>
      rw [List.find?_range_eq_some]
      refine ⟨?_, List.mem_range.mpr hs, fun t ht => ?_⟩
      · simpa using (h.stop hs).symm
      · simpa using (h.before t ht).symm
  · next hs =>
      rw [List.find?_range_eq_none]
      intro t ht
      simpa using (h.before t (by omega)).symm

theorem getIndex_of_scan (hstatus : getStatus e = k.toByte) (h : Scan e k s) :
    getIndex e = k.index (s - 1) := by
  have hfind := find_mismatch h
  have hle := h.le
  have hreverse : (List.range size).reverse = (List.range size).map fun t => size - 1 - t := by
    rw [List.range_eq_range', List.reverse_range', ← List.range_eq_range']
    simp
  rw [getIndex, hstatus, Key.ofByte?_toByte]
  cases k with
  | keyFront1 | keyFront2 =>
      simp only [Key.place, Key.isFront, if_true] at hfind
      simp only [hfind, Key.index, Key.isFront, if_true]
      split <;> simp only [size] at * <;> grind
  | keyReverse1 | keyReverse2 =>
      simp only [Key.place, Key.isFront, Bool.false_eq_true, if_false] at hfind
      rw [hreverse, List.find?_map]
      simp only [Function.comp_def, hfind, Key.index, Key.isFront, Bool.false_eq_true, if_false]
      split <;> simp only [size] at * <;> grind

/-- The cell a record goes to: the one the search stopped at, or the first one under the
next key. -/
theorem getNext_of_scan (hstatus : getStatus e = k.toByte) (h : Scan e k s) :
    getNext (getStatus e) (getIndex e) =
      if s < size then (k.toByte, (k.place s : Int)) else (k.next.toByte, (k.next.place 0 : Int)) := by
  rw [getIndex_of_scan hstatus h, hstatus, getNext, Key.ofByte?_toByte, getNextStatus_toByte]
  have hle := h.le
  have hsize : size = 800 := rfl
  by_cases hs : s < size
  · rw [if_pos hs]
    cases k with
    | keyFront1 | keyFront2 =>
        simp only [Key.index, Key.place, Key.isFront, if_true]
        rw [if_neg (by omega), Int.sub_add_cancel]
    | keyReverse1 | keyReverse2 =>
        simp only [Key.index, Key.place, Key.isFront, Bool.false_eq_true, if_false]
        rw [if_neg (by omega)]
        congr 1
        omega
  · rw [if_neg hs]
    cases k with
    | keyFront1 | keyFront2 =>
        simp only [Key.index, Key.place, Key.isFront, Key.next, if_true, Bool.false_eq_true, if_false]
        rw [if_pos (by omega)]
        congr 1
    | keyReverse1 | keyReverse2 =>
        simp only [Key.index, Key.place, Key.isFront, Key.next, if_true, Bool.false_eq_true, if_false]
        rw [if_pos (by omega)]
        congr 1

end Scan

end FilamentLoaded
end MmuFirmware
