import MmuFirmware.Modules.PermanentStorage
import Mathlib.Logic.Function.Iterate

/-!
The drive error counter: a high byte, and two cells the low byte is written to in turn. Every
byte is stored as its predecessor, so that erased cells count from zero.
-/
namespace MmuFirmware
namespace DriveError

variable {e : EEPROM} {n : Nat}

/-- The cells after `n` increments. The low byte before the last one is still there. -/
structure Counts (e : EEPROM) (n : Nat) : Prop where
  le : n ≤ 0xffff
  high : (e.read .driveErrorCountH).toNat = (n / 256 + 255) % 256
  latest : (e.read (.driveErrorCountL (n % 2))).toNat = (n + 255) % 256
  older : (e.read (.driveErrorCountL ((n + 1) % 2))).toNat = (n + 254) % 256 ∨
    n = 0 ∧ e.read (.driveErrorCountL ((n + 1) % 2)) = 0xff

theorem counts_erased : Counts EEPROM.erased 0 :=
  ⟨by decide, rfl, rfl, .inr ⟨rfl, rfl⟩⟩

theorem toNat_succ (b : UInt8) : (b + 1).toNat = (b.toNat + 1) % 256 := by
  rw [UInt8.toNat_add]
  rfl

theorem toNat_pred (b : UInt8) : (b - 1).toNat = (b.toNat + 255) % 256 := by
  rw [UInt8.toNat_sub]
  rw [Nat.add_comm]
  rfl

theorem getL_of_counts (h : Counts e n) : (getL e).toNat = n % 256 := by
  have hlatest := h.latest
  have holder := h.older
  have hone : ∀ b : UInt8, b = 0xff ↔ b.toNat = 255 := fun b => by
    rw [← UInt8.toNat_inj]
    rfl
  have hzero : ∀ b : UInt8, b = 0 ↔ b.toNat = 0 := fun b => by
    rw [← UInt8.toNat_inj]
    rfl
  rcases Nat.mod_two_eq_zero_or_one n with hparity | hparity
  · rw [show (n + 1) % 2 = 1 by omega] at holder
    rw [hparity] at hlatest
    simp only [getL]
    split
    · next hspecial =>
        rw [hone, hzero] at hspecial
        rw [hone] at holder
        omega
    · split
      · next hgreater =>
          rw [toNat_succ]
          omega
      · next hgreater =>
          rw [gt_iff_lt, UInt8.lt_iff_toNat_lt] at hgreater
          rw [hone] at holder
          rw [toNat_succ]
          omega
  · rw [show (n + 1) % 2 = 0 by omega] at holder
    rw [hparity] at hlatest
    simp only [getL]
    split
    · next hspecial =>
        rw [hone, hzero] at hspecial
        show 1 = n % 256
        omega
    · next hspecial =>
        rw [hone, hzero] at hspecial
        split
        · next hgreater =>
            rw [gt_iff_lt, UInt8.lt_iff_toNat_lt] at hgreater
            rw [toNat_succ]
            omega
        · rw [toNat_succ]
          omega

theorem getH_of_counts (h : Counts e n) : (getH e).toNat = n / 256 := by
  have hle := h.le
  rw [getH, toNat_succ, h.high]
  omega

/-- The number the bytes make up. -/
theorem toNat_get (e : EEPROM) : (get e).toNat = 256 * (getH e).toNat + (getL e).toNat := by
  have hhigh := (getH e).toNat_lt
  have hlow := (getL e).toNat_lt
  rw [get, UInt16.toNat_add, UInt16.toNat_shiftLeft, UInt8.toNat_toUInt16, UInt8.toNat_toUInt16,
    Nat.shiftLeft_eq]
  show ((getH e).toNat * 256 % 65536 + (getL e).toNat) % 65536 = _
  omega

theorem get_of_counts (h : Counts e n) : (get e).toNat = n := by
  rw [toNat_get, getH_of_counts h, getL_of_counts h]
  omega

theorem get_congr {e' : EEPROM} (hhigh : e.read .driveErrorCountH = e'.read .driveErrorCountH)
    (hlow : ∀ i, e.read (.driveErrorCountL i) = e'.read (.driveErrorCountL i)) :
    get e = get e' := by
  simp only [get, getL, getH, hhigh, hlow]

/-- Only the counter's own cells are written. -/
theorem read_increment_of_ne {a : Cell} (hhigh : a ≠ .driveErrorCountH)
    (hlow : ∀ i, a ≠ .driveErrorCountL i) : (increment e).read a = e.read a := by
  rw [increment]
  split
  · rw [setH, setL, Memory.read_update_of_ne _ _ hhigh, Memory.read_update_of_ne _ _ (hlow _)]
  · rfl

@[simp] theorem broken_increment : (increment e).broken = e.broken := by
  rw [increment]
  split
  · simp [setH, setL]
  · rfl

theorem writesLeft_increment (hpower : e.writesLeft = none) : (increment e).writesLeft = none := by
  rw [increment]
  split
  · simp [setH, setL, hpower]
  · exact hpower

theorem toNat_mod_two (b : UInt8) : (b % 2).toNat = b.toNat % 2 := by
  rw [UInt8.toNat_mod]
  rfl

/-- The low byte is written before the high one, in the cell whose turn it is. -/
theorem read_setH_setL (hworks : ∀ a, e.broken a = false) (lowByte highByte : UInt8) (a : Cell) :
    (setH (setL e lowByte) highByte).read a =
      if a = .driveErrorCountH ∧ e.writesLeft ≠ some 0 ∧ e.writesLeft ≠ some 1 then highByte - 1
      else if a = .driveErrorCountL (lowByte.toNat % 2) ∧ e.writesLeft ≠ some 0 then lowByte - 1
      else e.read a := by
  have hspent : (e.writesLeft.map Nat.pred ≠ some 0) ↔
      e.writesLeft ≠ some 0 ∧ e.writesLeft ≠ some 1 := by
    rcases e.writesLeft with _ | _ | _ | left <;> simp
  rw [setH, setL, Memory.read_update_of_works _ _ (by simpa using hworks _),
    Memory.read_update_of_works _ _ (hworks _), toNat_mod_two, Memory.writesLeft_update]
  simp only [hspent]

theorem read_increment (h : Counts e n) (hlt : n < 0xffff)
    (hworks : ∀ a, e.broken a = false) (a : Cell) :
    (increment e).read a =
      if a = .driveErrorCountH ∧ e.writesLeft ≠ some 0 ∧ e.writesLeft ≠ some 1 then
        UInt8.ofNat ((n + 1) / 256) - 1
      else if a = .driveErrorCountL ((n + 1) % 2) ∧ e.writesLeft ≠ some 0 then
        UInt8.ofNat (n + 1) - 1
      else e.read a := by
  have hget := get_of_counts h
  have hcount : get e < 0xffff := by
    rw [UInt16.lt_iff_toNat_lt, hget]
    exact hlt
  have hsucc : (get e + 1).toNat = n + 1 := by
    rw [UInt16.toNat_add, hget]
    show (n + 1) % 65536 = n + 1
    omega
  have hlow : (get e + 1).toUInt8 = UInt8.ofNat (n + 1) := by
    rw [← UInt8.toNat_inj, UInt16.toNat_toUInt8, hsucc]
    rfl
  have hhigh : ((get e + 1) >>> 8).toUInt8 = UInt8.ofNat ((n + 1) / 256) := by
    rw [← UInt8.toNat_inj, UInt16.toNat_toUInt8, UInt16.toNat_shiftRight, hsucc,
      Nat.shiftRight_eq_div_pow]
    rfl
  have hparity : (UInt8.ofNat (n + 1)).toNat % 2 = (n + 1) % 2 := by
    show (n + 1) % 256 % 2 = (n + 1) % 2
    omega
  rw [increment]
  simp only [hcount, if_true, hlow, hhigh]
  rw [read_setH_setL hworks, hparity]

theorem counts_increment (h : Counts e n) (hlt : n < 0xffff) (hpower : e.writesLeft = none)
    (hworks : ∀ a, e.broken a = false) : Counts (increment e) (n + 1) where
  le := hlt
  high := by
    rw [read_increment h hlt hworks, if_pos ⟨rfl, by simp [hpower], by simp [hpower]⟩, toNat_pred]
    show ((n + 1) / 256 % 256 + 255) % 256 = _
    omega
  latest := by
    rw [read_increment h hlt hworks, if_neg (by simp), if_pos ⟨rfl, by simp [hpower]⟩, toNat_pred]
    show ((n + 1) % 256 + 255) % 256 = _
    omega
  older := by
    left
    have hparity : (n + 1 + 1) % 2 = n % 2 := by omega
    have hother : n % 2 ≠ (n + 1) % 2 := by omega
    rw [read_increment h hlt hworks, if_neg (by simp), if_neg (by simp [hparity, hother]), hparity,
      h.latest]

/-- At its end the counter stays as it is. -/
theorem increment_of_full (h : Counts e n) (hfull : ¬ n < 0xffff) : increment e = e := by
  rw [increment, if_neg]
  rw [UInt16.lt_iff_toNat_lt, get_of_counts h]
  exact hfull

/-- The high byte is written after the low one. A power failure between them loses the carry,
and with it 255 errors. -/
theorem get_increment_cut (h : Counts e n) (hpower : e.writesLeft = none)
    (hworks : ∀ a, e.broken a = false) (writes : Nat) :
    if writes = 1 ∧ n < 0xffff ∧ n % 256 = 255 then (get (increment (e.cut writes))).toNat = n - 255
    else get (increment (e.cut writes)) = get e ∨ get (increment (e.cut writes)) = get (increment e) := by
  have hcut : Counts (e.cut writes) n := ⟨h.le, h.high, h.latest, h.older⟩
  by_cases hlt : n < 0xffff
  · have hread := read_increment hcut hlt (by simpa using hworks)
    have hread' := read_increment h hlt hworks
    match writes with
    | 0 =>
        rw [if_neg (by simp)]
        left
        have hcells : ∀ a, (increment (e.cut 0)).read a = e.read a := fun a => by
          rw [hread a]
          simp
        exact get_congr (hcells _) fun _ => hcells _
    | writes + 2 =>
        rw [if_neg (by simp)]
        right
        have hcells : ∀ a, (increment (e.cut (writes + 2))).read a = (increment e).read a :=
          fun a => by
            rw [hread a, hread' a]
            simp [hpower]
        exact get_congr (hcells _) fun _ => hcells _
    | 1 =>
        split
        · next hcarry =>
            obtain ⟨-, -, hlow⟩ := hcarry
            have hle := h.le
            have hcounts : Counts (increment (e.cut 1)) (n - 255) := by
              have hnew : (n - 255) % 2 = (n + 1) % 2 := by omega
              have hold : (n - 255 + 1) % 2 = n % 2 := by omega
              have hother : n % 2 ≠ (n + 1) % 2 := by omega
              refine ⟨by omega, ?_, ?_, .inl ?_⟩
              · rw [hread, if_neg (by simp), if_neg (by simp), Memory.read_cut, h.high]
                omega
              · rw [hread, if_neg (by simp), if_pos ⟨by rw [hnew], by simp⟩, toNat_pred]
                show ((n + 1) % 256 + 255) % 256 = _
                omega
              · rw [hread, if_neg (by simp), if_neg (by simp [hold, hother]), Memory.read_cut, hold,
                  h.latest]
                omega
            exact get_of_counts hcounts
        · next hcarry =>
            -- the high byte does not change
            right
            have hhigh : UInt8.ofNat ((n + 1) / 256) - 1 = e.read .driveErrorCountH := by
              rw [← UInt8.toNat_inj, h.high, toNat_pred]
              show ((n + 1) / 256 % 256 + 255) % 256 = _
              omega
            have hcells : ∀ a, (increment (e.cut 1)).read a = (increment e).read a := fun a => by
              rw [hread a, hread' a]
              by_cases ha : a = .driveErrorCountH
              · simp [ha, hhigh, hpower]
              · simp [ha, hpower]
            exact get_congr (hcells _) fun _ => hcells _
  · rw [if_neg fun hcarry => hlt hcarry.2.1, increment_of_full hcut hlt]
    exact .inl (get_congr rfl fun _ => rfl)

/-- `n` errors on an erased EEPROM. -/
theorem counts_iterate (n : Nat) :
    Counts (increment^[n] EEPROM.erased) (min n 0xffff) ∧
      (increment^[n] EEPROM.erased).writesLeft = none ∧
      ∀ a, (increment^[n] EEPROM.erased).broken a = false := by
  induction n with
  | zero => exact ⟨counts_erased, rfl, fun _ => rfl⟩
  | succ n ih =>
      obtain ⟨hcounts, hpower, hworks⟩ := ih
      rw [Function.iterate_succ_apply']
      refine ⟨?_, writesLeft_increment hpower, by simpa using hworks⟩
      by_cases hlt : min n 0xffff < 0xffff
      · have hmin : min (n + 1) 0xffff = min n 0xffff + 1 := by omega
        rw [hmin]
        exact counts_increment hcounts hlt hpower hworks
      · have hmin : min (n + 1) 0xffff = min n 0xffff := by omega
        rw [hmin, increment_of_full hcounts hlt]
        exact hcounts

/-- The counter counts, up to where a word ends: below that, and so at every carry of the low
byte, an error adds one to what is read. -/
theorem get_iterate_increment (n : Nat) :
    (get (increment^[n] EEPROM.erased)).toNat = min n 0xffff ∧
      (n < 0xffff →
        get (increment^[n + 1] EEPROM.erased) = get (increment^[n] EEPROM.erased) + 1) := by
  have hget : ∀ n, (get (increment^[n] EEPROM.erased)).toNat = min n 0xffff := fun n =>
    get_of_counts (counts_iterate n).1
  refine ⟨hget n, fun hlt => ?_⟩
  rw [← UInt16.toNat_inj, UInt16.toNat_add, hget, hget]
  show min (n + 1) 0xffff = (min n 0xffff + 1) % 65536
  omega

end DriveError
end MmuFirmware
