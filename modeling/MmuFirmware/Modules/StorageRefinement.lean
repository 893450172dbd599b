import MmuFirmware.Modules.TornWrites

/-!
The permanent storage as the rest of the firmware sees it: a filament, or none, and the three
bytes of the error counter. On a healthy EEPROM the bytes follow this storage through every
update, so that what is proved about it is true of them.
-/
namespace MmuFirmware

/-- The cells stand for this storage. -/
structure PermanentStorage.Stored (s : PermanentStorage) (e : EEPROM) : Prop where
  kept : FilamentLoaded.Kept e
  record : (s.filamentLoaded = none ∧ FilamentLoaded.Blank FilamentLoaded.size 0 e) ∨
    ∃ filament c, s.filamentLoaded = some (filament &&& 0x0f) ∧
      FilamentLoaded.Recorded FilamentLoaded.size 0 filament c e
  high : e.read .driveErrorCountH = s.driveErrorCountH
  low : e.read (.driveErrorCountL 0) = s.driveErrorCountL0
  low' : e.read (.driveErrorCountL 1) = s.driveErrorCountL1

namespace PermanentStorage.Stored

variable {s : PermanentStorage} {e : EEPROM}

theorem erased : PermanentStorage.erased.Stored EEPROM.erased :=
  ⟨FilamentLoaded.kept_erased, .inl ⟨rfl, FilamentLoaded.blank_erased 0⟩, rfl, rfl, rfl⟩

/-- What is read back is the recorded filament, if it is one. -/
theorem get_eq (h : s.Stored e) :
    FilamentLoaded.get e = s.filamentLoaded.filter (· < Config.toolCount) := by
  rcases h.record with ⟨hnone, hblank⟩ | ⟨filament, c, hsome, hrecorded⟩
  · rw [hnone, hblank.get]
    rfl
  · have hsure := FilamentLoaded.sure_of_healthy c
    rw [hsome, hrecorded.get hsure, FilamentLoaded.recorded]
    by_cases hlt : filament &&& 0x0f < Config.toolCount
    · rw [if_neg (by simpa using hlt)]
      simp [Option.filter, hlt]
    · rw [if_pos (by simpa using hlt)]
      simp [Option.filter, hlt]

theorem setFilamentLoaded (h : s.Stored e) (filament : UInt8) :
    (s.setFilamentLoaded filament).Stored (FilamentLoaded.set e filament).2 := by
  have hread : ∀ a : Cell, (∀ j, a ≠ .filamentStatus j) → (∀ j, a ≠ .filament j) →
      (FilamentLoaded.set e filament).2.read a = e.read a := fun a hstatus hdata =>
    FilamentLoaded.read_trySet_of_ne hstatus hdata filament 3 e
  refine ⟨h.kept.set filament, .inr ?_, ?_, ?_, ?_⟩
  · rcases h.record with ⟨-, hblank⟩ | ⟨old, c, -, hrecorded⟩
    · exact ⟨filament, _, rfl, (hblank.set filament).2⟩
    · have hsure := FilamentLoaded.sure_of_healthy c
      exact ⟨filament, _, rfl, (hrecorded.set hsure filament).2⟩
  · rw [hread _ (by simp) (by simp), h.high]
    rfl
  · rw [hread _ (by simp) (by simp), h.low]
    rfl
  · rw [hread _ (by simp) (by simp), h.low']
    rfl

theorem driveError_eq (h : s.Stored e) : DriveError.get e = s.driveError := by
  simp only [DriveError.get, DriveError.getH, DriveError.getL, h.high, h.low, h.low', driveError,
    driveErrorL]

theorem cells_incrementDriveError (h : s.Stored e) :
    (DriveError.increment e).read .driveErrorCountH = s.incrementDriveError.driveErrorCountH ∧
      (DriveError.increment e).read (.driveErrorCountL 0) =
        s.incrementDriveError.driveErrorCountL0 ∧
      (DriveError.increment e).read (.driveErrorCountL 1) =
        s.incrementDriveError.driveErrorCountL1 := by
  rw [DriveError.increment, PermanentStorage.incrementDriveError, ← h.driveError_eq]
  split
  · simp only [DriveError.read_setH_setL h.kept.works, h.kept.powered, setDriveErrorL]
    generalize (DriveError.get e + 1).toUInt8 = lowByte
    have heven : lowByte % 2 = 0 ↔ lowByte.toNat % 2 = 0 := by
      rw [← UInt8.toNat_inj, DriveError.toNat_mod_two]
      rfl
    simp only [heven]
    rcases Nat.mod_two_eq_zero_or_one lowByte.toNat with heq | heq
    · simp [heq, h.low']
    · simp [heq, h.low]
  · exact ⟨h.high, h.low, h.low'⟩

theorem incrementDriveError (h : s.Stored e) :
    s.incrementDriveError.Stored (DriveError.increment e) := by
  have hsame := sameRecord_increment h.kept.powered
  obtain ⟨hhigh, hlow, hlow'⟩ := h.cells_incrementDriveError
  refine ⟨hsame.kept h.kept, ?_, hhigh, hlow, hlow'⟩
  rw [filamentLoaded_incrementDriveError]
  rcases h.record with ⟨hnone, hblank⟩ | ⟨filament, c, hsome, hrecorded⟩
  · exact .inl ⟨hnone, hsame.blank hblank⟩
  · exact .inr ⟨filament, c, hsome, hsame.recorded hrecorded⟩

/-- A restart finds the active slot the storage stands for. -/
theorem init_activeSlot (h : s.Stored e) :
    (Globals.init s).activeSlot = (FilamentLoaded.get e).getD Config.toolCount := by
  rw [h.get_eq]
  simp only [Globals.init]
  cases s.filamentLoaded with
  | none => rfl
  | some filament =>
      by_cases hlt : filament < Config.toolCount
      · simp [hlt, Option.filter]
      · simp [hlt, Option.filter]

end PermanentStorage.Stored

end MmuFirmware
