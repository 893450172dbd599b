import MmuFirmware.Modules.DriveErrorCount
import MmuFirmware.Modules.FaultTolerance

/-!
A reset in the middle of an update of the permanent storage. Writing a record of the loaded
filament is atomic as long as the key stays, as the data byte is then all that changes; a new
key forgets the old records before there is a first one under it. The drive error counter is
atomic unless there is a carry.
-/
namespace MmuFirmware
namespace FilamentLoaded

variable {e : EEPROM} {k : Key} {i : Nat}

/-- The status cells are written in order. -/
theorem read_setStatus_cut (hworks : ∀ a, e.broken a = false) (status : UInt8) (writes : Nat)
    {j : Nat} (hj : j < 3) :
    (setStatus (e.cut writes) status).2.read (.filamentStatus j) =
      if j < writes then status else e.read (.filamentStatus j) := by
  simp only [setStatus, List.foldl_cons, List.foldl_nil]
  rw [Memory.read_update_of_works _ _ (by simp [hworks]),
    Memory.read_update_of_works _ _ (by simp [hworks]),
    Memory.read_update_of_works _ _ (by simp [hworks])]
  simp only [Memory.writesLeft_update, Memory.writesLeft_cut, Memory.read_cut, Option.map_some,
    Cell.filamentStatus.injEq, ne_eq, Option.some.injEq, Nat.pred_eq_sub_one]
  grind

theorem writesLeft_setStatus_cut (status : UInt8) (writes : Nat) :
    (setStatus (e.cut writes) status).2.writesLeft = some (writes - 3) := by
  simp [setStatus, Nat.sub_sub]

theorem setStatus_of_powerless (h : e.writesLeft = some 0) (status : UInt8) :
    (setStatus e status).2 = e := by
  simp only [setStatus, List.foldl_cons, List.foldl_nil, Memory.update_of_powerless _ _ h]

/-- Without power nothing is recorded, whatever the loop does. -/
theorem trySet_of_powerless (h : e.writesLeft = some 0) (filament : UInt8) (tries : Nat) :
    (trySet filament tries e).2 = e := by
  induction tries with
  | zero => rfl
  | succ tries ih =>
      rw [trySet]
      simp only [setStatus_of_powerless h, Memory.update_of_powerless _ _ h]
      split
      · rfl
      · split
        · rfl
        · split
          · rfl
          · exact ih

/-- The power fails before the data byte is written. -/
theorem trySet_of_spent {status : UInt8} {index : Int} (filament : UInt8) (tries : Nat)
    (hnext : getNext (getStatus e) (getIndex e) = (status, index))
    (h : (setStatus e status).2.writesLeft = some 0) :
    (trySet filament (tries + 1) e).2 = (setStatus e status).2 := by
  rw [trySet, hnext]
  simp only [setStatus_of_powerless h, Memory.update_of_powerless _ _ h]
  split
  · rfl
  · split
    · rfl
    · split
      · rfl
      · exact trySet_of_powerless h filament tries

/-- Only the record's own cells are written. -/
theorem read_trySet_of_ne {a : Cell} (hstatus : ∀ j, a ≠ .filamentStatus j)
    (hdata : ∀ j, a ≠ .filament j) (filament : UInt8) (tries : Nat) (e : EEPROM) :
    (trySet filament tries e).2.read a = e.read a := by
  induction tries generalizing e with
  | zero => rfl
  | succ tries ih =>
      rw [trySet]
      split
      next status index hnext =>
        dsimp only
        split
        · exact read_setStatus_of_ne hstatus
        · split
          · rw [Memory.read_update_of_ne _ _ (hdata _), read_setStatus_of_ne hstatus]
          · split
            · rw [read_setStatus_of_ne hstatus, Memory.read_update_of_ne _ _ (hdata _),
                read_setStatus_of_ne hstatus]
            · rw [ih, read_setStatus_of_ne hstatus, Memory.read_update_of_ne _ _ (hdata _),
                read_setStatus_of_ne hstatus]

/-- An EEPROM without a broken cell that complete updates have led to. -/
structure Kept (e : EEPROM) : Prop where
  works : ∀ a, e.broken a = false
  powered : e.writesLeft = none
  uniform : ∀ j < 3, e.read (.filamentStatus j) = getStatus e
  cursor : Blank size 0 e ∨ ∃ c filament, Recorded size 0 filament c e

theorem Kept.device (h : Kept e) : Device size 0 e := by
  rcases h.cursor with hblank | ⟨c, filament, hrecorded⟩
  · exact hblank.device
  · exact hrecorded.device

/-- Where the next record goes. The key stays, or no cell carries the new one. -/
structure Next (e : EEPROM) (k : Key) (i : Nat) : Prop where
  lt : i < size
  goes : getNext (getStatus e) (getIndex e) = (k.toByte, (i : Int))
  key : k.toByte = getStatus e ∨ ∀ j < size, keyNibble e j ≠ k.toByte

theorem Kept.next (h : Kept e) : ∃ k i, Next e k i := by
  have hturning : ∀ k, Turning size k e → ∃ k i, Next e k i := fun k hturning =>
    ⟨k, k.place 0, k.place_lt (by decide), hturning.next,
      .inr fun j hj => (hturning.clear j hj (by omega)).1⟩
  rcases h.cursor with hblank | ⟨c, filament, hrecorded⟩
  · exact hturning _ hblank.turning
  · have hreached := hrecorded.reached
    by_cases hlt : c.last + 1 < size
    · have hsure := sure_of_healthy c
      exact ⟨c.key, c.key.place (c.last + 1), c.key.place_lt hlt,
        hreached.next hrecorded.device hlt (hsure hlt),
        .inl (getStatus_of_voted hreached.status).symm⟩
    · have hle := hreached.le
      rw [show c.last + 1 = size by omega] at hreached
      exact hturning _ (hreached.turning hrecorded.device)

theorem Next.cut (h : Next e k i) (writes : Nat) : Next (e.cut writes) k i := by
  have hstatus : getStatus (e.cut writes) = getStatus e := rfl
  have hindex : getIndex (e.cut writes) = getIndex e := getIndex_congr hstatus fun _ => rfl
  refine ⟨h.lt, ?_, h.key⟩
  rw [hstatus, hindex, h.goes]

theorem kept_erased : Kept EEPROM.erased :=
  ⟨fun _ => rfl, rfl, fun _ _ => rfl, .inl (blank_erased 0)⟩

theorem Kept.set_eq (h : Kept e) (hnext : Next e k i) (filament : UInt8) :
    (set e filament).2 = written e k i filament := by
  have hlt := hnext.lt
  rw [set, trySet_store h.device filament 2 hlt hnext.goes fun hbad => by omega]

theorem read_written_status (hworks : ∀ a, e.broken a = false) (hpower : e.writesLeft = none)
    (filament : UInt8) {j : Nat} (hj : j < 3) :
    (written e k i filament).read (.filamentStatus j) = k.toByte := by
  rw [written, Memory.read_update_of_ne _ _ (by simp), read_setStatus hpower hj (hworks _)]

theorem Kept.set (h : Kept e) (filament : UInt8) : Kept (set e filament).2 := by
  obtain ⟨k, i, hnext⟩ := h.next
  have hset := h.set_eq hnext filament
  refine ⟨?_, ?_, fun j hj => ?_, .inr ?_⟩
  · rw [hset, written, Memory.broken_update, broken_setStatus]
    exact h.works
  · rw [hset]
    exact (h.device.written filament).powered
  · rw [hset, read_written_status h.works h.powered filament hj,
      getStatus_of_voted (voted_written h.device filament)]
  · rcases h.cursor with hblank | ⟨c, old, hrecorded⟩
    · exact ⟨_, filament, (hblank.set filament).2⟩
    · have hsure := sure_of_healthy c
      exact ⟨_, filament, (hrecorded.set hsure filament).2⟩

/-- A record interrupted before its data byte is written. -/
theorem Kept.get_cut (h : Kept e) (hnext : Next e k i) (filament : UInt8) {writes : Nat}
    (hwrites : writes ≤ 3) :
    get (FilamentLoaded.set (e.cut writes) filament).2 =
      if k.toByte ≠ getStatus e ∧ 2 ≤ writes then none else get e := by
  have hdata : ∀ j, (setStatus (e.cut writes) k.toByte).2.read (.filament j) = e.read (.filament j) :=
    fun j => by rw [read_setStatus_of_ne (by simp), Memory.read_cut]
  have hcells : ∀ j < 3, (setStatus (e.cut writes) k.toByte).2.read (.filamentStatus j) =
      if j < writes then k.toByte else getStatus e := fun j hj => by
    rw [read_setStatus_cut h.works _ _ hj, h.uniform j hj]
  have hspent : (setStatus (e.cut writes) k.toByte).2.writesLeft = some 0 := by
    rw [writesLeft_setStatus_cut, Nat.sub_eq_zero_of_le hwrites]
  rw [FilamentLoaded.set, trySet_of_spent filament 2 (hnext.cut writes).goes hspent]
  split
  · next hchange =>
      obtain ⟨hchange, htwo⟩ := hchange
      have hstatus : getStatus (setStatus (e.cut writes) k.toByte).2 = k.toByte :=
        getStatus_of_voted ⟨2, fun j hj hne => by rw [hcells j hj, if_pos (by omega)]⟩
      have hclear := hnext.key.resolve_left hchange
      refine get_of_scan_zero hstatus ⟨Nat.zero_le _, fun t ht => absurd ht (Nat.not_lt_zero t), ?_⟩
      intro hsize
      rw [keyNibble, hdata, ← keyNibble]
      exact hclear _ (k.place_lt hsize)
  · next hsame =>
      refine get_congr ?_ hdata
      by_cases hstays : k.toByte = getStatus e
      · refine getStatus_of_voted ⟨3, fun j hj _ => ?_⟩
        rw [hcells j hj, hstays, ite_self]
      · have hfew : writes < 2 := by
          by_contra hmany
          exact hsame ⟨hstays, by omega⟩
        refine getStatus_of_voted ⟨0, fun j hj hne => ?_⟩
        rw [hcells j hj, if_neg (by omega)]

/-- After four writes it is complete. -/
theorem Kept.get_cut_of_le (h : Kept e) (hnext : Next e k i) (filament : UInt8) {writes : Nat}
    (hwrites : 4 ≤ writes) :
    get (FilamentLoaded.set (e.cut writes) filament).2 = get (FilamentLoaded.set e filament).2 := by
  have hcells : ∀ j < 3,
      (setStatus (e.cut writes) k.toByte).2.read (.filamentStatus j) = k.toByte := fun j hj => by
    rw [read_setStatus_cut h.works _ _ hj, if_pos (by omega)]
  have hstatus : getStatus (setStatus (e.cut writes) k.toByte).2 = k.toByte :=
    getStatus_of_voted ⟨3, fun j hj _ => hcells j hj⟩
  have hstored : (setStatus (e.cut writes) k.toByte).1 = true := by
    simpa [setStatus] using hstatus
  have hpower : (setStatus (e.cut writes) k.toByte).2.writesLeft ≠ some 0 := by
    rw [writesLeft_setStatus_cut]
    simp only [ne_eq, Option.some.injEq]
    omega
  have hdata : (written (e.cut writes) k i filament).read (.filament i) =
      rawFilament k.toByte filament :=
    Memory.read_update_self _ hpower (by simp [h.works])
  have hset : (FilamentLoaded.set (e.cut writes) filament).2 = written (e.cut writes) k i filament := by
    rw [FilamentLoaded.set, trySet_of_stored filament 2 (hnext.cut writes).goes hstored hdata]
  rw [hset, h.set_eq hnext filament]
  refine get_congr ?_ fun j => ?_
  · rw [getStatus_of_voted (voted_written h.device filament)]
    refine getStatus_of_voted ⟨3, fun j hj _ => ?_⟩
    rw [written, Memory.read_update_of_ne _ _ (by simp), hcells j hj]
  · by_cases hj : j = i
    · have hlt := hnext.lt
      rw [hj, hdata, read_written_self h.device filament hlt fun hbad => by omega]
    · rw [read_written_of_ne filament hj, read_written_of_ne filament hj, Memory.read_cut]

section Congr

variable {e' : EEPROM} {bad : Nat} {stuck filament : UInt8} {c : Cursor}

/-- The same record in an EEPROM other cells of which may have changed. -/
structure SameRecord (e e' : EEPROM) : Prop where
  broken : e'.broken = e.broken
  powered : e'.writesLeft = e.writesLeft
  status : ∀ j, e'.read (.filamentStatus j) = e.read (.filamentStatus j)
  data : ∀ j, e'.read (.filament j) = e.read (.filament j)

namespace SameRecord

theorem voted {status : UInt8} (h : SameRecord e e') (hvoted : Voted e status) : Voted e' status := by
  obtain ⟨i₀, hvoted⟩ := hvoted
  exact ⟨i₀, fun j hj hne => by rw [h.status, hvoted j hj hne]⟩

theorem getStatus_eq (h : SameRecord e e') : getStatus e' = getStatus e := by
  simp only [getStatus, h.status]

theorem device (h : SameRecord e e') (hdevice : Device bad stuck e) : Device bad stuck e' := by
  obtain ⟨hpower, hstatus, hworks, hstuck⟩ := hdevice
  refine ⟨h.powered.trans hpower, ?_, ?_, ?_⟩
  · simpa only [StatusWorks, h.broken] using hstatus
  · simpa only [h.broken] using hworks
  · simpa only [h.broken, h.data] using hstuck

theorem blank (h : SameRecord e e') (hblank : Blank bad stuck e) : Blank bad stuck e' :=
  ⟨h.device hblank.device, h.voted hblank.status,
    fun j hj hne => by rw [h.data, hblank.cells j hj hne]⟩

theorem recorded (h : SameRecord e e') (hrecorded : Recorded bad stuck filament c e) :
    Recorded bad stuck filament c e' := by
  have hnibble : ∀ j, keyNibble e' j = keyNibble e j := fun j => by
    rw [keyNibble, keyNibble, h.data]
  obtain ⟨hle, hstatus, hbefore, hahead, hbehind⟩ := hrecorded.reached
  refine ⟨h.device hrecorded.device, ⟨hle, h.voted hstatus, ?_, ?_, ?_⟩, ?_⟩
  · simpa only [hnibble] using hbefore
  · simpa only [hnibble] using hahead
  · simpa only [hnibble] using hbehind
  · rw [h.data, hrecorded.last]

theorem kept (h : SameRecord e e') (hkept : Kept e) : Kept e' := by
  refine ⟨?_, h.powered.trans hkept.powered, fun j hj => ?_, ?_⟩
  · simpa only [h.broken] using hkept.works
  · rw [h.status, h.getStatus_eq, hkept.uniform j hj]
  · exact hkept.cursor.imp h.blank fun ⟨c, filament, hrecorded⟩ => ⟨c, filament, h.recorded hrecorded⟩

end SameRecord

end Congr

end FilamentLoaded

/-- An update of a record that is written while the unit is running. -/
inductive RecordUpdate where
  | filamentLoaded (filament : UInt8)
  | driveError
  deriving DecidableEq, Repr

namespace RecordUpdate

def apply (e : EEPROM) : RecordUpdate → EEPROM
  | filamentLoaded filament => (FilamentLoaded.set e filament).2
  | driveError => DriveError.increment e

/-- The EEPROM after a reset that came after the given number of writes. -/
def interrupted (e : EEPROM) (u : RecordUpdate) (writes : Nat) : EEPROM :=
  (u.apply (e.cut writes)).restart

/-- The record goes to the first cell under another key than that of the last one. -/
def ChangesKey (e : EEPROM) : RecordUpdate → Prop
  | filamentLoaded _ =>
      (FilamentLoaded.getNext (FilamentLoaded.getStatus e) (FilamentLoaded.getIndex e)).1 ≠
        FilamentLoaded.getStatus e
  | driveError => False

/-- The low byte of the counter overflows. -/
def Carries (e : EEPROM) : RecordUpdate → Prop
  | filamentLoaded _ => False
  | driveError => DriveError.getL e = 0xff ∧ DriveError.get e < 0xffff

end RecordUpdate

/-- What complete updates lead to. -/
def EEPROM.updated (updates : List RecordUpdate) : EEPROM :=
  updates.foldl RecordUpdate.apply EEPROM.erased

section Records

variable {e : EEPROM} {n : Nat}

theorem sameRecord_increment (hpower : e.writesLeft = none) :
    FilamentLoaded.SameRecord e (DriveError.increment e) :=
  ⟨DriveError.broken_increment, by rw [DriveError.writesLeft_increment hpower, hpower],
    fun _ => DriveError.read_increment_of_ne (by simp) (by simp),
    fun _ => DriveError.read_increment_of_ne (by simp) (by simp)⟩

theorem counts_set (h : DriveError.Counts e n) (filament : UInt8) :
    DriveError.Counts (FilamentLoaded.set e filament).2 n := by
  have hread : ∀ a : Cell, (∀ j, a ≠ .filamentStatus j) → (∀ j, a ≠ .filament j) →
      (FilamentLoaded.set e filament).2.read a = e.read a := fun a hstatus hdata =>
    FilamentLoaded.read_trySet_of_ne hstatus hdata filament 3 e
  obtain ⟨hle, hhigh, hlatest, holder⟩ := h
  refine ⟨hle, ?_, ?_, ?_⟩
  · rwa [hread _ (by simp) (by simp)]
  · rwa [hread _ (by simp) (by simp)]
  · rwa [hread _ (by simp) (by simp)]

/-- Both records are in order after any complete updates. -/
theorem updated_in_order (updates : List RecordUpdate) :
    FilamentLoaded.Kept (EEPROM.updated updates) ∧
      ∃ n, DriveError.Counts (EEPROM.updated updates) n := by
  induction updates using List.reverseRecOn with
  | nil => exact ⟨FilamentLoaded.kept_erased, 0, DriveError.counts_erased⟩
  | append_singleton updates u ih =>
      obtain ⟨hkept, n, hcounts⟩ := ih
      rw [EEPROM.updated, List.foldl_append, List.foldl_cons, List.foldl_nil, ← EEPROM.updated]
      cases u with
      | filamentLoaded filament => exact ⟨hkept.set filament, n, counts_set hcounts filament⟩
      | driveError =>
          refine ⟨(sameRecord_increment hkept.powered).kept hkept, ?_⟩
          by_cases hlt : n < 0xffff
          · exact ⟨n + 1, DriveError.counts_increment hcounts hlt hkept.powered hkept.works⟩
          · exact ⟨n, by rwa [RecordUpdate.apply, DriveError.increment_of_full hcounts hlt]⟩

theorem get_restart (e : EEPROM) : FilamentLoaded.get e.restart = FilamentLoaded.get e :=
  FilamentLoaded.get_congr rfl fun _ => rfl

theorem driveError_get_restart (e : EEPROM) : DriveError.get e.restart = DriveError.get e :=
  DriveError.get_congr rfl fun _ => rfl

theorem get_interrupted_set (h : FilamentLoaded.Kept e) (filament : UInt8) (writes : Nat) :
    (RecordUpdate.ChangesKey e (.filamentLoaded filament) ∧ (writes = 2 ∨ writes = 3) →
      FilamentLoaded.get (RecordUpdate.interrupted e (.filamentLoaded filament) writes) = none) ∧
    (¬ (RecordUpdate.ChangesKey e (.filamentLoaded filament) ∧ (writes = 2 ∨ writes = 3)) →
      FilamentLoaded.get (RecordUpdate.interrupted e (.filamentLoaded filament) writes) =
          FilamentLoaded.get e ∨
        FilamentLoaded.get (RecordUpdate.interrupted e (.filamentLoaded filament) writes) =
          FilamentLoaded.get (RecordUpdate.apply e (.filamentLoaded filament))) := by
  obtain ⟨k, i, hnext⟩ := h.next
  simp only [RecordUpdate.ChangesKey, RecordUpdate.interrupted, RecordUpdate.apply, get_restart,
    hnext.goes]
  by_cases hwrites : writes ≤ 3
  · rw [h.get_cut hnext filament hwrites]
    constructor
    · rintro ⟨hchange, htwo⟩
      rw [if_pos ⟨hchange, by omega⟩]
    · intro hkeeps
      left
      rw [if_neg]
      rintro ⟨hchange, htwo⟩
      exact hkeeps ⟨hchange, by omega⟩
  · rw [h.get_cut_of_le hnext filament (by omega)]
    exact ⟨fun ⟨_, htwo⟩ => by omega, fun _ => .inr rfl⟩

/-- What a restart finds after a reset in the middle of an update. The loaded filament is as it
was or as it is to be, unless the key has changed already and the data byte is not written.
The error count is as it was or as it is to be, unless the carry is lost. -/
theorem get_interrupted (updates : List RecordUpdate) (u : RecordUpdate) (writes : Nat) :
    let before := EEPROM.updated updates
    let torn := u.interrupted before writes
    let after := u.apply before
    (u.ChangesKey before ∧ (writes = 2 ∨ writes = 3) → FilamentLoaded.get torn = none) ∧
    (¬ (u.ChangesKey before ∧ (writes = 2 ∨ writes = 3)) →
      FilamentLoaded.get torn = FilamentLoaded.get before ∨
        FilamentLoaded.get torn = FilamentLoaded.get after) ∧
    (u.Carries before ∧ writes = 1 →
      (DriveError.get torn).toNat = (DriveError.get before).toNat - 255) ∧
    (¬ (u.Carries before ∧ writes = 1) →
      DriveError.get torn = DriveError.get before ∨ DriveError.get torn = DriveError.get after) := by
  intro before torn after
  obtain ⟨hkept, n, hcounts⟩ := updated_in_order updates
  cases u with
  | filamentLoaded filament =>
      obtain ⟨hchange, hkeep⟩ := get_interrupted_set hkept filament writes
      refine ⟨hchange, hkeep, fun h => absurd h.1 id, fun _ => .inl ?_⟩
      have hread : ∀ a : Cell, (∀ j, a ≠ .filamentStatus j) → (∀ j, a ≠ .filament j) →
          torn.read a = before.read a := fun a hstatus hdata =>
        FilamentLoaded.read_trySet_of_ne hstatus hdata filament 3 (before.cut writes)
      exact DriveError.get_congr (hread _ (by simp) (by simp)) fun _ => hread _ (by simp) (by simp)
  | driveError =>
      have hlow : DriveError.getL before = 0xff ↔ n % 256 = 255 := by
        rw [← UInt8.toNat_inj, DriveError.getL_of_counts hcounts]
        rfl
      have hlt : DriveError.get before < 0xffff ↔ n < 0xffff := by
        rw [UInt16.lt_iff_toNat_lt, DriveError.get_of_counts hcounts]
        rfl
      have hcut := DriveError.get_increment_cut hcounts hkept.powered hkept.works writes
      refine ⟨fun h => absurd h.1 id, fun _ => .inl ?_, ?_, ?_⟩
      · have hread : ∀ a : Cell, a ≠ .driveErrorCountH → (∀ j, a ≠ .driveErrorCountL j) →
            torn.read a = before.read a := fun a hhigh hlow =>
          (DriveError.read_increment_of_ne hhigh hlow : (DriveError.increment _).read a = _)
        refine FilamentLoaded.get_congr ?_ fun _ => hread _ (by simp) (by simp)
        simp only [FilamentLoaded.getStatus, hread (.filamentStatus _) (by simp) (by simp)]
      · rintro ⟨⟨hoverflow, hcount⟩, hone⟩
        rw [if_pos ⟨hone, hlt.mp hcount, hlow.mp hoverflow⟩] at hcut
        rw [DriveError.get_of_counts hcounts]
        exact (congrArg UInt16.toNat (driveError_get_restart _)).trans hcut
      · intro hcarry
        rw [if_neg fun h => hcarry ⟨⟨hlow.mpr h.2.2, hlt.mpr h.2.1⟩, h.1⟩] at hcut
        exact hcut.imp (driveError_get_restart _).trans (driveError_get_restart _).trans

/-- The first pass over the cells. -/
theorem recorded_first_pass (filament : UInt8) {m : Nat} (hlt : m < FilamentLoaded.size) :
    FilamentLoaded.Recorded FilamentLoaded.size 0 filament ⟨.keyFront1, m⟩
      (EEPROM.updated (List.replicate (m + 1) (.filamentLoaded filament))) := by
  induction m with
  | zero => exact ((FilamentLoaded.blank_erased 0).set filament).2
  | succ m ih =>
      have hbefore := ih (by omega)
      have hsure := FilamentLoaded.sure_of_healthy
      have hrecorded := (hbefore.set (hsure _) filament).2
      have hplace : FilamentLoaded.Key.keyFront1.place (m + 1) ≠ FilamentLoaded.size :=
        Nat.ne_of_lt hlt
      rw [FilamentLoaded.Cursor.next, if_pos hlt, if_neg hplace] at hrecorded
      rw [List.replicate_succ', EEPROM.updated, List.foldl_append]
      exact hrecorded

theorem counts_replicate {m : Nat} (hle : m ≤ 0xffff) :
    DriveError.Counts (EEPROM.updated (List.replicate m .driveError)) m := by
  induction m with
  | zero => exact DriveError.counts_erased
  | succ m ih =>
      obtain ⟨hkept, -⟩ := updated_in_order (List.replicate m .driveError)
      rw [List.replicate_succ', EEPROM.updated, List.foldl_append]
      exact DriveError.counts_increment (ih (by omega)) hle hkept.powered hkept.works

/-- When the cells are full a reset can forget the loaded filament, and at the 256th error one
can set the count back to zero. -/
theorem not_get_interrupted :
    (¬ ∀ (updates : List RecordUpdate) (u : RecordUpdate) (writes : Nat),
      FilamentLoaded.get (u.interrupted (.updated updates) writes) =
          FilamentLoaded.get (.updated updates) ∨
        FilamentLoaded.get (u.interrupted (.updated updates) writes) =
          FilamentLoaded.get (u.apply (.updated updates))) ∧
    ¬ ∀ (updates : List RecordUpdate) (u : RecordUpdate) (writes : Nat),
      DriveError.get (u.interrupted (.updated updates) writes) =
          DriveError.get (.updated updates) ∨
        DriveError.get (u.interrupted (.updated updates) writes) =
          DriveError.get (u.apply (.updated updates)) := by
  constructor
  · intro h
    obtain ⟨m, hm⟩ : ∃ m, m + 1 = FilamentLoaded.size := ⟨799, rfl⟩
    have hfull := recorded_first_pass 0 (m := m) (by omega)
    have hsure := FilamentLoaded.sure_of_healthy
    obtain ⟨hkept, -⟩ := updated_in_order (List.replicate (m + 1) (.filamentLoaded 0))
    have hbefore := hfull.get (hsure _)
    have hafter := (hfull.set (hsure _) 0).2.get (hsure _)
    generalize List.replicate (m + 1) (RecordUpdate.filamentLoaded 0) = updates
      at hfull hkept hbefore hafter
    have hreached := hfull.reached
    dsimp only at hreached
    rw [hm] at hreached
    have hchange : RecordUpdate.ChangesKey (.updated updates) (.filamentLoaded 0) := by
      rw [RecordUpdate.ChangesKey, (hreached.turning hfull.device).next,
        FilamentLoaded.getStatus_of_voted hreached.status]
      decide
    have htorn := (get_interrupted_set hkept 0 2).1 ⟨hchange, .inl rfl⟩
    rcases h updates (.filamentLoaded 0) 2 with heq | heq
    · exact absurd (htorn.symm.trans (heq.trans hbefore)) (by decide)
    · exact absurd (htorn.symm.trans (heq.trans hafter)) (by decide)
  · intro h
    obtain ⟨m, hm⟩ : ∃ m, m = 255 := ⟨_, rfl⟩
    have hbefore := counts_replicate (m := m) (by omega)
    have hafter := counts_replicate (m := m + 1) (by omega)
    obtain ⟨hkept, -⟩ := updated_in_order (List.replicate m .driveError)
    have htorn := DriveError.get_increment_cut hbefore hkept.powered hkept.works 1
    rw [if_pos ⟨rfl, by omega, by omega⟩] at htorn
    rw [List.replicate_succ', EEPROM.updated, List.foldl_append, ← EEPROM.updated] at hafter
    generalize List.replicate m RecordUpdate.driveError = updates at hbefore hafter hkept htorn
    have hinterrupted : DriveError.get (RecordUpdate.interrupted (.updated updates) .driveError 1) =
        DriveError.get (DriveError.increment ((EEPROM.updated updates).cut 1)) :=
      driveError_get_restart _
    rcases h updates .driveError 1 with heq | heq
    · rw [← hinterrupted, heq, DriveError.get_of_counts hbefore] at htorn
      omega
    · have hcount := DriveError.get_of_counts hafter
      rw [← hinterrupted, heq] at htorn
      exact absurd (htorn.symm.trans hcount) (by omega)

end Records

end MmuFirmware
