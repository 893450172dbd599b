import MmuFirmware.Lib.Transducer
import MmuFirmware.Modules.WearLevelling

/-!
What the record of the loaded filament gives back, over whole histories of writes. The
cursor machine says where a write goes; the byte level follows it, on a device one data cell
of which may be stuck.
-/
namespace MmuFirmware
namespace FilamentLoaded

/-- At most one status cell is broken, and no data cell but `bad`, which is stuck. Where `bad`
is not an index there is no such cell. -/
structure Device (bad : Nat) (stuck : UInt8) (e : EEPROM) : Prop where
  powered : e.writesLeft = none
  status : StatusWorks e
  works : ∀ i, i ≠ bad → e.broken (.filament i) = false
  stuck : bad < size → e.broken (.filament bad) = true ∧ e.read (.filament bad) = stuck

section Bytes

variable {bad : Nat} {stuck : UInt8} {e : EEPROM} {k : Key} {i : Nat}

theorem Device.setStatus (h : Device bad stuck e) (status : UInt8) :
    Device bad stuck (setStatus e status).2 where
  powered := writesLeft_setStatus h.powered
  status := by simpa only [StatusWorks, broken_setStatus] using h.status
  works := by simpa only [broken_setStatus] using h.works
  stuck hbad := by
    rw [broken_setStatus, read_setStatus_of_ne (by simp)]
    exact h.stuck hbad

theorem Device.update (h : Device bad stuck e) (i : Nat) (v : UInt8) :
    Device bad stuck (e.update (.filament i) v) where
  powered := by simp [h.powered]
  status := by simpa only [StatusWorks, Memory.broken_update] using h.status
  works := by simpa only [Memory.broken_update] using h.works
  stuck hbad := by
    obtain ⟨hbroken, hread⟩ := h.stuck hbad
    refine ⟨by simpa only [Memory.broken_update] using hbroken, ?_⟩
    by_cases hi : i = bad
    · rw [hi, Memory.read_update_broken _ _ hbroken, hread]
    · rw [Memory.read_update_of_ne _ _ (by simpa using Ne.symm hi), hread]

theorem Voted.update {status : UInt8} (h : Voted e status) (i : Nat) (v : UInt8) :
    Voted (e.update (.filament i) v) status := by
  obtain ⟨i₀, h⟩ := h
  refine ⟨i₀, fun j hj hne => ?_⟩
  rw [Memory.read_update_of_ne _ _ (by simp), h j hj hne]

/-- The state after a status and a data byte have been written. -/
def written (e : EEPROM) (k : Key) (i : Nat) (filament : UInt8) : EEPROM :=
  (setStatus e k.toByte).2.update (.filament i) (rawFilament k.toByte filament)

theorem Device.written (h : Device bad stuck e) (filament : UInt8) :
    Device bad stuck (written e k i filament) :=
  (h.setStatus k.toByte).update i _

theorem voted_written (h : Device bad stuck e) (filament : UInt8) :
    Voted (written e k i filament) k.toByte :=
  (voted_setStatus h.powered h.status).update i _

theorem read_written_of_ne (filament : UInt8) {j : Nat} (hj : j ≠ i) :
    (written e k i filament).read (.filament j) = e.read (.filament j) := by
  rw [written, Memory.read_update_of_ne _ _ (by simpa using hj), read_setStatus_of_ne (by simp)]

/-- The cell takes the byte if it works, and shows it if it is stuck at it. -/
theorem read_written_self (h : Device bad stuck e) (filament : UInt8) (hi : i < size)
    (hstored : i = bad → rawFilament k.toByte filament = stuck) :
    (written e k i filament).read (.filament i) = rawFilament k.toByte filament := by
  have hdevice := h.setStatus k.toByte
  by_cases hbad : i = bad
  · subst hbad
    obtain ⟨hbroken, hread⟩ := hdevice.stuck hi
    rw [written, Memory.read_update_broken _ _ hbroken, hread, hstored rfl]
  · exact Memory.read_update_self _ (by simp [hdevice.powered]) (hdevice.works i hbad)

theorem read_written_stuck (h : Device bad stuck e) (filament : UInt8) (hbad : bad < size) :
    (written e k bad filament).read (.filament bad) = stuck :=
  (h.written filament).stuck hbad |>.2

theorem trySet_of_stored (filament : UInt8) (tries : Nat)
    (hnext : getNext (getStatus e) (getIndex e) = (k.toByte, (i : Int)))
    (hstatus : (FilamentLoaded.setStatus e k.toByte).1 = true)
    (hdata : (written e k i filament).read (.filament i) = rawFilament k.toByte filament) :
    trySet filament (tries + 1) e = (true, written e k i filament) := by
  rw [written] at hdata
  rw [trySet, hnext]
  simp only [hstatus, Bool.true_eq_false, if_false, Int.toNat_natCast, hdata, if_true, written]

/-- A try that succeeds. -/
theorem trySet_store (h : Device bad stuck e) (filament : UInt8) (tries : Nat) (hi : i < size)
    (hnext : getNext (getStatus e) (getIndex e) = (k.toByte, (i : Int)))
    (hstored : i = bad → rawFilament k.toByte filament = stuck) :
    trySet filament (tries + 1) e = (true, written e k i filament) :=
  trySet_of_stored filament tries hnext (setStatus_stored h.powered h.status)
    (read_written_self h filament hi hstored)

/-- A try that finds out about the stuck cell goes on under the next key. -/
theorem trySet_turn (h : Device bad stuck e) (filament : UInt8) (tries : Nat) (hbad : bad < size)
    (hnext : getNext (getStatus e) (getIndex e) = (k.toByte, (bad : Int)))
    (hrefused : rawFilament k.toByte filament ≠ stuck) :
    trySet filament (tries + 1) e =
      trySet filament tries (FilamentLoaded.setStatus (written e k bad filament) k.next.toByte).2 := by
  have hread := read_written_stuck (k := k) h filament hbad
  have hdevice := h.written (k := k) (i := bad) filament
  rw [written] at hread hdevice
  rw [trySet, hnext]
  simp only [setStatus_stored h.powered h.status, Bool.true_eq_false, if_false, Int.toNat_natCast,
    hread, hrefused, getNextStatus_toByte, setStatus_stored hdevice.powered hdevice.status, written]

theorem read_turned (h : Device bad stuck e) (filament : UInt8) (hbad : bad < size) (j : Nat) :
    (FilamentLoaded.setStatus (written e k bad filament) k.next.toByte).2.read (.filament j) =
      e.read (.filament j) := by
  rw [read_setStatus_of_ne (by simp)]
  by_cases hj : j = bad
  · rw [hj, read_written_stuck h filament hbad, (h.stuck hbad).2]
  · exact read_written_of_ne filament hj

/-- The filament a data byte stands for. -/
def recorded (raw : UInt8) : Option UInt8 :=
  if raw &&& 0x0f ≥ Config.toolCount then none else some (raw &&& 0x0f)

theorem get_of_scan (hstatus : getStatus e = k.toByte) {s : Nat} (h : Scan e k (s + 1)) :
    get e = recorded (e.read (.filament (k.place s))) := by
  have hle := h.le
  have hplace := k.place_lt (t := s) (by omega)
  have hindex : getIndex e = (k.place s : Int) := by
    rw [getIndex_of_scan hstatus h, Key.index, Key.place]
    split
    · omega
    · rw [size] at hle ⊢
      omega
  have hkey := h.before s (by omega)
  rw [keyNibble] at hkey
  rw [get, hindex, if_neg (by omega), hstatus]
  simp only [Int.toNat_natCast, Key.ofByte?_toByte, Option.isNone_some, Bool.false_eq_true,
    if_false, hkey, ne_eq, not_true_eq_false, recorded]

theorem get_of_scan_zero (hstatus : getStatus e = k.toByte) (h : Scan e k 0) : get e = none := by
  rw [get, getIndex_of_scan hstatus h, Key.index, if_pos]
  split
  · exact .inl (by omega)
  · exact .inr (by rw [size]; omega)

end Bytes

section Cursor

variable {bad : Nat} {stuck : UInt8} {e : EEPROM} {k : Key} {w : Nat}

/-- The first `w` cells under the key carry it. What the other cells hold is neither taken for
this key nor for the next one; behind the stuck cell the same holds for the key after that,
as the cursor may turn there. -/
structure At (bad : Nat) (k : Key) (w : Nat) (e : EEPROM) : Prop where
  le : w ≤ size
  status : Voted e k.toByte
  before : ∀ t < w, keyNibble e (k.place t) = k.toByte
  ahead : ∀ t < size, w ≤ t → k.place t ≠ bad →
    keyNibble e (k.place t) ≠ k.toByte ∧ keyNibble e (k.place t) ≠ k.next.toByte
  behind : ∀ t < size, w ≤ t → ∀ t' < t, w ≤ t' → k.place t' = bad →
    keyNibble e (k.place t) ≠ k.next.next.toByte

/-- The next byte goes to the first cell under the key, and no cell carries this key or one of
the next two. -/
structure Turning (bad : Nat) (k : Key) (e : EEPROM) : Prop where
  next : getNext (getStatus e) (getIndex e) = (k.toByte, (k.place 0 : Int))
  clear : ∀ i < size, i ≠ bad → keyNibble e i ≠ k.toByte ∧ keyNibble e i ≠ k.next.toByte ∧
    keyNibble e i ≠ k.next.next.toByte

/-- The search takes the stuck cell for written. -/
def Mistaken (bad : Nat) (stuck : UInt8) (k : Key) (t : Nat) : Prop :=
  k.place t = bad ∧ stuck >>> 4 = k.toByte

instance (bad : Nat) (stuck : UInt8) (k : Key) (t : Nat) : Decidable (Mistaken bad stuck k t) :=
  inferInstanceAs (Decidable (_ ∧ _))

theorem At.scan (hdevice : Device bad stuck e) (h : At bad k w e)
    (hseen : w < size → ¬ Mistaken bad stuck k w) : Scan e k w := by
  refine ⟨h.le, h.before, fun hw => ?_⟩
  by_cases hbad : k.place w = bad
  · have hstuck := (hdevice.stuck (hbad ▸ k.place_lt hw)).2
    rw [keyNibble, hbad, hstuck]
    exact fun hkey => hseen hw ⟨hbad, hkey⟩
  · exact (h.ahead w hw (Nat.le_refl w) hbad).1

/-- The stuck cell that carries the key counts as written. -/
theorem At.scan_mistaken (hdevice : Device bad stuck e) (h : At bad k w e) (hw : w < size)
    (hseen : Mistaken bad stuck k w) : Scan e k (w + 1) := by
  obtain ⟨hbad, hkey⟩ := hseen
  refine ⟨hw, fun t ht => ?_, fun hnext => ?_⟩
  · rcases Nat.lt_succ_iff_lt_or_eq.mp ht with ht | rfl
    · exact h.before t ht
    · rw [keyNibble, hbad, (hdevice.stuck (hbad ▸ k.place_lt hw)).2, hkey]
  · refine (h.ahead (w + 1) hnext (Nat.le_succ w) fun hplace => ?_).1
    have := (k.place_inj hnext hw).mp (hplace.trans hbad.symm)
    omega

/-- The cell the cursor goes on from under a key it has just come to. -/
def Key.start (bad : Nat) (stuck : UInt8) (k : Key) : Nat :=
  if Mistaken bad stuck k 0 then 1 else 0

theorem not_mistaken_start (bad : Nat) (stuck : UInt8) (k : Key) :
    ¬ Mistaken bad stuck k (k.start bad stuck) := by
  rw [Key.start]
  split
  · next h =>
      rintro ⟨hplace, -⟩
      have := (k.place_inj (by decide) (by decide)).mp (hplace.trans h.1.symm)
      omega
  · next h => exact h

theorem Key.start_lt (bad : Nat) (stuck : UInt8) (k : Key) : k.start bad stuck < size := by
  rw [start]
  split <;> decide

/-- A key no good cell carries is one the cursor can start under. -/
theorem at_start (hdevice : Device bad stuck e) (hstatus : Voted e k.toByte)
    (hahead : ∀ t < size, k.place t ≠ bad →
      keyNibble e (k.place t) ≠ k.toByte ∧ keyNibble e (k.place t) ≠ k.next.toByte)
    (hbehind : ∀ t < size, ∀ t' < t, k.place t' = bad →
      keyNibble e (k.place t) ≠ k.next.next.toByte) :
    At bad k (k.start bad stuck) e where
  le := (k.start_lt bad stuck).le
  status := hstatus
  before t ht := by
    rw [Key.start] at ht
    split at ht
    · next h =>
        obtain rfl : t = 0 := by omega
        rw [keyNibble, h.1, (hdevice.stuck (h.1 ▸ k.place_lt (by decide))).2, h.2]
    · omega
  ahead t ht _ := hahead t ht
  behind t ht _ t' ht' _ := hbehind t ht t' ht'

theorem At.turning (hdevice : Device bad stuck e) (h : At bad k size e) :
    Turning bad k.next e := by
  refine ⟨?_, fun i hi _ => ?_⟩
  · have hscan := h.scan hdevice fun hw => absurd hw (Nat.lt_irrefl _)
    simpa using getNext_of_scan (getStatus_of_voted h.status) hscan
  · obtain ⟨hnext, hnext', hnext''⟩ := k.next_ne
    have hkey := h.before (k.place i) (k.place_lt hi)
    rw [k.place_place hi] at hkey
    simp only [hkey, ne_eq, Key.toByte_inj]
    exact ⟨hnext.symm, hnext'.symm, hnext''.symm⟩

theorem At.next (hdevice : Device bad stuck e) (h : At bad k w e) (hw : w < size)
    (hseen : ¬ Mistaken bad stuck k w) :
    getNext (getStatus e) (getIndex e) = (k.toByte, (k.place w : Int)) := by
  have hscan := h.scan hdevice fun _ => hseen
  rw [getNext_of_scan (getStatus_of_voted h.status) hscan, if_pos hw]

theorem keyNibble_written_of_ne (filament : UInt8) {i j : Nat} (hj : j ≠ i) :
    keyNibble (written e k i filament) j = keyNibble e j := by
  rw [keyNibble, keyNibble, read_written_of_ne filament hj]

/-- The next cell takes the byte. -/
theorem At.store (hdevice : Device bad stuck e) (h : At bad k w e) (hw : w < size)
    (hgood : k.place w ≠ bad) (filament : UInt8) :
    At bad k (w + 1) (written e k (k.place w) filament) where
  le := hw
  status := voted_written hdevice filament
  before t ht := by
    rcases Nat.lt_succ_iff_lt_or_eq.mp ht with ht | rfl
    · have hne : k.place t ≠ k.place w := by
        rw [ne_eq, k.place_inj (by omega) hw]
        omega
      rw [keyNibble_written_of_ne filament hne, h.before t ht]
    · rw [keyNibble, read_written_self hdevice filament (k.place_lt hw) fun hbad => absurd hbad hgood]
      exact (rawFilament_spec k filament).1
  ahead t ht hle hbad := by
    have hne : k.place t ≠ k.place w := by
      rw [ne_eq, k.place_inj ht hw]
      omega
    rw [keyNibble_written_of_ne filament hne]
    exact h.ahead t ht (by omega) hbad
  behind t ht hle t' ht' hle' hbad := by
    have hne : k.place t ≠ k.place w := by
      rw [ne_eq, k.place_inj ht hw]
      omega
    rw [keyNibble_written_of_ne filament hne]
    exact h.behind t ht (by omega) t' ht' (by omega) hbad

theorem Turning.store (hdevice : Device bad stuck e) (h : Turning bad k e) (filament : UInt8)
    (hstored : k.place 0 = bad → rawFilament k.toByte filament = stuck) :
    At bad k 1 (written e k (k.place 0) filament) := by
  have hne : ∀ t < size, 1 ≤ t → k.place t ≠ k.place 0 := by
    intro t ht hle
    rw [ne_eq, k.place_inj ht (by decide)]
    omega
  refine ⟨by decide, voted_written hdevice filament, fun t ht => ?_, fun t ht hle hbad => ?_,
    fun t ht hle t' ht' hle' hbad => ?_⟩
  · obtain rfl : t = 0 := by omega
    rw [keyNibble, read_written_self hdevice filament (k.place_lt (by decide)) hstored]
    exact (rawFilament_spec k filament).1
  · rw [keyNibble_written_of_ne filament (hne t ht hle)]
    exact ⟨(h.clear _ (k.place_lt ht) hbad).1, (h.clear _ (k.place_lt ht) hbad).2.1⟩
  · have hgood : k.place t ≠ bad := by
      rw [← hbad, ne_eq, k.place_inj ht (by omega)]
      omega
    rw [keyNibble_written_of_ne filament (hne t ht hle)]
    exact (h.clear _ (k.place_lt ht) hgood).2.2

/-- The cursor stops at the stuck cell: it has written what is before it, and what is behind it
carries neither the next key nor the one after that. -/
theorem At.turn {e' : EEPROM} (hdevice : Device bad stuck e') (hstatus : Voted e' k.next.toByte)
    (hread : ∀ i, e'.read (.filament i) = e.read (.filament i)) (h : At bad k w e) (hw : w < size)
    (hbad : k.place w = bad) : At bad k.next (k.next.start bad stuck) e' := by
  have hnibble : ∀ i, keyNibble e' i = keyNibble e i := fun i => by
    rw [keyNibble, keyNibble, hread]
  obtain ⟨hnext, hnext', hnext''⟩ := k.next_ne
  apply at_start hdevice hstatus
  · intro t ht hgood
    rw [hnibble]
    rw [k.place_next ht] at hgood ⊢
    have hu : size - 1 - t < size := by rw [size] at ht ⊢; omega
    by_cases hlt : size - 1 - t < w
    · rw [h.before _ hlt]
      simp only [ne_eq, Key.toByte_inj]
      exact ⟨hnext.symm, hnext'.symm⟩
    · have hne : size - 1 - t ≠ w := by
        intro heq
        exact hgood (heq ▸ hbad)
      exact ⟨(h.ahead _ hu (by omega) hgood).2, h.behind _ hu (by omega) w (by omega) (by omega) hbad⟩
  · intro t ht t' ht' hplace
    rw [k.place_next (by omega)] at hplace
    have hu : size - 1 - t' = w := by
      rw [← k.place_inj (by rw [size] at ht ⊢; omega) hw, hplace, hbad]
    rw [hnibble, k.place_next ht, h.before _ (by rw [size] at ht hu ⊢; omega), ne_eq, Key.toByte_inj]
    exact hnext''.symm

theorem Turning.turn {e' : EEPROM} (hdevice : Device bad stuck e')
    (hstatus : Voted e' k.next.toByte)
    (hread : ∀ i, e'.read (.filament i) = e.read (.filament i)) (h : Turning bad k e)
    (hbad : k.place 0 = bad) : At bad k.next (k.next.start bad stuck) e' := by
  have hnibble : ∀ i, keyNibble e' i = keyNibble e i := fun i => by
    rw [keyNibble, keyNibble, hread]
  apply at_start hdevice hstatus
  · intro t ht hgood
    rw [hnibble]
    exact (h.clear _ (k.next.place_lt ht) hgood).2
  · intro t ht t' ht' hplace
    rw [k.place_next (by omega), ← hbad, k.place_inj (by rw [size] at ht ⊢; omega) (by decide)] at hplace
    rw [size] at ht hplace
    omega

end Cursor

end FilamentLoaded
end MmuFirmware
