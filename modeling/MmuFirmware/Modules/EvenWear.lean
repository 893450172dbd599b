import MmuFirmware.Modules.FilamentHistory

/-!
How the records of the loaded filament wear the cells. The cursor visits every data cell once
under a key, and what it finds there carries another key, so that every record changes one
data cell; the status cells change when the cursor turns, and at no other time.
-/
namespace MmuFirmware
namespace FilamentLoaded

section Bytes

variable {e : EEPROM} {k : Key} {i : Nat} {status : UInt8}

theorem wear_setStatus_of_ne {a : Cell} (h : ∀ i, a ≠ .filamentStatus i) :
    (setStatus e status).2.wear a = e.wear a := by
  simp only [setStatus, List.foldl_cons, List.foldl_nil]
  rw [Memory.wear_update_of_ne _ _ (h 2), Memory.wear_update_of_ne _ _ (h 1),
    Memory.wear_update_of_ne _ _ (h 0)]

/-- A status cell is worn when the status is a new one. -/
theorem wear_setStatus (hpower : e.writesLeft = none) (hi : i < 3) :
    (setStatus e status).2.wear (.filamentStatus i) =
      e.wear (.filamentStatus i) + if e.read (.filamentStatus i) = status then 0 else 1 := by
  simp only [setStatus, List.foldl_cons, List.foldl_nil]
  have hi : i = 0 ∨ i = 1 ∨ i = 2 := by omega
  rcases hi with rfl | rfl | rfl
  · rw [Memory.wear_update_of_ne _ _ (by simp), Memory.wear_update_of_ne _ _ (by simp),
      Memory.wear_update_self _ (by simp [hpower])]
  · rw [Memory.wear_update_of_ne _ _ (by simp), Memory.wear_update_self _ (by simp [hpower]),
      Memory.wear_update_of_ne _ _ (by simp), Memory.read_update_of_ne _ _ (by simp)]
  · rw [Memory.wear_update_self _ (by simp [hpower]), Memory.wear_update_of_ne _ _ (by simp),
      Memory.wear_update_of_ne _ _ (by simp), Memory.read_update_of_ne _ _ (by simp),
      Memory.read_update_of_ne _ _ (by simp)]

theorem wear_written_of_ne (filament : UInt8) {j : Nat} (hj : j ≠ i) :
    (written e k i filament).wear (.filament j) = e.wear (.filament j) := by
  rw [written, Memory.wear_update_of_ne _ _ (by simpa using hj), wear_setStatus_of_ne (by simp)]

/-- A cell that does not carry the key yet is worn by taking a record under it. -/
theorem wear_written_self (hpower : e.writesLeft = none) (filament : UInt8)
    (hfresh : keyNibble e i ≠ k.toByte) :
    (written e k i filament).wear (.filament i) = e.wear (.filament i) + 1 := by
  have hpower : (setStatus e k.toByte).2.writesLeft = none := writesLeft_setStatus hpower
  rw [written, Memory.wear_update_self _ (by simp [hpower]), wear_setStatus_of_ne (by simp),
    read_setStatus_of_ne (by simp), if_neg]
  intro hsame
  apply hfresh
  rw [keyNibble, hsame]
  exact (rawFilament_spec k filament).1

theorem wear_written_status (hpower : e.writesLeft = none) (filament : UInt8) {j : Nat}
    (hj : j < 3) :
    (written e k i filament).wear (.filamentStatus j) =
      e.wear (.filamentStatus j) + if e.read (.filamentStatus j) = k.toByte then 0 else 1 := by
  rw [written, Memory.wear_update_of_ne _ _ (by simp), wear_setStatus hpower hj]

end Bytes

section Passes

variable {e : EEPROM} {k : Key} {w passes : Nat}

/-- A healthy EEPROM on which the cursor has gone over all data cells `passes` times, and over
`w` of them under its present key. -/
structure Evenly (e : EEPROM) (k : Key) (w passes : Nat) : Prop where
  device : Device size 0 e
  works : ∀ i < 3, e.broken (.filamentStatus i) = false
  reached : At size k w e
  status : ∀ i < 3, e.read (.filamentStatus i) = k.toByte
  data : ∀ t < size, e.wear (.filament (k.place t)) = passes + if t < w then 1 else 0
  turns : ∀ i < 3, e.wear (.filamentStatus i) = passes + 1

/-- What a record written under `k` at the cursor's next place leaves. -/
theorem evenly_written (hdevice : Device size 0 e)
    (hworks : ∀ i < 3, e.broken (.filamentStatus i) = false) (hw : w < size) (filament : UInt8)
    (hfresh : keyNibble e (k.place w) ≠ k.toByte)
    (hreached : At size k (w + 1) (written e k (k.place w) filament))
    (hdata : ∀ t < size, e.wear (.filament (k.place t)) = passes + if t < w then 1 else 0)
    (hturns : ∀ i < 3,
      (e.wear (.filamentStatus i) + if e.read (.filamentStatus i) = k.toByte then 0 else 1) =
        passes + 1) :
    Evenly (written e k (k.place w) filament) k (w + 1) passes where
  device := hdevice.written filament
  works i hi := by
    rw [written, Memory.broken_update, broken_setStatus]
    exact hworks i hi
  reached := hreached
  status i hi := by
    rw [written, Memory.read_update_of_ne _ _ (by simp)]
    exact read_setStatus hdevice.powered hi (hworks i hi)
  data t ht := by
    by_cases hself : t = w
    · subst hself
      rw [wear_written_self hdevice.powered filament hfresh, hdata t ht, if_neg (by omega),
        if_pos (by omega)]
    · have hne : k.place t ≠ k.place w := by
        rw [ne_eq, k.place_inj ht hw]
        exact hself
      have hlt : t < w + 1 ↔ t < w := by omega
      rw [wear_written_of_ne filament hne, hdata t ht]
      simp only [hlt]
  turns i hi := by
    rw [wear_written_status hdevice.powered filament hi, hturns i hi]

/-- The record goes to the place the search ended at. -/
theorem set_of_next (hdevice : Device size 0 e) (hw : w < size) (filament : UInt8)
    (hnext : getNext (getStatus e) (getIndex e) = (k.toByte, (k.place w : Int))) :
    (set e filament).2 = written e k (k.place w) filament := by
  have hlt := k.place_lt hw
  rw [set, trySet_store hdevice filament 2 hlt hnext fun hbad => absurd hbad (by omega)]

theorem Evenly.step (h : Evenly e k w passes) (hw : w < size) (filament : UInt8) :
    Evenly (set e filament).2 k (w + 1) passes := by
  have hgood : k.place w ≠ size := Nat.ne_of_lt (k.place_lt hw)
  have hnext := h.reached.next h.device hw fun hseen => hgood hseen.1
  rw [set_of_next h.device hw filament hnext]
  apply evenly_written h.device h.works hw filament
  · exact (h.reached.ahead w hw (Nat.le_refl w) hgood).1
  · exact h.reached.store h.device hw hgood filament
  · exact h.data
  · intro i hi
    rw [if_pos (h.status i hi)]
    exact h.turns i hi

/-- The first record of a pass is where the search starts. -/
theorem evenly_turning (hdevice : Device size 0 e)
    (hworks : ∀ i < 3, e.broken (.filamentStatus i) = false) (h : Turning size k e)
    (filament : UInt8) (hstatus : ∀ i < 3, e.read (.filamentStatus i) ≠ k.toByte)
    (hdata : ∀ t < size, e.wear (.filament (k.place t)) = passes)
    (hturns : ∀ i < 3, e.wear (.filamentStatus i) = passes) :
    Evenly (set e filament).2 k 1 passes := by
  have hw : 0 < size := by decide
  have hlt := k.place_lt hw
  have hgood : k.place 0 ≠ size := Nat.ne_of_lt hlt
  rw [set_of_next hdevice hw filament h.next]
  apply evenly_written hdevice hworks hw filament
  · exact (h.clear _ hlt hgood).1
  · exact h.store hdevice filament fun hbad => absurd hbad hgood
  · exact hdata
  · intro i hi
    rw [if_neg (hstatus i hi), hturns i hi]

/-- At the end of the cells the cursor turns: the pass is complete. -/
theorem Evenly.turn (h : Evenly e k size passes) (filament : UInt8) :
    Evenly (set e filament).2 k.next 1 (passes + 1) := by
  apply evenly_turning h.device h.works (h.reached.turning h.device) filament
  · intro i hi hsame
    rw [h.status i hi, Key.toByte_inj] at hsame
    exact k.next_ne.1 hsame.symm
  · intro t ht
    have hu : size - 1 - t < size := by
      rw [size] at ht ⊢
      omega
    rw [k.place_next ht, h.data _ hu, if_pos hu]
  · exact h.turns

theorem evenly_first (filament : UInt8) :
    Evenly (set EEPROM.erased filament).2 .keyFront1 1 0 := by
  have hblank := blank_erased 0
  apply evenly_turning hblank.device (fun _ _ => rfl) hblank.turning filament
  · exact fun _ _ => (by decide : (0xff : UInt8) ≠ Key.keyFront1.toByte)
  · exact fun _ _ => rfl
  · exact fun _ _ => rfl

end Passes

/-- After a history of records: the pass the last one belongs to, and its place there. -/
theorem evenly_after (history : List UInt8) (filament : UInt8) :
    ∃ k, Evenly (after EEPROM.erased (history ++ [filament])) k (history.length % size + 1)
      (history.length / size) := by
  induction history using List.reverseRecOn generalizing filament with
  | nil => exact ⟨.keyFront1, by simpa [after, setStep] using evenly_first filament⟩
  | append_singleton history old ih =>
      obtain ⟨k, h⟩ := ih old
      rw [after_append_singleton, List.length_append, List.length_singleton]
      by_cases hw : history.length % size + 1 < size
      · have hplace : (history.length + 1) % size = history.length % size + 1 := by
          simp only [size] at hw ⊢
          omega
        have hpass : (history.length + 1) / size = history.length / size := by
          simp only [size] at hw ⊢
          omega
        rw [hplace, hpass]
        exact ⟨k, h.step hw filament⟩
      · have hfull : history.length % size + 1 = size := by
          simp only [size] at hw ⊢
          omega
        have hplace : (history.length + 1) % size = 0 := by
          simp only [size] at hfull ⊢
          omega
        have hpass : (history.length + 1) / size = history.length / size + 1 := by
          simp only [size] at hfull ⊢
          omega
        rw [hfull] at h
        rw [hplace, hpass]
        exact ⟨k.next, h.turn filament⟩

/-- On a healthy EEPROM no data cell is written more than once more often than another, and
the status cells are written once for every pass over the data cells. -/
theorem wear_levelled (history : List UInt8) :
    (∀ i < size,
      (after EEPROM.erased history).wear (.filament i) = history.length / size ∨
        (after EEPROM.erased history).wear (.filament i) = history.length / size + 1) ∧
      ∀ i < 3,
        (after EEPROM.erased history).wear (.filamentStatus i) =
          (history.length + (size - 1)) / size := by
  cases history using List.reverseRecOn with
  | nil => exact ⟨fun _ _ => .inl rfl, fun _ _ => rfl⟩
  | append_singleton history filament =>
      obtain ⟨k, h⟩ := evenly_after history filament
      rw [List.length_append, List.length_singleton]
      refine ⟨fun i hi => ?_, fun i hi => ?_⟩
      · have hdata := h.data (k.place i) (k.place_lt hi)
        rw [k.place_place hi] at hdata
        have hplace := k.place_lt hi
        by_cases hvisited : k.place i < history.length % size + 1
        · rw [if_pos hvisited] at hdata
          simp only [size] at hdata ⊢
          omega
        · rw [if_neg hvisited] at hdata
          simp only [size] at hdata hplace hvisited ⊢
          omega
      · rw [h.turns i hi]
        simp only [size]
        omega

end FilamentLoaded
end MmuFirmware
