import MmuFirmware.Modules.FilamentCursor

/-!
Whole histories of records. The cursor machine is what the data structure is for: it names
the cell every record goes to. The EEPROM follows it as long as the stuck cell is not taken
for a written one, and `get` reads the cell the cursor is at.
-/
namespace MmuFirmware
namespace FilamentLoaded

/-- The cell written last, by its distance under its key. -/
structure Cursor where
  key : Key
  last : Nat
  deriving DecidableEq, Repr

namespace Cursor

/-- The first record under a key the cursor has turned to in front of the stuck cell. -/
def turned (bad : Nat) (stuck : UInt8) (k : Key) : Cursor :=
  if k.place (k.start bad stuck) = bad then ⟨k.next, k.next.start bad stuck⟩
  else ⟨k, k.start bad stuck⟩

/-- The first record under a key the cursor has come to at the end of the cells. -/
def entered (bad : Nat) (stuck : UInt8) (k : Key) (filament : UInt8) : Cursor :=
  if k.place 0 = bad ∧ rawFilament k.toByte filament ≠ stuck then turned bad stuck k.next
  else ⟨k, 0⟩

def next (bad : Nat) (stuck filament : UInt8) : Option Cursor → Cursor
  | none => entered bad stuck .keyFront1 filament
  | some c =>
      if c.last + 1 < size then
        if c.key.place (c.last + 1) = bad then turned bad stuck c.key.next
        else ⟨c.key, c.last + 1⟩
      else entered bad stuck c.key.next filament

/-- The search does not run onto the stuck cell from here. -/
def Sure (bad : Nat) (stuck : UInt8) (c : Cursor) : Prop :=
  c.last + 1 < size → ¬ Mistaken bad stuck c.key (c.last + 1)

end Cursor

section Steps

variable {bad : Nat} {stuck : UInt8} {e : EEPROM} {k : Key} {w : Nat} {c : Cursor}

/-- The EEPROM after a record the cursor machine has placed at `c`. -/
structure Recorded (bad : Nat) (stuck filament : UInt8) (c : Cursor) (e : EEPROM) : Prop where
  device : Device bad stuck e
  reached : At bad c.key (c.last + 1) e
  last : e.read (.filament (c.key.place c.last)) = rawFilament c.key.toByte filament

theorem trySet_at (hdevice : Device bad stuck e) (h : At bad k w e) (hw : w < size)
    (hgood : k.place w ≠ bad) (filament : UInt8) (tries : Nat) :
    (trySet filament (tries + 1) e).1 = true ∧
      Recorded bad stuck filament ⟨k, w⟩ (trySet filament (tries + 1) e).2 := by
  have hnext := h.next hdevice hw fun hseen => hgood hseen.1
  have hstored : k.place w = bad → rawFilament k.toByte filament = stuck := fun hbad => absurd hbad hgood
  rw [trySet_store hdevice filament tries (k.place_lt hw) hnext hstored]
  exact ⟨rfl, hdevice.written filament, h.store hdevice hw hgood filament,
    read_written_self hdevice filament (k.place_lt hw) hstored⟩

/-- The stuck cell shows another key than the one a record would give it. -/
theorem rawFilament_ne_of_not_mistaken (hbad : k.place w = bad)
    (hseen : ¬ Mistaken bad stuck k w) (filament : UInt8) :
    rawFilament k.toByte filament ≠ stuck := by
  rintro rfl
  exact hseen ⟨hbad, (rawFilament_spec k filament).1⟩

/-- Having turned once, the cursor has a cell to go on with after one more turn at most. -/
theorem trySet_turned (hdevice : Device bad stuck e) (h : At bad k (k.start bad stuck) e)
    (filament : UInt8) :
    (trySet filament 2 e).1 = true ∧
      Recorded bad stuck filament (Cursor.turned bad stuck k) (trySet filament 2 e).2 := by
  have hlt := k.start_lt bad stuck
  have hseen := not_mistaken_start bad stuck k
  rw [Cursor.turned]
  split
  · next hbad =>
      have hbadlt : bad < size := hbad ▸ k.place_lt hlt
      have hnext := h.next hdevice hlt hseen
      rw [hbad] at hnext
      have hrefused := rawFilament_ne_of_not_mistaken hbad hseen filament
      have hread := read_turned (k := k) hdevice filament hbadlt
      have hwritten := hdevice.written (k := k) (i := bad) filament
      have hturned := h.turn (hwritten.setStatus k.next.toByte)
        (voted_setStatus hwritten.powered hwritten.status) hread hlt hbad
      rw [trySet_turn hdevice filament 1 hbadlt hnext hrefused]
      refine trySet_at (hwritten.setStatus _) hturned (k.next.start_lt bad stuck) ?_ filament 0
      -- both directions meet the stuck cell first only if there is one cell
      intro hbad'
      rw [k.place_next (k.next.start_lt bad stuck), ← hbad,
        k.place_inj (by rw [size]; omega) hlt] at hbad'
      rw [Key.start, Key.start, size] at hbad'
      split at hbad' <;> split at hbad' <;> omega
  · next hgood => exact trySet_at hdevice h hlt hgood filament 1

theorem set_entered (hdevice : Device bad stuck e) (h : Turning bad k e) (filament : UInt8) :
    (set e filament).1 = true ∧
      Recorded bad stuck filament (Cursor.entered bad stuck k filament) (set e filament).2 := by
  have hlt : k.place 0 < size := k.place_lt (by decide)
  rw [Cursor.entered, set]
  split
  · next hrefused =>
      obtain ⟨hbad, hrefused⟩ := hrefused
      have hnext := h.next
      rw [hbad] at hlt hnext
      have hwritten := hdevice.written (k := k) (i := bad) filament
      have hturned := h.turn (hwritten.setStatus k.next.toByte)
        (voted_setStatus hwritten.powered hwritten.status) (read_turned hdevice filament hlt) hbad
      rw [trySet_turn hdevice filament 2 hlt hnext hrefused]
      exact trySet_turned (hwritten.setStatus _) hturned filament
  · next hstored =>
      have hstored : k.place 0 = bad → rawFilament k.toByte filament = stuck := by
        intro hbad
        by_contra hrefused
        exact hstored ⟨hbad, hrefused⟩
      rw [trySet_store hdevice filament 2 hlt h.next hstored]
      exact ⟨rfl, hdevice.written filament, h.store hdevice filament hstored,
        read_written_self hdevice filament hlt hstored⟩

/-- A record goes where the cursor machine says. -/
theorem Recorded.set {old : UInt8} (h : Recorded bad stuck old c e) (hsure : c.Sure bad stuck)
    (filament : UInt8) :
    (set e filament).1 = true ∧
      Recorded bad stuck filament (Cursor.next bad stuck filament (some c)) (set e filament).2 := by
  rw [Cursor.next]
  split
  · next hlt =>
      split
      · next hbad =>
          have hbadlt : bad < size := hbad ▸ c.key.place_lt hlt
          have hnext := h.reached.next h.device hlt (hsure hlt)
          rw [hbad] at hnext
          have hrefused := rawFilament_ne_of_not_mistaken hbad (hsure hlt) filament
          have hwritten := h.device.written (k := c.key) (i := bad) filament
          have hturned := h.reached.turn (hwritten.setStatus c.key.next.toByte)
            (voted_setStatus hwritten.powered hwritten.status)
            (read_turned h.device filament hbadlt) hlt hbad
          rw [FilamentLoaded.set, trySet_turn h.device filament 2 hbadlt hnext hrefused]
          exact trySet_turned (hwritten.setStatus _) hturned filament
      · next hgood => exact trySet_at h.device h.reached hlt hgood filament 2
  · next hend =>
      have hle := h.reached.le
      have hfull : c.last + 1 = size := by omega
      have hreached := h.reached
      rw [hfull] at hreached
      exact set_entered h.device (hreached.turning h.device) filament

theorem recorded_rawFilament (k : Key) (filament : UInt8) :
    recorded (rawFilament k.toByte filament) = recorded filament := by
  rw [recorded, (rawFilament_spec k filament).2, ← recorded]

theorem Recorded.get {filament : UInt8} (h : Recorded bad stuck filament c e)
    (hsure : c.Sure bad stuck) : get e = recorded filament := by
  have hscan := h.reached.scan h.device hsure
  rw [get_of_scan (getStatus_of_voted h.reached.status) hscan, h.last, recorded_rawFilament]

/-- Otherwise what is read is the stuck byte. -/
theorem Recorded.get_mistaken {filament : UInt8} (h : Recorded bad stuck filament c e)
    (hlt : c.last + 1 < size) (hseen : Mistaken bad stuck c.key (c.last + 1)) :
    FilamentLoaded.get e = recorded stuck := by
  have hscan := h.reached.scan_mistaken h.device hlt hseen
  have hbad : bad < size := hseen.1 ▸ c.key.place_lt hlt
  rw [get_of_scan (getStatus_of_voted h.reached.status) hscan, hseen.1, (h.device.stuck hbad).2]

end Steps

section Histories

variable {bad : Nat} {stuck : UInt8} {e : EEPROM}

/-- `set`, as a step of the EEPROM that says whether it succeeded. -/
def setStep (e : EEPROM) (filament : UInt8) : EEPROM × Bool :=
  ((set e filament).2, (set e filament).1)

/-- The EEPROM after a history of records. -/
def after (e : EEPROM) (history : List UInt8) : EEPROM := Transducer.run setStep e history

/-- What the calls of a history return. -/
def results (e : EEPROM) (history : List UInt8) : List Bool :=
  (Transducer.trace setStep e history).map Prod.fst

@[simp] theorem after_nil (e : EEPROM) : after e [] = e := rfl

@[simp] theorem after_append_singleton (e : EEPROM) (history : List UInt8) (filament : UInt8) :
    after e (history ++ [filament]) = (set (after e history) filament).2 := by
  simp [after, setStep]

/-- A device no record has been written to. -/
structure Blank (bad : Nat) (stuck : UInt8) (e : EEPROM) : Prop where
  device : Device bad stuck e
  status : Voted e 0xff
  cells : ∀ i < size, i ≠ bad → e.read (.filament i) = 0xff

theorem getIndex_of_blank (h : Blank bad stuck e) : getIndex e = -1 := by
  rw [getIndex, getStatus_of_voted h.status]
  rfl

theorem Blank.get (h : Blank bad stuck e) : get e = none := by
  rw [FilamentLoaded.get, getIndex_of_blank h]
  rfl

theorem Blank.turning (h : Blank bad stuck e) : Turning bad .keyFront1 e where
  next := by
    rw [getIndex_of_blank h, getStatus_of_voted h.status]
    rfl
  clear i hi hbad := by
    rw [keyNibble, h.cells i hi hbad]
    decide

theorem Blank.set (h : Blank bad stuck e) (filament : UInt8) :
    (set e filament).1 = true ∧
      Recorded bad stuck filament (Cursor.next bad stuck filament none) (set e filament).2 :=
  set_entered h.device h.turning filament

/-- As long as the stuck cell is never taken for a written one, a history leaves the cursor at
its last record. -/
theorem recorded_of_sure (h : Blank bad stuck e) (hsure : ∀ c : Cursor, c.Sure bad stuck)
    (history : List UInt8) (filament : UInt8) :
    (set (after e history) filament).1 = true ∧
      ∃ c, Recorded bad stuck filament c (after e (history ++ [filament])) := by
  induction history using List.reverseRecOn generalizing filament with
  | nil =>
      obtain ⟨hstored, hrecorded⟩ := h.set filament
      exact ⟨hstored, _, by simpa [after, setStep] using hrecorded⟩
  | append_singleton history old ih =>
      obtain ⟨-, c, hold⟩ := ih old
      obtain ⟨hstored, hrecorded⟩ := hold.set (hsure c) filament
      exact ⟨hstored, _, by simpa only [after_append_singleton] using hrecorded⟩

theorem results_of_sure (h : Blank bad stuck e) (hsure : ∀ c : Cursor, c.Sure bad stuck)
    (history : List UInt8) : ∀ stored ∈ results e history, stored = true := by
  intro stored hmem
  obtain ⟨o, ho, rfl⟩ := List.mem_map.mp hmem
  obtain ⟨pre, filament, post, rfl, rfl⟩ := (Transducer.mem_trace_iff _ _ _ _).mp ho
  exact (recorded_of_sure h hsure pre filament).1

/-- The last record of a history is what is read back. -/
theorem get_of_sure (h : Blank bad stuck e) (hsure : ∀ c : Cursor, c.Sure bad stuck)
    (history : List UInt8) : get (after e history) = history.getLast?.bind recorded := by
  cases history using List.reverseRecOn with
  | nil => exact h.get
  | append_singleton history filament =>
      obtain ⟨-, c, hrecorded⟩ := recorded_of_sure h hsure history filament
      rw [hrecorded.get (hsure c), List.getLast?_concat, Option.bind_some]

theorem recorded_of_lt {filament : UInt8} (h : filament < 16) :
    recorded filament = if filament < Config.toolCount then some filament else none := by
  have hlow : filament &&& 0x0f = filament := by
    rw [← UInt8.toNat_inj, toNat_and_nibble]
    have : filament.toNat < 16 := UInt8.lt_iff_toNat_lt.mp h
    omega
  rw [recorded, hlow]
  by_cases hlt : filament < Config.toolCount
  · rw [if_neg (by simpa using hlt), if_pos hlt]
  · rw [if_pos (by simpa using hlt), if_neg hlt]

theorem blank_erased (stuck : UInt8) : Blank size stuck EEPROM.erased where
  device := ⟨rfl, ⟨0, fun _ _ _ => rfl⟩, fun _ _ => rfl, fun h => absurd h (Nat.lt_irrefl _)⟩
  status := ⟨0, fun _ _ _ => rfl⟩
  cells _ _ _ := rfl

/-- Without a stuck cell there is nothing to be mistaken about. -/
theorem sure_of_size_le (h : size ≤ bad) (c : Cursor) : c.Sure bad stuck := by
  intro hlt hseen
  have := c.key.place_lt hlt
  rw [hseen.1] at this
  omega

theorem sure_of_healthy (c : Cursor) : c.Sure size 0 := sure_of_size_le (Nat.le_refl size) c

/-- On a healthy EEPROM every record succeeds and the last one is read back, whenever the power
is switched off and on again. -/
theorem get_after_erased (history : List UInt8) (hnibbles : ∀ filament ∈ history, filament < 16) :
    (∀ stored ∈ results EEPROM.erased history, stored = true) ∧
      ∀ e ∈ [after EEPROM.erased history, (after EEPROM.erased history).restart],
        get e = history.getLast?.filter (· < Config.toolCount) := by
  have hblank := blank_erased 0
  have hget : get (after EEPROM.erased history) = history.getLast?.filter (· < Config.toolCount) := by
    rw [get_of_sure hblank sure_of_healthy]
    cases hlast : history.getLast? with
    | none => rfl
    | some filament =>
        rw [Option.bind_some, recorded_of_lt (hnibbles _ (List.mem_of_getLast? hlast))]
        simp [Option.filter]
  refine ⟨results_of_sure hblank sure_of_healthy history, fun e he => ?_⟩
  rcases List.mem_pair.mp he with rfl | rfl
  · exact hget
  · rw [← hget]
    exact get_congr rfl fun _ => rfl

theorem get_after_erased_two :
    (∀ stored ∈ results EEPROM.erased [3, 7], stored = true) ∧
      ∀ e ∈ [after EEPROM.erased [3, 7], (after EEPROM.erased [3, 7]).restart],
        get e = [3, 7].getLast?.filter (· < Config.toolCount) :=
  get_after_erased [3, 7] (by decide +kernel)

end Histories

end FilamentLoaded
end MmuFirmware
