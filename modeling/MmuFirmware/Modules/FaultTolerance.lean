import MmuFirmware.Modules.FilamentHistory

/-!
One failed status cell and one failed data cell. The data structure copes with both unless
the stuck byte carries a key under which its cell is not the first: then the search runs onto
it as soon as the cursor is in front of it.
-/
namespace MmuFirmware

/-- An erased EEPROM with a stuck status cell and a stuck data cell, at most. -/
def EEPROM.worn (status : Option (Fin 3 × UInt8)) (data : Option (Fin FilamentLoaded.size × UInt8)) :
    EEPROM where
  cells
    | .filamentStatus i => ((status.filter (·.1 = i)).map Prod.snd).getD 0xff
    | .filament i => ((data.filter (·.1 = i)).map Prod.snd).getD 0xff
    | _ => 0xff
  broken
    | .filamentStatus i => status.any (·.1 = i)
    | .filament i => data.any (·.1 = i)
    | _ => false
  writesLeft := none

namespace FilamentLoaded

theorem blank_worn_none (status : Option (Fin 3 × UInt8)) (stuck : UInt8) :
    Blank size stuck (.worn status none) := by
  have hstatus : ∃ i₀, ∀ i < 3, i ≠ i₀ → (EEPROM.worn status none).broken (.filamentStatus i) = false ∧
      (EEPROM.worn status none).read (.filamentStatus i) = 0xff := by
    refine ⟨(status.map (·.1.val)).getD 0, fun i _ hne => ?_⟩
    cases status with
    | none => exact ⟨rfl, rfl⟩
    | some s =>
        have hne : s.1.val ≠ i := Ne.symm hne
        simp [EEPROM.worn, Memory.read, hne, Option.filter]
  obtain ⟨i₀, hstatus⟩ := hstatus
  refine ⟨⟨rfl, ⟨i₀, fun i hi hne => (hstatus i hi hne).1⟩, fun _ _ => rfl,
    fun h => absurd h (Nat.lt_irrefl _)⟩, ⟨i₀, fun i hi hne => (hstatus i hi hne).2⟩, fun _ _ _ => rfl⟩

theorem blank_worn_some (status : Option (Fin 3 × UInt8)) (bad : Fin size) (stuck : UInt8) :
    Blank bad stuck (.worn status (some (bad, stuck))) := by
  obtain ⟨⟨-, hworks, -, -⟩, hvoted, -⟩ := blank_worn_none status stuck
  refine ⟨⟨rfl, hworks, fun i hi => ?_, fun _ => ?_⟩, hvoted, fun i _ hi => ?_⟩
  · simp [EEPROM.worn, Ne.symm hi]
  · simp [EEPROM.worn, Memory.read, Option.filter]
  · simp [EEPROM.worn, Memory.read, Option.filter, Ne.symm hi]

/-- The stuck byte carries a key the cursor starts under somewhere else. -/
def Mistakable (bad : Nat) (stuck : UInt8) : Prop :=
  ∃ k : Key, stuck >>> 4 = k.toByte ∧ k.place 0 ≠ bad

section Sound

variable {bad : Nat} {stuck : UInt8}

theorem sure_of_not_mistakable (h : ¬ Mistakable bad stuck) (c : Cursor) : c.Sure bad stuck := by
  rintro hlt ⟨hplace, hkey⟩
  refine h ⟨c.key, hkey, ?_⟩
  rw [← hplace, ne_eq, c.key.place_inj (by decide) hlt]
  omega

end Sound

section Complete

variable {bad : Nat} {stuck filament : UInt8} {e : EEPROM} {k : Key}

/-- Records of one filament lead to the cursor `c`. -/
def Reached (bad : Nat) (stuck filament : UInt8) (e : EEPROM) (c : Cursor) : Prop :=
  ∃ n, Recorded bad stuck filament c (after e (List.replicate (n + 1) filament))

theorem Reached.next {c : Cursor} (h : Reached bad stuck filament e c) (hsure : c.Sure bad stuck) :
    Reached bad stuck filament e (Cursor.next bad stuck filament (some c)) := by
  obtain ⟨n, hrecorded⟩ := h
  refine ⟨n + 1, ?_⟩
  rw [List.replicate_succ', after_append_singleton]
  exact (hrecorded.set hsure filament).2

/-- A pass up to the stuck cell. -/
theorem Reached.pass {a : Nat} (h : Reached bad stuck filament e ⟨k, a⟩) (d : Nat)
    (hlt : a + d < size) (hgood : ∀ t, a < t → t ≤ a + d → k.place t ≠ bad) :
    Reached bad stuck filament e ⟨k, a + d⟩ := by
  induction d with
  | zero => exact h
  | succ d ih =>
      have hbefore := ih (by omega) fun t hat htd => hgood t hat (by omega)
      have hnext := hgood (a + d + 1) (by omega) (by omega)
      have hreached := hbefore.next fun _ hseen => hnext hseen.1
      rw [Cursor.next, if_pos (show a + d + 1 < size by omega), if_neg hnext] at hreached
      exact hreached

/-- The cursor is under the key, before the stuck cell. -/
def Before (bad : Nat) (stuck filament : UInt8) (e : EEPROM) (k : Key) : Prop :=
  ∃ a < k.place bad, Reached bad stuck filament e ⟨k, a⟩

/-- From there it comes to the cell in front of the stuck one. -/
theorem Before.arrive (hbad : bad < size) (h : Before bad stuck filament e k) :
    ∃ t, t + 1 < size ∧ k.place (t + 1) = bad ∧ Reached bad stuck filament e ⟨k, t⟩ := by
  obtain ⟨a, ha, hreached⟩ := h
  have hlt := k.place_lt hbad
  have hself := k.place_place hbad
  have hpass := hreached.pass (k.place bad - 1 - a) (by omega) fun t hat htd hplace => by
    have := (k.place_inj (by omega) hlt).mp (hplace.trans hself.symm)
    omega
  refine ⟨k.place bad - 1, by omega, ?_, ?_⟩
  · rw [Nat.sub_add_cancel (by omega), hself]
  · rwa [Nat.add_sub_cancel' (by omega)] at hpass

theorem place_zero_eq_iff (hbad : bad < size) : k.place 0 = bad ↔ k.place bad = 0 := by
  constructor
  · rintro rfl
    exact k.place_place (by decide)
  · intro h
    rw [← k.place_place hbad, h]

/-- It starts under a key it turns to, unless the stuck cell is the first one there. -/
theorem before_turned (hbad : bad < size) (hne : stuck >>> 4 ≠ k.toByte ∨ k.place 0 ≠ bad)
    (h : Reached bad stuck filament e (Cursor.turned bad stuck k)) :
    (k.place bad ≠ 0 → Before bad stuck filament e k) ∧
      (k.place bad = 0 → Before bad stuck filament e k.next) := by
  have hstart : k.start bad stuck = 0 := by
    rw [Key.start, if_neg]
    rintro ⟨hplace, hkey⟩
    exact hne.elim (fun h => h hkey) fun h => h hplace
  rw [Cursor.turned, hstart] at h
  constructor
  · intro hpos
    rw [if_neg fun hplace => hpos ((place_zero_eq_iff hbad).mp hplace)] at h
    exact ⟨0, by omega, h⟩
  · intro hzero
    rw [if_pos ((place_zero_eq_iff hbad).mpr hzero)] at h
    refine ⟨_, ?_, h⟩
    have hplace : k.next.place bad = size - 1 := by
      rw [← (place_zero_eq_iff hbad).mpr hzero, ← k.next.place_place (t := size - 1) (by decide),
        k.place_next (t := size - 1) (by decide)]
      rfl
    rw [hplace, Key.start, size]
    split <;> omega

/-- Every turn comes closer to the key of the stuck byte. -/
theorem before_of_iterate (hbad : bad < size) {n : Key} (hkey : stuck >>> 4 = n.toByte)
    (hfirst : n.place 0 ≠ bad) (m : Nat) (hm : Key.next^[m] k = n)
    (h : Before bad stuck filament e k) : Before bad stuck filament e n := by
  induction m using Nat.strong_induction_on generalizing k with
  | _ m ih =>
      by_cases hkn : k = n
      · exact hkn ▸ h
      · have hkey_ne : ∀ k', k' ≠ n → stuck >>> 4 ≠ k'.toByte := by
          intro k' hne heq
          exact hne (Key.toByte_inj.mp (heq.symm.trans hkey))
        obtain ⟨t, hlt, hplace, hreached⟩ := h.arrive hbad
        have hturned := hreached.next fun _ hseen => hkey_ne k hkn hseen.2
        rw [Cursor.next, if_pos hlt, if_pos hplace] at hturned
        cases m with
        | zero => exact absurd hm hkn
        | succ m =>
            rw [Function.iterate_succ_apply] at hm
            have hne : stuck >>> 4 ≠ k.next.toByte ∨ k.next.place 0 ≠ bad := by
              by_cases hnext : k.next = n
              · exact .inr (hnext ▸ hfirst)
              · exact .inl (hkey_ne _ hnext)
            obtain ⟨hpos, hzero⟩ := before_turned hbad hne hturned
            by_cases hplace : k.next.place bad = 0
            · cases m with
              | zero =>
                  have hn : k.next = n := hm
                  exact absurd ((place_zero_eq_iff hbad).mpr hplace) (hn ▸ hfirst)
              | succ m =>
                  rw [Function.iterate_succ_apply] at hm
                  exact ih m (by omega) hm (hzero hplace)
            · exact ih m (by omega) hm (hpos hplace)

theorem exists_iterate_next (k n : Key) : ∃ m, Key.next^[m] k = n := by
  cases k <;> cases n <;> first
    | exact ⟨0, rfl⟩
    | exact ⟨1, rfl⟩
    | exact ⟨2, rfl⟩
    | exact ⟨3, rfl⟩

theorem before_of_blank (h : Blank bad stuck e) (hbad : bad < size)
    (hother : filament &&& 0x0f ≠ stuck &&& 0x0f) :
    ∃ k, Before bad stuck filament e k := by
  have hreached : Reached bad stuck filament e (Cursor.next bad stuck filament none) := by
    refine ⟨0, ?_⟩
    rw [List.replicate_one, ← List.nil_append [filament], after_append_singleton]
    exact (h.set filament).2
  have hrefused : ∀ k : Key, rawFilament k.toByte filament ≠ stuck := by
    rintro k rfl
    exact hother (rawFilament_spec k filament).2.symm
  rw [Cursor.next, Cursor.entered] at hreached
  split at hreached
  · next hfirst =>
      obtain ⟨rfl, -⟩ := hfirst
      obtain ⟨hpos, -⟩ := before_turned hbad (.inr (by decide)) hreached
      exact ⟨_, hpos (by decide)⟩
  · next hfirst =>
      have hne : Key.keyFront1.place 0 ≠ bad := fun heq => hfirst ⟨heq, hrefused _⟩
      refine ⟨.keyFront1, 0, Nat.pos_of_ne_zero fun hzero => ?_, hreached⟩
      exact hne ((place_zero_eq_iff hbad).mpr hzero)

/-- A byte that can be mistaken is read back instead of the record, sooner or later. -/
theorem get_eq_stuck (h : Blank bad stuck e) (hbad : bad < size)
    (hmistakable : Mistakable bad stuck) (hother : filament &&& 0x0f ≠ stuck &&& 0x0f) :
    ∃ n, get (after e (List.replicate (n + 1) filament)) = recorded stuck := by
  obtain ⟨n, hkey, hfirst⟩ := hmistakable
  obtain ⟨k, hbefore⟩ := before_of_blank h hbad hother
  obtain ⟨m, hm⟩ := exists_iterate_next k n
  obtain ⟨t, hlt, hplace, count, hreached⟩ :=
    (before_of_iterate hbad hkey hfirst m hm hbefore).arrive hbad
  exact ⟨count, hreached.get_mistaken hlt ⟨hplace, hkey⟩⟩

end Complete

theorem recorded_ne {filament stuck : UInt8} (hother : filament &&& 0x0f ≠ stuck &&& 0x0f)
    (hvalid : recorded filament = some filament) : recorded stuck ≠ some filament := by
  intro heq
  have hlow : ∀ b f : UInt8, recorded b = some f → b &&& 0x0f = f := by
    intro b f h
    rw [recorded] at h
    split at h
    · cases h
    · exact Option.some.inj h
  exact hother ((hlow _ _ hvalid).trans (hlow _ _ heq).symm)

/-- The record survives one failed status cell and one failed data cell, unless the byte the
data cell is stuck at can be mistaken. -/
theorem tolerates_iff (status : Option (Fin 3 × UInt8)) (data : Option (Fin size × UInt8)) :
    (∀ history : List UInt8, (∀ filament ∈ history, filament < Config.toolCount) →
      (∀ stored ∈ results (.worn status data) history, stored = true) ∧
        get (after (.worn status data) history) = history.getLast?) ↔
      ∀ bad stuck, data = some (bad, stuck) → ¬ Mistakable bad stuck := by
  constructor
  · rintro h bad stuck rfl hmistakable
    have hfilament : ∃ filament : UInt8, filament < Config.toolCount ∧
        recorded filament = some filament ∧ filament &&& 0x0f ≠ stuck &&& 0x0f := by
      by_cases hzero : stuck &&& 0x0f = 0
      · exact ⟨1, by decide, rfl, by rw [hzero]; decide⟩
      · exact ⟨0, by decide, rfl, Ne.symm hzero⟩
    obtain ⟨filament, hlt, hvalid, hother⟩ := hfilament
    obtain ⟨n, hstuck⟩ := get_eq_stuck (blank_worn_some status bad stuck) bad.isLt hmistakable hother
    have hget := (h (List.replicate (n + 1) filament)
      fun f hf => (List.eq_of_mem_replicate hf) ▸ hlt).2
    rw [hstuck, List.replicate_succ', List.getLast?_concat] at hget
    exact recorded_ne hother hvalid hget
  · intro h history hvalid
    have hdevice : ∃ bad stuck, Blank bad stuck (EEPROM.worn status data) ∧
        ∀ c : Cursor, c.Sure bad stuck := by
      rcases data with _ | ⟨bad, stuck⟩
      · exact ⟨size, 0, blank_worn_none status 0, sure_of_size_le (Nat.le_refl _)⟩
      · exact ⟨bad, stuck, blank_worn_some status bad stuck, sure_of_not_mistakable (h bad stuck rfl)⟩
    obtain ⟨bad, stuck, hblank, hsure⟩ := hdevice
    refine ⟨results_of_sure hblank hsure history, ?_⟩
    rw [get_of_sure hblank hsure]
    cases hlast : history.getLast? with
    | none => rfl
    | some filament =>
        have hlt := hvalid _ (List.mem_of_getLast? hlast)
        have hnibble : filament < 16 := UInt8.lt_trans hlt (by decide)
        rw [Option.bind_some, recorded_of_lt hnibble, if_pos hlt]

/-- The second data cell stuck at a byte that carries the first key: the filament read back
after the first record is the one this byte stands for. -/
theorem not_tolerates : ¬ ∀ (status : Option (Fin 3 × UInt8)) (data : Option (Fin size × UInt8))
    (history : List UInt8), (∀ filament ∈ history, filament < Config.toolCount) →
      (∀ stored ∈ results (.worn status data) history, stored = true) ∧
        get (after (.worn status data) history) = history.getLast? := by
  intro h
  have hget := (h none (some (⟨1, by decide⟩, 0x03)) [0] (by decide +kernel)).2
  have hread : get (after (.worn none (some (⟨1, by decide⟩, 0x03))) [0]) = some 3 := by
    decide +kernel
  rw [hread] at hget
  exact absurd hget (by decide)

end FilamentLoaded
end MmuFirmware
