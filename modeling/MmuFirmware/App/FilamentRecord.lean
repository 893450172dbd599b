import MmuFirmware.App.Exclusion
import MmuFirmware.App.Histories

/-!
What a restart makes of the filament record, compared with what the running firmware takes for
loaded. The record holds a slot and nothing else, so they agree as long as the slot is one the
record can tell from none at all. A filament of which no slot is known is recorded as none; it
is left to the start-up to compare the record with FINDA.
-/
namespace MmuFirmware

open FilamentLoadState Modules

/-- The slot the record has room for. -/
def recordedSlot (slot : UInt8) : UInt8 := slot &&& 0x0f

namespace Globals

/-- A restart finds a filament loaded. -/
def restartsLoaded (g : Globals) : Prop := (Globals.init g.storage).activeSlot < Config.toolCount

/-- A restart finds a filament loaded where the state is in the selector or farther and the
slot can be recorded, and then in that slot. -/
structure RecordAgrees (g : Globals) : Prop where
  loaded : g.restartsLoaded ↔
    inSelector ≤ g.filamentLoaded ∧ recordedSlot g.activeSlot < Config.toolCount
  slot : g.restartsLoaded → (Globals.init g.storage).activeSlot = recordedSlot g.activeSlot

variable {g : Globals}

theorem recordAgrees_of_none (hnone : (Globals.init g.storage).activeSlot = Config.toolCount)
    (h : ¬ (inSelector ≤ g.filamentLoaded ∧ recordedSlot g.activeSlot < Config.toolCount)) :
    g.RecordAgrees := by
  have hunloaded : ¬ g.restartsLoaded := by
    rw [restartsLoaded, hnone]
    exact UInt8.lt_irrefl _
  exact ⟨iff_of_false hunloaded h, fun hloaded => absurd hloaded hunloaded⟩

theorem recordAgrees_of_some
    (hsome : (Globals.init g.storage).activeSlot = recordedSlot g.activeSlot)
    (hslot : recordedSlot g.activeSlot < Config.toolCount) (hloaded : inSelector ≤ g.filamentLoaded) :
    g.RecordAgrees := by
  have hrestarts : g.restartsLoaded := by rwa [restartsLoaded, hsome]
  exact ⟨iff_of_true hrestarts ⟨hloaded, hslot⟩, fun _ => hsome⟩

theorem recordedSlot_of_lt {slot : UInt8} (h : slot < Config.toolCount) :
    recordedSlot slot = slot := by
  have hlt : slot.toNat < 16 := Nat.lt_trans h (by decide)
  rw [recordedSlot, ← UInt8.toNat_inj, UInt8.toNat_and]
  exact (Nat.and_two_pow_sub_one_eq_mod slot.toNat 4).trans (Nat.mod_eq_of_lt hlt)

theorem init_activeSlot_of_record {storage : PermanentStorage} {filament : UInt8}
    (h : storage.filamentLoaded = some filament) :
    (Globals.init storage).activeSlot =
      if filament < Config.toolCount then filament else Config.toolCount := by
  simp only [init, h]

theorem init_filamentLoaded (storage : PermanentStorage) :
    (Globals.init storage).filamentLoaded =
      if (Globals.init storage).activeSlot < Config.toolCount then inNozzle else atPulley := rfl

theorem init_activeSlot_cases (storage : PermanentStorage) :
    (Globals.init storage).activeSlot < Config.toolCount ∨
      (Globals.init storage).activeSlot = Config.toolCount := by
  cases hrecord : storage.filamentLoaded with
  | none => exact .inr (by simp only [init, hrecord])
  | some filament =>
      rw [init_activeSlot_of_record hrecord]
      split
      · next hslot => exact .inl hslot
      · exact .inr rfl

theorem RecordAgrees.congr {g' : Globals} (h : g.RecordAgrees)
    (hslot : g'.activeSlot = g.activeSlot) (hloaded : g'.filamentLoaded = g.filamentLoaded)
    (hrecord : g'.storage.filamentLoaded = g.storage.filamentLoaded) : g'.RecordAgrees := by
  have hinit : (Globals.init g'.storage).activeSlot = (Globals.init g.storage).activeSlot := by
    simp only [init, hrecord]
  have hrestarts : g'.restartsLoaded ↔ g.restartsLoaded := by
    rw [restartsLoaded, restartsLoaded, hinit]
  refine ⟨?_, fun hloaded => ?_⟩
  · rw [hrestarts, hslot, hloaded]
    exact h.loaded
  · rw [hinit, hslot]
    exact h.slot (hrestarts.mp hloaded)

theorem recordAgrees_init (storage : PermanentStorage) : (Globals.init storage).RecordAgrees := by
  rcases init_activeSlot_cases storage with hslot | hnone
  · have hrecorded := recordedSlot_of_lt hslot
    refine recordAgrees_of_some hrecorded.symm (hrecorded.symm ▸ hslot) ?_
    rw [init_filamentLoaded, if_pos hslot]
    decide
  · refine recordAgrees_of_none hnone fun h => ?_
    rw [init_filamentLoaded, hnone, if_neg (UInt8.lt_irrefl _)] at h
    exact absurd h.1 (by decide)

theorem recordAgrees_setFilamentLoaded (g : Globals) (slot : UInt8) {s : FilamentLoadState}
    (hs : s ∈ named) : (g.setFilamentLoaded slot s).RecordAgrees := by
  by_cases hbelow : s = notLoaded ∨ s = atPulley
  · have hrecord : (g.setFilamentLoaded slot s).storage.filamentLoaded = some Config.toolCount := by
      rw [setFilamentLoaded, if_pos hbelow]
      rfl
    refine recordAgrees_of_none ((init_activeSlot_of_record hrecord).trans ?_) fun h => ?_
    · exact if_neg (UInt8.lt_irrefl _)
    · rw [setFilamentLoaded_filamentLoaded] at h
      rcases hbelow with rfl | rfl <;> exact absurd h.1 (by decide)
  · have hloaded : s = inSelector ∨ s = inFSensor ∨ s = inNozzle := by
      simp only [named, List.mem_cons, List.not_mem_nil, or_false] at hs
      exact (or_assoc.mpr hs).resolve_left hbelow
    have hrecord : (g.setFilamentLoaded slot s).storage.filamentLoaded =
        some (recordedSlot slot) := by
      rw [setFilamentLoaded, if_neg hbelow, if_pos hloaded]
      rfl
    have hactive := init_activeSlot_of_record hrecord
    by_cases hslot : recordedSlot slot < Config.toolCount
    · rw [if_pos hslot] at hactive
      refine recordAgrees_of_some hactive hslot ?_
      rw [setFilamentLoaded_filamentLoaded]
      rcases hloaded with rfl | rfl | rfl <;> decide
    · rw [if_neg hslot] at hactive
      exact recordAgrees_of_none hactive fun h => hslot h.2

end Globals

/-- A restart would agree with what the firmware takes for loaded now. -/
def Modules.RecordAgrees (m : Modules) : Prop := m.globals.RecordAgrees

theorem Modules.RecordAgrees.call {m : Modules} (h : m.RecordAgrees) {c : ModuleCall}
    (hc : c.Ordinary) : (m.call c).1.RecordAgrees := by
  cases c with
  | idler | selector => exact h
  | setFilamentLoaded slot state => exact Globals.recordAgrees_setFilamentLoaded _ slot hc
  | eraseEEPROM => exact hc.elim
  | others m' => exact Globals.RecordAgrees.congr h rfl rfl rfl

theorem Modules.Reaches.recordAgrees {m m' : Modules} (h : m.Reaches ModuleCall.Ordinary m')
    (hm : m.RecordAgrees) : m'.RecordAgrees := by
  obtain ⟨calls, hcalls, rfl⟩ := h
  have hguarantee := Transducer.steps_guarantee Modules.call Modules.RecordAgrees
    (fun _ c => c.Ordinary) (fun _ _ => True) (fun _ _ h hc => ⟨h.call hc, trivial⟩) m hm calls
    fun p hp => hcalls _ (Transducer.snd_mem_of_mem_steps _ hp)
  exact hguarantee.1

/-- The request is no write of the filament state with a value the source has no name for. -/
def WritesNamed (rq : RequestMsg) : Prop :=
  rq.code = .write → rq.value = 7 → rq.value2.toUInt8 ∈ named

instance (rq : RequestMsg) : Decidable (WritesNamed rq) :=
  inferInstanceAs (Decidable (_ → _ → _))

/-- In every run in which nothing but places the source has names for is written to the
register of the filament state, a restart would agree with the running firmware. -/
theorem record_agrees (b : BootInput) (inputs : List LoopInput)
    (hwrites : ∀ r ∈ b.reports inputs, ∀ rq, r.request = some rq → WritesNamed rq)
    (hreset : (b.run inputs).boardReset = false) : (b.run inputs).modules.RecordAgrees := by
  have hhistory := (World.stagesPreserve_hasHistory (P := ModuleCall.Ordinary) (fun _ h => h)
    b.modules).run (b.hasHistory_world fun _ h => h) inputs
    fun r hr rq hrq hcode hvalue _ => hwrites r hr rq hrq hcode hvalue
  rcases hhistory with ⟨hboard, -⟩ | hreaches
  · exact absurd (hboard.symm.trans hreset) (by decide)
  · exact hreaches.recordAgrees (Globals.recordAgrees_init b.storage)

/-- Nothing is recorded, but FINDA gets pressed. Then the axes are told to home. -/
def homeUnderFinda : List LoopInput :=
  [idlerStalls true, idleInput true, idlerStalls true, (idleInput true).withRequest .home 0]

theorem writesNamed_homeUnderFinda :
    ∀ r ∈ ({} : BootInput).reports homeUnderFinda, ∀ rq, r.request = some rq → WritesNamed rq := by
  have hall : ∀ r ∈ ({} : BootInput).reports homeUnderFinda, r.request.all (WritesNamed ·) := by
    decide +kernel
  intro r hr rq hrq
  simpa [hrq] using hall r hr

theorem record_agrees_home : (({} : BootInput).run homeUnderFinda).modules.RecordAgrees :=
  record_agrees {} homeUnderFinda writesNamed_homeUnderFinda (by decide +kernel)

/-- The filament is in the selector then, of a slot nobody knows; a restart finds none. -/
theorem home_records_no_slot :
    ¬ ∀ (b : BootInput) (inputs : List LoopInput),
      (∀ r ∈ b.reports inputs, ∀ rq, r.request = some rq → WritesNamed rq) →
      (b.run inputs).boardReset = false →
      let g := (b.run inputs).modules.globals
      (g.restartsLoaded ↔ inSelector ≤ g.filamentLoaded) ∧
        (g.restartsLoaded → (Globals.init g.storage).activeSlot = g.activeSlot) := by
  intro h
  have hunloaded : ¬ (({} : BootInput).run homeUnderFinda).modules.globals.restartsLoaded := by
    rw [Globals.restartsLoaded]
    decide +kernel
  have hloaded : inSelector ≤
      (({} : BootInput).run homeUnderFinda).modules.globals.filamentLoaded := by
    decide +kernel
  exact hunloaded ((h {} homeUnderFinda writesNamed_homeUnderFinda (by decide +kernel)).1.mpr hloaded)

end MmuFirmware
