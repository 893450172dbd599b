import MmuFirmware.Modules.Calls

/-!
Histories of calls. Whatever the firmware does to its modules is a sequence of calls; here are
the operations of `Modules` the logic is written in, each as such a sequence. Up to what the
register writes and a reset of the EEPROM do, the filament is only ever recorded to be in one
of the places the source has names for.
-/
namespace MmuFirmware

namespace FilamentLoadState

/-- The values of the enumeration. -/
def named : List FilamentLoadState := [notLoaded, atPulley, inSelector, inFSensor, inNozzle]

@[grind .] theorem atPulley_mem_named : atPulley ∈ named := by decide
@[grind .] theorem inSelector_mem_named : inSelector ∈ named := by decide
@[grind .] theorem inFSensor_mem_named : inFSensor ∈ named := by decide
@[grind .] theorem inNozzle_mem_named : inNozzle ∈ named := by decide

end FilamentLoadState

/-- A call the logic may make. -/
def ModuleCall.Ordinary : ModuleCall → Prop
  | setFilamentLoaded _ state => state ∈ FilamentLoadState.named
  | eraseEEPROM => False
  | idler _ | selector _ | others _ => True

namespace Modules

/-- Some sequence of allowed calls leads from `m` to `m'`. -/
def Reaches (Allowed : ModuleCall → Prop) (m m' : Modules) : Prop :=
  ∃ calls : List ModuleCall, (∀ c ∈ calls, Allowed c) ∧ Transducer.run call m calls = m'

namespace Reaches

variable {Allowed Allowed' : ModuleCall → Prop} {m m' m'' : Modules}

theorem refl (m : Modules) : m.Reaches Allowed m := ⟨[], by simp, rfl⟩

theorem trans (h : m.Reaches Allowed m') (h' : m'.Reaches Allowed m'') :
    m.Reaches Allowed m'' := by
  obtain ⟨calls, hcalls, rfl⟩ := h
  obtain ⟨calls', hcalls', rfl⟩ := h'
  refine ⟨calls ++ calls', fun c hc => ?_, Transducer.run_append _ _ _ _⟩
  exact (List.mem_append.mp hc).elim (hcalls c) (hcalls' c)

theorem mono (h : m.Reaches Allowed m') (hallowed : ∀ c, Allowed c → Allowed' c) :
    m.Reaches Allowed' m' := by
  obtain ⟨calls, hcalls, hrun⟩ := h
  exact ⟨calls, fun c hc => hallowed c (hcalls c hc), hrun⟩

theorem call (h : m.Reaches Allowed m') (c : ModuleCall) (hc : Allowed c) :
    m.Reaches Allowed (m'.call c).1 :=
  h.trans ⟨[c], by simpa using hc, rfl⟩

/-- What touches neither movable nor the record of the filament. -/
theorem others (h : m.Reaches ModuleCall.Ordinary m') (hidler : m''.idler = m'.idler)
    (hselector : m''.selector = m'.selector)
    (hslot : m''.globals.activeSlot = m'.globals.activeSlot)
    (hloaded : m''.globals.filamentLoaded = m'.globals.filamentLoaded)
    (hrecord : m''.globals.storage.filamentLoaded = m'.globals.storage.filamentLoaded) :
    m.Reaches ModuleCall.Ordinary m'' := by
  have heq : (m'.call (.others m'')).1 = m'' := by
    show m'.withOthers m'' = m''
    rw [withOthers, ← hidler, ← hselector, ← hslot, ← hloaded, ← hrecord]
  rw [← heq]
  exact h.call _ trivial

section Operations

variable (h : m.Reaches ModuleCall.Ordinary m')
include h

theorem setLeds (f : LEDs → LEDs) : m.Reaches ModuleCall.Ordinary (m'.setLeds f) :=
  h.others rfl rfl rfl rfl rfl

theorem idlerEngage (slot : UInt8) : m.Reaches ModuleCall.Ordinary (m'.idlerEngage slot) :=
  h.call (.idler (.engage slot)) trivial

theorem idlerDisengage : m.Reaches ModuleCall.Ordinary m'.idlerDisengage :=
  h.call (.idler .disengage) trivial

theorem selectorMoveToSlot (slot : UInt8) :
    m.Reaches ModuleCall.Ordinary (m'.selectorMoveToSlot slot).2 :=
  h.call (.selector (.moveToSlot slot)) trivial

theorem pulley (p : Pulley) : m.Reaches ModuleCall.Ordinary { m' with pulley := p } :=
  h.others rfl rfl rfl rfl rfl

theorem axes (idler selector : AxisCall) (p : Pulley) :
    m.Reaches ModuleCall.Ordinary
      { m' with
        pulley := p
        selector := { m'.selector with axis := selector.run m'.selector.axis }
        idler := { m'.idler with axis := idler.run m'.idler.axis } } :=
  ((h.pulley p).call (.selector (.axis selector)) trivial).call (.idler (.axis idler)) trivial

theorem abortPlannedMoves : m.Reaches ModuleCall.Ordinary m'.abortPlannedMoves :=
  h.axes .abortPlannedMoves .abortPlannedMoves _

end Operations

theorem sensedFilamentState_mem (m : Modules) :
    m.sensedFilamentState ∈ FilamentLoadState.named := by
  rw [sensedFilamentState]
  split <;> decide

end Reaches
end Modules
end MmuFirmware
