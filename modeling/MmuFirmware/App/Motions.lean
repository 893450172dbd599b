import MmuFirmware.App.Exclusion
import MmuFirmware.App.Histories
import MmuFirmware.Modules.QueueDiscipline
import MmuFirmware.Modules.TruthfulSlots

/-!
The moves of the idler and the selector in whole runs. A run is a history of calls from
power-on, so what holds in every such history holds in every run, whatever is requested,
pressed or sensed meanwhile.
-/
namespace MmuFirmware

open Transducer

namespace BootInput

variable (b : BootInput)

theorem blocks_testedAxis (a : AxisData) (registers : TMCRegisters) (h : a.blocks = []) :
    (testedAxis a registers).blocks = [] :=
  (blocks_initAxis _).trans h

theorem onCourse_modules : b.modules.OnCourse where
  idler := Movable.onCourse_of_invalid rfl fun _ => blocks_testedAxis _ _ rfl
  selector := Movable.onCourse_of_invalid rfl fun _ => blocks_testedAxis _ _ rfl

theorem cautious_modules : b.modules.Cautious :=
  ⟨b.onCourse_modules.idler.cautious, b.onCourse_modules.selector.cautious⟩

end BootInput

theorem AxisData.Used.testedAxis {a : AxisData} (h : a.Used false 0) (registers : TMCRegisters) :
    (BootInput.testedAxis a registers).Used false 0 := by
  have hread : ({ a with registers } : AxisData).Used false 0 := h.congr rfl rfl
  exact hread.initAxis.stallGuardReset

/-- Nothing is queued at power-on, and nothing has been misused. -/
theorem BootInput.orderly_modules (b : BootInput) : b.modules.Orderly := by
  have hidler : Idler.powerOn.axis.Used false 0 := ⟨rfl, fun _ => Nat.le_refl 0⟩
  have hselector : Selector.powerOn.axis.Used false 0 := ⟨rfl, fun _ => Nat.le_refl 0⟩
  exact ⟨.of_empty (hidler.testedAxis b.idler), .of_empty (hselector.testedAxis b.selector)⟩

/-- In every run, which is a history of calls, and in every history of calls: the axes of the idler
and the selector are never misused, if and only if no call changes one of them with moves queued. -/
theorem queues_respected_iff (b : BootInput) :
    (∀ inputs, ∃ calls, b.Performs inputs calls) ∧
      ∀ calls : List ModuleCall,
        ¬ (run Modules.call b.modules calls).misused = true ↔
          ∀ p ∈ steps Modules.call b.modules calls, ¬ p.1.Overrides p.2 :=
  ⟨b.run_performs, not_spoilt_run_iff Modules.call Modules.Orderly (·.misused = true)
    Modules.Overrides (fun _ _ h => h.call) (fun _ _ h => h.call_misused)
    (fun _ _ h => Modules.misused_call h _) (fun _ h => h.not_misused) _ b.orderly_modules⟩

/-- A load requested while the idler homes after power-on has it home anew, and so do requests to
engage, until the queue is full. -/
theorem homing_anew_misuses :
    (¬ ∀ (b : BootInput) (inputs : List LoopInput), (b.run inputs).modules.misused = false) ∧
      ¬ ∀ (b : BootInput) (inputs : List LoopInput), (b.run inputs).shownError ≠ .queueFull := by
  refine ⟨fun h => ?_, fun h => ?_⟩
  · exact absurd (h {} [(idleInput false).withRequest .load 0]) (by decide +kernel)
  · exact absurd (h {} (List.replicate 4 ((idleInput false).withWrite 0x1c 0))) (by decide +kernel)

/-- A refused request leaves the idler as it was. It leaves the selector as it was if and only if
that is moving or has been going to the slot requested anyway. -/
theorem refusal_iff (g : Globals) (finda : Bool) (slot : UInt8) :
    (∀ i : Idler,
      ((i.engage g slot).1 = .refused → (i.engage g slot).2 = i) ∧
        ((i.partiallyDisengage g slot).1 = .refused → (i.partiallyDisengage g slot).2 = i) ∧
        ((i.disengage g).1 = .refused → (i.disengage g).2 = i)) ∧
      ∀ s : Selector, (Selector.moveToSlot s g finda slot).1 = .refused →
        ((Selector.moveToSlot s g finda slot).2 = s ↔
          s.isIn .moving = true ∨ s.plannedSlot = slot) :=
  ⟨fun i => ⟨Idler.planMoveInner_refused i g slot .engage,
    Idler.planMoveInner_refused i g slot .intermediate,
    Idler.planMoveInner_refused i g Idler.idleSlotIndex .disengage⟩,
    fun s => Selector.moveToSlot_refused_iff s g finda slot⟩

/-- A slot that a request refused because of FINDA names is kept as the planned one. -/
theorem refused_slot_is_kept :
    ¬ ∀ (b : BootInput) (inputs : List LoopInput) (slot : UInt8),
      let m := (b.run inputs).modules
      (Selector.moveToSlot m.selector m.globals m.finda.pressed slot).1 = .refused →
        (Selector.moveToSlot m.selector m.globals m.finda.pressed slot).2 = m.selector := by
  intro h
  have hkept := h loadedBoot [] 3 (by decide +kernel)
  exact absurd (congrArg Movable.plannedSlot hkept) (by decide +kernel)

/-- Every run is a history of calls, and as long as nothing cuts a movable's way short and no
other slot is planned for a selector held under way, both movables are where they say. -/
theorem slots_truthful (b : BootInput) :
    (∀ inputs, ∃ calls, b.Performs inputs calls) ∧
      ∀ calls : List ModuleCall,
        (∀ p ∈ steps Modules.call b.modules calls, ¬ p.1.CutsShort p.2 ∧ ¬ p.1.Retargets p.2) →
          (run Modules.call b.modules calls).SlotsTruthful := by
  refine ⟨b.run_performs, fun calls hsteps => ?_⟩
  have hguarantee := steps_guarantee Modules.call Modules.OnCourse
    (fun m c => ¬ m.CutsShort c ∧ ¬ m.Retargets c) (fun _ _ => True)
    (fun m c h hstep => ⟨h.call hstep.1 hstep.2, trivial⟩) _ b.onCourse_modules calls hsteps
  exact hguarantee.1.slotsTruthful

/-- Power-on, and the first call of the main loop to the idler. -/
theorem slots_truthful_step :
    (run Modules.call ({} : BootInput).modules [.idler .init, .idler .step]).SlotsTruthful := by
  refine (slots_truthful {}).2 _ ?_
  simp only [steps_cons, steps_nil, List.forall_mem_cons, List.not_mem_nil, false_implies,
    implies_true, and_true]
  exact ⟨⟨by simp [Modules.CutsShort], by simp [Modules.Retargets]⟩,
    by simp [Modules.CutsShort], by simp [Modules.Retargets]⟩

/-- All moves of the selector run out without a stall. -/
def selectorRunsOut : LoopInput :=
  { beforeModules :=
      { elapsedMs := 1000
        selector := { pulses := [(100000, false), (100000, false), (100000, false)] } } }

/-- The idler has homed; it engages for a load while the selector fails to home. Then the user
asks to try again. -/
def idlerHeldUnderWay : List LoopInput :=
  [idlerStalls false, idlerStalls false, idlerMoveDone, (idleInput false).withRequest .load 0,
    idleInput false, selectorRunsOut, (idleInput false).withRequest .button 1, idleInput false]

/-- The idler says that it is engaged for slot 0, where it has not moved at all. -/
theorem idler_not_truthful :
    ¬ ∀ (b : BootInput) (inputs : List LoopInput), (b.run inputs).modules.SlotsTruthful := by
  intro h
  have hposition := (h {} idlerHeldUnderWay).idler (by decide +kernel) (by decide +kernel)
    (by decide +kernel)
  exact absurd hposition (by decide +kernel)

end MmuFirmware
