import MmuFirmware.Logic.Durable
import MmuFirmware.Logic.Recovery
import MmuFirmware.Modules.PlannedRates

/-!
The logic plans with the speeds of the globals. Of these it only changes the one of the selector:
a cut takes the one of homing for it, and puts back what it has saved.
-/
namespace MmuFirmware

namespace Modules

/-- The step timer can follow the speeds, and has been able to follow every planned move. -/
structure Paced (m : Modules) : Prop where
  feedrates : m.globals.feedrates.InRange
  idler : m.idler.axis.Paced
  selector : m.selector.axis.Paced
  pulley : m.pulley.axis.Paced

namespace Paced

variable {m m' : Modules} (h : m.Paced)
include h

/-- Of the modules, at most the speeds and the fastest rates matter. -/
theorem congr (hspeeds : m'.globals.feedrates = m.globals.feedrates)
    (hidler : m'.idler.axis.topRate = m.idler.axis.topRate)
    (hselector : m'.selector.axis.topRate = m.selector.axis.topRate)
    (hpulley : m'.pulley.axis.topRate = m.pulley.axis.topRate) : m'.Paced := by
  refine ⟨?_, h.idler.congr hidler, h.selector.congr hselector, h.pulley.congr hpulley⟩
  rw [hspeeds]
  exact h.feedrates

theorem withIdler {i : Idler} (hidler : i.axis.Paced) : Paced { m with idler := i } :=
  ⟨h.feedrates, hidler, h.selector, h.pulley⟩

theorem withSelector {s : Selector} (hselector : s.axis.Paced) : Paced { m with selector := s } :=
  ⟨h.feedrates, h.idler, hselector, h.pulley⟩

theorem withPulley {p : Pulley} (hpulley : p.axis.Paced) : Paced { m with pulley := p } :=
  ⟨h.feedrates, h.idler, h.selector, hpulley⟩

theorem withSpeeds {g : Globals} (hg : g.feedrates.InRange) : Paced { m with globals := g } :=
  ⟨hg, h.idler, h.selector, h.pulley⟩

theorem planHome (axis : Axis) : (m.planHome axis).Paced := by
  cases axis with
  | pulley =>
      refine h.withPulley (Movable.ofPlan_paced.planHome h.pulley _ fun _ hplanned => ?_)
      exact hplanned
  | selector => exact h.withSelector (Selector.paced_planHome h.selector m.globals)
  | idler => exact h.withIdler (Idler.paced_planHome h.feedrates h.idler)

omit h in
theorem holdOn {ε : Type} {a : Movable ε} (ha : a.axis.Paced) : (Movable.holdOn a).axis.Paced :=
  ha.congr (AxisData.topRate_disable _)

omit h in
def durable : Durable where
  P := Paced
  Slot _ := True
  Place _ := True
  Feed feed := feed ≤ Axis.pulley.topSpeed
  Rate rate := rate ≤ Axis.selector.topSpeed
  active _ := trivial
  tool _ := trivial
  place _ := trivial
  slowFeed h := h.feedrates.pulleySlow
  loadFeed h := h.feedrates.pulleyLoad
  unloadFeed h := h.feedrates.pulleyUnload
  others h hidler hselector hpulley _ _ _ _ hspeeds := by
    refine h.congr hspeeds ?_ ?_ ?_
    · rw [hidler]
    · rw [hselector]
    · rw [hpulley]
  setAllOff h := h.congr rfl rfl rfl rfl
  setPair h _ _ _ _ := h.congr rfl rfl rfl rfl
  setFilamentLoaded h _ _ _ _ := h.congr rfl rfl rfl rfl
  idlerEngage h _ _ := h.withIdler (Idler.paced_planMoveInner h.feedrates h.idler _ _)
  idlerPartiallyDisengage h _ _ := h.withIdler (Idler.paced_planMoveInner h.feedrates h.idler _ _)
  idlerDisengage h := h.withIdler (Idler.paced_planMoveInner h.feedrates h.idler _ _)
  selectorMoveToSlot h _ _ := h.withSelector (Selector.paced_moveToSlot h.feedrates h.selector _ _)
  pulleyPlanMove h _ hfeed delta endRate :=
    h.withPulley (Pulley.paced_planMove h.pulley hfeed delta endRate)
  pulleyDisable h := h.withPulley (h.pulley.congr (AxisData.topRate_disable _))
  idlerAxis h c := h.withIdler (h.idler.run c)
  selectorAxis h c := h.withSelector (h.selector.run c)
  pulleyAxis h c := h.withPulley (h.pulley.run c)
  selectorFeedrate h _ hrate := h.withSpeeds { h.feedrates with selector := hrate }
  idlerInvalidateHoming h := h.congr rfl rfl rfl rfl
  selectorInvalidateHoming h := h.congr rfl rfl rfl rfl
  holdIdlerSelector h := (h.withIdler (holdOn h.idler)).withSelector (holdOn h.selector)
  resumeIdlerSelector h := h.congr rfl rfl rfl rfl
  planHome h axis := h.planHome axis

end Paced
end Modules

section Saved

variable {m : Modules}

theorem CutFilament.saved_reset (c : CutFilament) (param : UInt8) :
    (reset c param m).2.1.data.savedSelectorFeedRate = c.data.savedSelectorFeedRate := by
  rw [reset, Command.checkToolIndex]
  grind [selectFilamentSlot, moveSelector, Command.goToErrDisengagingIdler]

/-- What is saved is the speed of the selector. -/
theorem CutFilament.saved_stepInner (c : CutFilament) :
    (stepInner c m).2.1.data.savedSelectorFeedRate = c.data.savedSelectorFeedRate ∨
      (stepInner c m).2.1.data.savedSelectorFeedRate = m.globals.selectorFeedrate := by
  have hreset := fun m param => saved_reset (m := m) c param
  rw [stepInner]
  grind [selectFilamentSlot, moveSelector, Command.goToErrDisengagingIdler,
    Command.errDisengagingIdler, Command.finishedOK, Command.unhandledState]

end Saved

namespace CommandId

/-- The speed a command keeps is one the step timer can follow. -/
def KeepsPace : (id : CommandId) → id.Object → Prop
  | .cutFilament, c => c.data.savedSelectorFeedRate ≤ Axis.selector.topSpeed
  | .startUp, _ | .noCommand, _ | .ejectFilament, _ | .home, _ | .loadFilament, _
  | .moveSelector, _ | .setMode, _ | .toolChange, _ | .unloadFilament, _ => True

variable {id : CommandId} {c c' : id.Object} {m : Modules}

theorem KeepsPace.congr (h : id.KeepsPace c) (hdata : c'.data = c.data) : id.KeepsPace c' := by
  cases id with
  | cutFilament => exact le_of_eq_of_le (congrArg CutFilamentData.savedSelectorFeedRate hdata) h
  | startUp | noCommand | ejectFilament | home | loadFilament | moveSelector | setMode
  | toolChange | unloadFilament => trivial

theorem KeepsPace.reset (h : id.KeepsPace c) (param : UInt8) :
    id.KeepsPace (id.reset c param m).2.1 := by
  cases id with
  | cutFilament => exact le_of_eq_of_le (CutFilament.saved_reset (m := m) c param) h
  | startUp | noCommand | ejectFilament | home | loadFilament | moveSelector | setMode
  | toolChange | unloadFilament => trivial

theorem KeepsPace.stepInner (h : id.KeepsPace c) (hm : m.Paced) :
    id.KeepsPace (id.stepInner c m).2.1 := by
  cases id with
  | cutFilament =>
      rcases CutFilament.saved_stepInner (m := m) c with hsame | hsaved
      · exact le_of_eq_of_le hsame h
      · exact le_of_eq_of_le hsaved hm.feedrates.selector
  | startUp | noCommand | ejectFilament | home | loadFilament | moveSelector | setMode
  | toolChange | unloadFilament => trivial

theorem KeepsPace.stepsWithin (h : id.KeepsPace c) (hm : m.Paced) :
    id.StepsWithin Modules.Paced.durable c m := by
  cases id with
  | cutFilament => exact ⟨⟨trivial, trivial⟩, fun _ => hm.feedrates.selectorHoming, fun _ => h⟩
  | moveSelector => exact fun _ _ => trivial
  | toolChange => exact fun _ => trivial
  | startUp | noCommand | ejectFilament | home | loadFilament | setMode | unloadFilament => trivial

theorem paced_reset (hm : m.Paced) (c : id.Object) (param : UInt8) :
    (id.reset c param m).2.2.Paced := by
  refine id.holds_reset (D := Modules.Paced.durable) hm c ?_
  cases id <;> trivial

end CommandId

namespace Running

variable {id : CommandId} {r : Running id.Data}

theorem paced_step (h : id.KeepsPace r.command) (hm : r.modules.Paced) :
    id.KeepsPace (r.step id.stepInner).2.command ∧ (r.step id.stepInner).2.modules.Paced := by
  have hkeeps : id.KeepsPace r.waitForModulesErrorRecovery.2.command :=
    h.congr carries_waitForModules.data
  have hwaited : r.waitForModulesErrorRecovery.2.modules.Paced :=
    r.holds_waitForModules (D := Modules.Paced.durable) hm
  refine ⟨?_, holds_step (D := Modules.Paced.durable) hm fun _ _ => hkeeps.stepsWithin hwaited⟩
  rw [step]
  dsimp only
  split
  · exact hkeeps
  · exact hkeeps.stepInner hwaited

end Running

end MmuFirmware
