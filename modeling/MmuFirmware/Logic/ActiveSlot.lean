import MmuFirmware.Logic.Closure
import MmuFirmware.Logic.NestedUnload

/-!
Where the active slot is one of the tools. After power-on and after manual moves it may be the
place beside them; the commands that show a slot on its LEDs rely on it being a tool, except in
the states in which they have not come to that yet.
-/
namespace MmuFirmware

namespace Modules

def slotActive (m : Modules) : Bool := m.activeSlot < Config.toolCount

/-- The selector is told to move and does not. -/
def selectorRefuses (m : Modules) (slot : UInt8) : Bool :=
  (m.selectorMoveToSlot slot).1 != .accepted

/-- The active slot is a tool, and no LEDs have been asked for but those of tools. -/
structure Lit (m : Modules) : Prop where
  slot : m.slotActive
  leds : m.leds.Sound

namespace Lit

variable {m m' : Modules} (h : m.Lit)
include h

/-- What touches neither the LEDs nor the record of the filament. -/
theorem congr (hleds : m'.leds = m.leds) (hslot : m'.globals.activeSlot = m.globals.activeSlot) :
    m'.Lit := by
  refine ⟨?_, ?_⟩
  · rw [slotActive, activeSlot, hslot]
    exact h.slot
  · rw [hleds]
    exact h.leds

omit h in
theorem place {slot : UInt8} (hleds : m.leds.Sound) (hslot : slot < Config.toolCount)
    (s : FilamentLoadState) : (m.setFilamentLoaded slot s).Lit :=
  ⟨decide_eq_true hslot, hleds⟩

end Lit

/-- A tool stays the active slot as long as tools are recorded. -/
def Lit.lasting : Lasting where
  P := Lit
  Slot slot := slot < Config.toolCount
  Place _ := True
  active h := of_decide_eq_true h.slot
  tool h := h
  place _ := trivial
  others h _ _ hleds hslot _ _ := h.congr hleds hslot
  setAllOff h := ⟨h.slot, h.leds.setAllOff⟩
  setPair h _ hslot green red := ⟨h.slot, h.leds.setPairButOffOthers hslot green red⟩
  setFilamentLoaded h _ hslot s _ := .place h.leds hslot s
  idlerEngage h _ _ := h.congr rfl rfl
  idlerPartiallyDisengage h _ _ := h.congr rfl rfl
  idlerDisengage h := h.congr rfl rfl
  selectorMoveToSlot h _ _ := h.congr rfl rfl
  idlerAxis h _ := h.congr rfl rfl
  selectorAxis h _ := h.congr rfl rfl
  idlerInvalidateHoming h := h.congr rfl rfl
  selectorInvalidateHoming h := h.congr rfl rfl
  holdIdlerSelector h := h.congr rfl rfl
  resumeIdlerSelector h := h.congr rfl rfl
  planHome h axis := by cases axis <;> exact h.congr rfl rfl

end Modules

open Modules (Lit)

theorem ToolChange.lit_goToFeedingToFinda {m : Modules} {c : ToolChange} (hleds : m.leds.Sound)
    (hplanned : c.data.plannedSlot < Config.toolCount) : (goToFeedingToFinda c m).2.Lit := by
  have hplace : (m.setFilamentLoaded c.data.plannedSlot .atPulley).Holds Lit.lasting.durable :=
    Lit.place hleds hplanned _
  show Modules.Holds _ Lit.lasting.durable
  rw [goToFeedingToFinda]
  grind

/-- A command that does nothing any more by itself. -/
def ProgressCode.ended (s : ProgressCode) : Bool := s == .ok || s == .errInternal

namespace CommandId

/-- The states of a command in which it does not rely on the active slot: it is over, nothing
has been unloaded, or it has not come to its own slot yet. -/
def restsWithout : (id : CommandId) → id.Object → Bool
  | .loadFilament, c => c.state.ended
  | .unloadFilament, c => c.state.ended
  | .toolChange, c =>
      c.state.ended || c.state == .unloadingFilament && c.data.unl.state.ended
  | .cutFilament, c =>
      c.state.ended || c.state == .unloadingFilament && c.data.unl.state.ended ||
        c.state == .selectingFilamentSlot
  | .ejectFilament, c =>
      c.state.ended || c.state == .unloadingFilament && c.data.unl.state.ended ||
        c.state == .parkingSelector || c.state == .engagingIdler || c.state == .ejectingFilament
  | .startUp, _ | .noCommand, _ | .home, _ | .moveSelector, _ | .setMode, _ => true

/-- The slot a command is going to make the active one is a tool. -/
def PlansTool : (id : CommandId) → id.Object → Prop
  | .toolChange, c => c.state.ended ∨ c.data.plannedSlot < Config.toolCount
  | .cutFilament, c => c.state.ended ∨ c.data.cutSlot < Config.toolCount
  | .startUp, _ | .noCommand, _ | .ejectFilament, _ | .home, _ | .loadFilament, _
  | .moveSelector, _ | .setMode, _ | .unloadFilament, _ => True

/-- The unload of an eject has ended. -/
def unloadEnded : (id : CommandId) → id.Object → Bool
  | .ejectFilament, c => c.data.unl.state.ended
  | .startUp, _ | .noCommand, _ | .cutFilament, _ | .home, _ | .loadFilament, _
  | .moveSelector, _ | .setMode, _ | .toolChange, _ | .unloadFilament, _ => true

/-- Unless it is unloading, or was stopped there. -/
def hasUnloaded (id : CommandId) (c : id.Object) : Bool :=
  c.state == .unloadingFilament || c.state == .errInternal || id.unloadEnded c

/-- A command that is not in charge relies on nothing, and its unload has ended. -/
structure Dormant (id : CommandId) (c : id.Object) : Prop where
  rests : id.restsWithout c
  plans : id.PlansTool c
  unloaded : id.unloadEnded c

/-- `Reset` unloads what is loaded in the active slot, or the selector refuses to make way. -/
def resetNeedsSlot : CommandId → UInt8 → Modules → Bool
  | .unloadFilament, _, m => !UnloadFilament.nothingLoaded m
  | .toolChange, param, m => param < Config.toolCount && m.filamentLoaded ≥ .inSelector
  | .cutFilament, param, m =>
      param < Config.toolCount && (m.filamentLoaded ≥ .inSelector || m.selectorRefuses param)
  | .ejectFilament, param, m =>
      param < Config.toolCount &&
        if m.filamentLoaded ≥ .atPulley then !UnloadFilament.nothingLoaded m
        else m.selectorRefuses (EjectFilament.parkedPos param)
  | .startUp, _, _ | .noCommand, _, _ | .home, _, _ | .loadFilament, _, _ | .moveSelector, _, _
  | .setMode, _, _ => false

/-- `StepInner` is about to report an error of the active slot where none has been unloaded:
the selector refuses to make way, or the filament has been ejected. -/
def stepNeedsSlot : (id : CommandId) → id.Object → Modules → Bool
  | .cutFilament, c, m =>
      c.state == .unloadingFilament && c.data.unl.state.ended && m.selectorRefuses c.data.cutSlot
  | .ejectFilament, c, m =>
      c.state == .unloadingFilament && c.data.unl.state.ended &&
          m.selectorRefuses (EjectFilament.parkedPos c.data.slot) ||
        c.state == .ejectingFilament && m.queueEmpty
  | .startUp, _, _ | .noCommand, _, _ | .home, _, _ | .loadFilament, _, _ | .moveSelector, _, _
  | .setMode, _, _ | .toolChange, _, _ | .unloadFilament, _, _ => false

end CommandId

/-- What a step or a reset has to leave behind. -/
structure CommandId.Placed (id : CommandId) (c : id.Object) (m : Modules) : Prop where
  leds : m.leds.Sound
  slot : m.slotActive ∨ id.restsWithout c

theorem CommandId.placed_of_lit {id : CommandId} {c : id.Object} {m : Modules} (h : m.Lit) :
    id.Placed c m :=
  ⟨h.leds, .inl h.slot⟩

section Slotless

variable {m : Modules}

/-- A nested unload that has ended has nothing more to do. -/
theorem UnloadFilament.stepInner_ended {c : UnloadFilament} (h : c.state.ended) :
    (stepInner c m).1 = true ∧ (stepInner c m).2.2 = m ∧
      (stepInner c m).2.1.state.ended := by
  simp only [ProgressCode.ended, Bool.or_eq_true, beq_iff_eq] at h
  rcases h with hstate | hstate <;> rw [stepInner, hstate]
  · exact ⟨rfl, rfl, by rw [hstate]; rfl⟩
  · exact ⟨rfl, rfl, rfl⟩

theorem UnloadFilament.ended_of_done {c : UnloadFilament} (h : (stepInner c m).1 = true) :
    (stepInner c m).2.1.state.ended := by
  rw [stepInner] at h ⊢
  grind [ProgressCode.ended, Command.unhandledState]

theorem CommandId.stepInner_ended {id : CommandId} {c : id.Object} (h : c.state.ended) :
    (id.stepInner c m).2.2 = m ∧ (id.stepInner c m).2.1.state.ended := by
  have hstate : c.state = .ok ∨ c.state = .errInternal := by
    simpa [ProgressCode.ended] using h
  have hkept : (id.stepInner c m).2.2 = m ∧
      ((id.stepInner c m).2.1.state = c.state ∨ (id.stepInner c m).2.1.state = .errInternal) := by
    cases id with
    | noCommand | setMode => exact ⟨rfl, .inl rfl⟩
    | startUp =>
        rw [stepInner, StartUp.stepInner]
        rcases hstate with hstate | hstate <;> (rw [hstate]; exact ⟨rfl, .inl hstate⟩)
    | home =>
        rw [stepInner, Home.stepInner]
        rcases hstate with hstate | hstate <;> rw [hstate]
        · exact ⟨rfl, .inl hstate⟩
        · exact ⟨rfl, .inr rfl⟩
    | moveSelector =>
        rw [stepInner, MoveSelector.stepInner]
        rcases hstate with hstate | hstate <;> rw [hstate]
        · exact ⟨rfl, .inl hstate⟩
        · exact ⟨rfl, .inr rfl⟩
    | loadFilament =>
        rw [stepInner, LoadFilament.stepInner]
        rcases hstate with hstate | hstate <;> rw [hstate]
        · exact ⟨rfl, .inl hstate⟩
        · exact ⟨rfl, .inr rfl⟩
    | unloadFilament =>
        rw [stepInner, UnloadFilament.stepInner]
        rcases hstate with hstate | hstate <;> rw [hstate]
        · exact ⟨rfl, .inl hstate⟩
        · exact ⟨rfl, .inr rfl⟩
    | toolChange =>
        rw [stepInner, ToolChange.stepInner]
        rcases hstate with hstate | hstate <;> rw [hstate]
        · exact ⟨rfl, .inl hstate⟩
        · exact ⟨rfl, .inr rfl⟩
    | cutFilament =>
        rw [stepInner, CutFilament.stepInner]
        rcases hstate with hstate | hstate <;> rw [hstate]
        · exact ⟨rfl, .inl hstate⟩
        · exact ⟨rfl, .inr rfl⟩
    | ejectFilament =>
        rw [stepInner, EjectFilament.stepInner]
        rcases hstate with hstate | hstate <;> rw [hstate]
        · exact ⟨rfl, .inl hstate⟩
        · exact ⟨rfl, .inr rfl⟩
  refine ⟨hkept.1, ?_⟩
  rcases hkept.2 with heq | hinternal
  · rw [heq]
    exact h
  · rw [hinternal]
    rfl

/-- Nothing had to be unloaded: the tool change makes its own slot the active one. -/
theorem ToolChange.lit_stepInner_unloaded {c : ToolChange} (hleds : m.leds.Sound)
    (hplanned : c.data.plannedSlot < Config.toolCount) (hstate : c.state = .unloadingFilament)
    (hended : c.data.unl.state.ended) : (stepInner c m).2.2.Lit := by
  obtain ⟨hdone, hmodules, -⟩ := UnloadFilament.stepInner_ended (m := m) hended
  rw [stepInner, hstate]
  dsimp only
  rw [if_pos hdone, hmodules]
  exact lit_goToFeedingToFinda hleds hplanned

/-- The selector goes to the slot of the cut, which shows on its LEDs. -/
theorem CutFilament.placed_selectFilamentSlot {c : CutFilament} (hleds : m.leds.Sound)
    (hcut : c.data.cutSlot < Config.toolCount)
    (hmoves : m.selectorRefuses c.data.cutSlot = false) :
    CommandId.Placed .cutFilament (selectFilamentSlot c m).1 (selectFilamentSlot c m).2 := by
  have haccepted : ((m.idlerEngage c.data.cutSlot).selectorMoveToSlot c.data.cutSlot).1 = .accepted := by
    simpa [Modules.selectorRefuses] using hmoves
  rw [selectFilamentSlot]
  dsimp only
  rw [moveSelector]
  dsimp only
  rw [if_neg (not_not_intro haccepted)]
  refine ⟨?_, .inr rfl⟩
  exact hleds.setPairButOffOthers hcut _ _

theorem EjectFilament.moveSelectorAside_parked (c : EjectFilament) (m : Modules) :
    moveSelectorAside c m =
      if (m.selectorMoveToSlot (parkedPos c.data.slot)).1 = .refused then
        Command.goToErrDisengagingIdler { c with state := .parkingSelector, error := .running }
          .findaFlickers (m.selectorMoveToSlot (parkedPos c.data.slot)).2
      else
        ({ c with state := .parkingSelector, error := .running },
          (m.selectorMoveToSlot (parkedPos c.data.slot)).2) :=
  rfl

theorem EjectFilament.placed_moveSelectorAside {c : EjectFilament} (hleds : m.leds.Sound)
    (hmoves : m.selectorRefuses (parkedPos c.data.slot) = false) :
    CommandId.Placed .ejectFilament (moveSelectorAside c m).1 (moveSelectorAside c m).2 := by
  have haccepted : (m.selectorMoveToSlot (parkedPos c.data.slot)).1 = .accepted := by
    simpa [Modules.selectorRefuses] using hmoves
  rw [moveSelectorAside_parked, haccepted, if_neg (by decide)]
  exact ⟨hleds, .inr rfl⟩

theorem CommandId.restsWithout_of_ended {id : CommandId} {c : id.Object} (h : c.state.ended) :
    id.restsWithout c := by
  cases id <;> simp_all [restsWithout]

theorem CutFilament.placed_stepInner {c : CutFilament} (hleds : m.leds.Sound)
    (hbusy : c.state.ended = false) (hrests : CommandId.restsWithout .cutFilament c)
    (hplans : CommandId.PlansTool .cutFilament c)
    (hneeds : CommandId.stepNeedsSlot .cutFilament c m = false) :
    CommandId.Placed .cutFilament (stepInner c m).2.1 (stepInner c m).2.2 := by
  have hcut : c.data.cutSlot < Config.toolCount := by
    simpa [CommandId.PlansTool, hbusy] using hplans
  have hstates : (c.state = .unloadingFilament ∧ c.data.unl.state.ended = true) ∨
      c.state = .selectingFilamentSlot := by
    simpa [CommandId.restsWithout, hbusy] using hrests
  rcases hstates with ⟨hstate, hunloaded⟩ | hstate
  · obtain ⟨hdone, hmodules, -⟩ := UnloadFilament.stepInner_ended (m := m) hunloaded
    have hmoves : m.selectorRefuses c.data.cutSlot = false := by
      simpa [CommandId.stepNeedsSlot, hstate, hunloaded] using hneeds
    rw [stepInner, hstate]
    dsimp only
    rw [if_pos hdone, hmodules]
    exact placed_selectFilamentSlot hleds hcut hmoves
  · rw [stepInner, hstate]
    dsimp only
    split
    · have hplace : (m.setFilamentLoaded c.data.cutSlot .atPulley).Holds Lit.lasting.durable :=
        Lit.place hleds hcut _
      refine CommandId.placed_of_lit ?_
      show Modules.Holds _ Lit.lasting.durable
      grind
    · exact ⟨hleds, .inr hrests⟩

theorem EjectFilament.placed_stepInner {c : EjectFilament} (hleds : m.leds.Sound)
    (hbusy : c.state.ended = false) (hrests : CommandId.restsWithout .ejectFilament c)
    (hneeds : CommandId.stepNeedsSlot .ejectFilament c m = false) :
    CommandId.Placed .ejectFilament (stepInner c m).2.1 (stepInner c m).2.2 := by
  have hstates : (c.state = .unloadingFilament ∧ c.data.unl.state.ended = true) ∨
      c.state = .parkingSelector ∨ c.state = .engagingIdler ∨ c.state = .ejectingFilament := by
    simpa [CommandId.restsWithout, hbusy, or_assoc] using hrests
  rcases hstates with ⟨hstate, hunloaded⟩ | hstate | hstate | hstate
  · obtain ⟨hdone, hmodules, -⟩ := UnloadFilament.stepInner_ended (m := m) hunloaded
    have hmoves : m.selectorRefuses (parkedPos c.data.slot) = false := by
      simpa [CommandId.stepNeedsSlot, hstate, hunloaded] using hneeds
    rw [stepInner, hstate]
    dsimp only
    rw [if_pos hdone, hmodules]
    exact placed_moveSelectorAside hleds hmoves
  · rw [stepInner, hstate]
    dsimp only
    split
    · exact ⟨hleds, .inr rfl⟩
    · exact ⟨hleds, .inr hrests⟩
  · rw [stepInner, hstate]
    dsimp only
    split
    · exact ⟨hleds, .inr rfl⟩
    · exact ⟨hleds, .inr hrests⟩
  · have hmoving : m.queueEmpty = false := by
      simpa [CommandId.stepNeedsSlot, hstate] using hneeds
    rw [stepInner, hstate]
    dsimp only
    rw [hmoving, if_neg Bool.false_ne_true]
    exact ⟨hleds, .inr hrests⟩

/-- The commands that show no slot. -/
theorem CommandId.leds_stepInner {id : CommandId} {c : id.Object}
    (hid : id = .startUp ∨ id = .noCommand ∨ id = .home ∨ id = .moveSelector ∨ id = .setMode) :
    (id.stepInner c m).2.2.leds = m.leds := by
  rcases hid with rfl | rfl | rfl | rfl | rfl
  · show (StartUp.stepInner c m).2.2.leds = m.leds
    rw [StartUp.stepInner]
    grind [StartUp.checkFINDAvsEEPROM, Modules.consumeEvent, Modules.setFilamentLoaded,
      Modules.resumeIdlerSelector]
  · rfl
  · show (Home.stepInner c m).2.2.leds = m.leds
    rw [Home.stepInner]
    grind [Command.finishedOK, Command.unhandledState]
  · show (MoveSelector.stepInner c m).2.2.leds = m.leds
    rw [MoveSelector.stepInner]
    split
    · split <;> rfl
    · rfl
    · rfl
  · rfl

/-- A step of a command whose active slot is a tool where it has to be. -/
theorem CommandId.Placed.stepInner {id : CommandId} {c : id.Object} (h : id.Placed c m)
    (hplans : id.PlansTool c) (hneeds : m.slotActive ∨ id.stepNeedsSlot c m = false) :
    id.Placed (id.stepInner c m).2.1 (id.stepInner c m).2.2 := by
  cases hended : c.state.ended with
  | true =>
      obtain ⟨hmodules, hended'⟩ := stepInner_ended (m := m) hended
      exact ⟨hmodules.symm ▸ h.leds,
        .inr (restsWithout_of_ended hended')⟩
  | false =>
      cases hactive : m.slotActive with
      | true =>
          have hlit : m.Lit := ⟨hactive, h.leds⟩
          cases id with
          | startUp | noCommand | home | moveSelector | setMode =>
              refine ⟨?_, .inr rfl⟩
              rw [leds_stepInner (by simp)]
              exact h.leds
          | loadFilament | unloadFilament =>
              exact placed_of_lit (has_stepInner (L := Lit.lasting) hlit _ trivial)
          | toolChange =>
              have hplanned : c.data.plannedSlot < Config.toolCount := by
                simpa [PlansTool, hended] using hplans
              exact placed_of_lit (has_stepInner (L := Lit.lasting) hlit .toolChange fun _ => hplanned)
          | cutFilament =>
              have hcut : c.data.cutSlot < Config.toolCount := by
                simpa [PlansTool, hended] using hplans
              exact placed_of_lit
                (has_stepInner (L := Lit.lasting) hlit .cutFilament ⟨hcut, trivial⟩)
          | ejectFilament =>
              exact placed_of_lit (has_stepInner (L := Lit.lasting) hlit .ejectFilament trivial)
      | false =>
          have hrests := h.slot.resolve_left (by rw [hactive]; decide)
          have hneeds := hneeds.resolve_left (by rw [hactive]; decide)
          cases id with
          | startUp | noCommand | home | moveSelector | setMode =>
              refine ⟨?_, .inr rfl⟩
              rw [leds_stepInner (by simp)]
              exact h.leds
          | loadFilament | unloadFilament =>
              exact absurd (hended.symm.trans hrests) Bool.false_ne_true
          | toolChange =>
              have hplanned : c.data.plannedSlot < Config.toolCount := by
                simpa [PlansTool, hended] using hplans
              have hstates : c.state = .unloadingFilament ∧ c.data.unl.state.ended = true := by
                simpa [restsWithout, hended] using hrests
              exact placed_of_lit
                (ToolChange.lit_stepInner_unloaded h.leds hplanned hstates.1 hstates.2)
          | cutFilament => exact CutFilament.placed_stepInner h.leds hended hrests hplans hneeds
          | ejectFilament => exact EjectFilament.placed_stepInner h.leds hended hrests hneeds

section Tools

/-- A start that plans nothing leaves the command in its state. -/
theorem ToolChange.plannedSlot_reset (c : ToolChange) (param : UInt8) :
    ((reset c param m).2.1.data.plannedSlot = c.data.plannedSlot ∧
        (reset c param m).2.1.state = c.state) ∨
      (reset c param m).2.1.data.plannedSlot < Config.toolCount := by
  rw [reset, Command.checkToolIndex]
  grind [Command.goToErrDisengagingIdler]

theorem ToolChange.plannedSlot_stepInner (c : ToolChange) :
    (stepInner c m).2.1.data.plannedSlot = c.data.plannedSlot ∨
      (stepInner c m).2.1.data.plannedSlot < Config.toolCount := by
  have hfeeding : ∀ (c : ToolChange) (m : Modules),
      (goToFeedingToFinda c m).1.data.plannedSlot = c.data.plannedSlot := by
    intro c m
    rw [goToFeedingToFinda]
    grind [Command.goToErrDisengagingIdler]
  have hretry : ∀ m, (retry c m).1.data.plannedSlot = c.data.plannedSlot ∨
      (retry c m).1.data.plannedSlot < Config.toolCount := by
    intro m
    rw [retry]
    have hreset := fun m param => plannedSlot_reset (m := m) c param
    grind
  rw [stepInner]
  grind [goToFeedingToBondtech, toolChangeFinishedCorrectly, Command.goToErrDisengagingIdler,
    Command.errDisengagingIdler, Command.finishedOK, Command.unhandledState]

theorem CutFilament.cutSlot_reset (c : CutFilament) (param : UInt8) :
    ((reset c param m).2.1.data.cutSlot = c.data.cutSlot ∧
        (reset c param m).2.1.state = c.state) ∨
      (reset c param m).2.1.data.cutSlot < Config.toolCount := by
  rw [reset, Command.checkToolIndex]
  grind [selectFilamentSlot, moveSelector, Command.goToErrDisengagingIdler]

theorem CutFilament.cutSlot_stepInner (c : CutFilament) :
    (stepInner c m).2.1.data.cutSlot = c.data.cutSlot ∨
      (stepInner c m).2.1.data.cutSlot < Config.toolCount := by
  have hreset := fun m param => cutSlot_reset (m := m) c param
  rw [stepInner]
  grind [selectFilamentSlot, moveSelector, Command.goToErrDisengagingIdler,
    Command.errDisengagingIdler, Command.finishedOK, Command.unhandledState]

namespace CommandId

variable {id : CommandId} {c : id.Object}

theorem plansTool_of_ended (h : c.state.ended) : id.PlansTool c := by
  cases id with
  | toolChange | cutFilament => exact .inl h
  | startUp | noCommand | ejectFilament | home | loadFilament | moveSelector | setMode
  | unloadFilament => trivial

theorem plansTool_stepInner (h : id.PlansTool c) : id.PlansTool (id.stepInner c m).2.1 := by
  cases hended : c.state.ended with
  | true => exact plansTool_of_ended (stepInner_ended hended).2
  | false =>
      have hbusy : ¬ c.state.ended = true := by simp [hended]
      cases id with
      | toolChange =>
          rcases ToolChange.plannedSlot_stepInner (m := m) c with heq | hlt
          · exact .inr (heq ▸ Or.resolve_left h hbusy)
          · exact .inr hlt
      | cutFilament =>
          rcases CutFilament.cutSlot_stepInner (m := m) c with heq | hlt
          · exact .inr (heq ▸ Or.resolve_left h hbusy)
          · exact .inr hlt
      | startUp | noCommand | ejectFilament | home | loadFilament | moveSelector | setMode
      | unloadFilament => trivial

theorem plansTool_reset (h : id.PlansTool c) (param : UInt8) :
    id.PlansTool (id.reset c param m).2.1 := by
  cases id with
  | toolChange =>
      rcases ToolChange.plannedSlot_reset (m := m) c param with ⟨hplanned, hstate⟩ | hlt
      · exact h.imp (fun hended => hstate ▸ hended) fun hlt => hplanned ▸ hlt
      · exact .inr hlt
  | cutFilament =>
      rcases CutFilament.cutSlot_reset (m := m) c param with ⟨hcut, hstate⟩ | hlt
      · exact h.imp (fun hended => hstate ▸ hended) fun hlt => hcut ▸ hlt
      · exact .inr hlt
  | startUp | noCommand | ejectFilament | home | loadFilament | moveSelector | setMode
  | unloadFilament => trivial

theorem hasUnloaded_stepInner (h : id.hasUnloaded c) :
    id.hasUnloaded (id.stepInner c m).2.1 := by
  cases id with
  | ejectFilament =>
      simp only [hasUnloaded, unloadEnded, Bool.or_eq_true, beq_iff_eq, or_assoc] at h ⊢
      simp only [stepInner]
      rcases h with hstate | hstate | hended
      · cases hdone : (UnloadFilament.stepInner c.data.unl m).1 with
        | true =>
            refine .inr (.inr ?_)
            rw [EjectFilament.stepInner, hstate]
            dsimp only
            rw [if_pos hdone, EjectFilament.moveSelectorAside_unl]
            exact UnloadFilament.ended_of_done hdone
        | false =>
            refine .inl ?_
            rw [EjectFilament.stepInner, hstate]
            dsimp only
            rw [hdone]
            rfl
      · refine .inr (.inl ?_)
        rw [EjectFilament.stepInner, hstate]
        rfl
      · by_cases hstate : c.state = .unloadingFilament
        · obtain ⟨hdone, -, hended⟩ := UnloadFilament.stepInner_ended (m := m) hended
          refine .inr (.inr ?_)
          rw [EjectFilament.stepInner, hstate]
          dsimp only
          rw [if_pos hdone, EjectFilament.moveSelectorAside_unl]
          exact hended
        · rw [EjectFilament.stepInner_unl hstate]
          exact .inr (.inr hended)
  | startUp | noCommand | cutFilament | home | loadFilament | moveSelector | setMode
  | toolChange | unloadFilament => simp [hasUnloaded, unloadEnded]

theorem hasUnloaded_reset (h : id.Dormant c) (param : UInt8) :
    id.hasUnloaded (id.reset c param m).2.1 := by
  cases id with
  | ejectFilament =>
      have hended : c.data.unl.state.ended = true := h.unloaded
      simp only [hasUnloaded, unloadEnded, reset, Bool.or_eq_true, beq_iff_eq]
      rw [EjectFilament.reset, Command.checkToolIndex]
      by_cases hinvalid : param ≥ Config.toolCount
      · rw [if_pos hinvalid]
        exact .inr hended
      · rw [if_neg hinvalid]
        dsimp only
        rw [if_neg (by decide)]
        split
        · exact .inl (.inl rfl)
        · rw [EjectFilament.moveSelectorAside_unl]
          exact .inr hended
  | startUp | noCommand | cutFilament | home | loadFilament | moveSelector | setMode
  | toolChange | unloadFilament => simp [hasUnloaded, unloadEnded]

end CommandId

end Tools

section Starts

variable (hleds : m.leds.Sound)
include hleds

/-- A load makes its own slot the active one, unless it is rejected. -/
theorem LoadFilament.placed_reset {c : LoadFilament} (hrests : c.state.ended) (param : UInt8) :
    CommandId.Placed .loadFilament (reset c param m).2.1 (reset c param m).2.2 := by
  rw [reset, Command.checkToolIndex]
  by_cases hinvalid : param ≥ Config.toolCount
  · rw [if_pos hinvalid]
    exact ⟨hleds, .inr hrests⟩
  · rw [if_neg hinvalid]
    dsimp only
    rw [if_neg (by decide)]
    split
    · exact ⟨hleds, .inr hrests⟩
    · split
      · exact ⟨hleds, .inr hrests⟩
      · exact CommandId.placed_of_lit
          (holds_reset2 (D := Lit.lasting.durable) (Lit.place hleds (UInt8.not_le.mp hinvalid) _) _ _)

theorem UnloadFilament.placed_reset {c : UnloadFilament} (hrests : c.state.ended)
    (hneeds : m.slotActive ∨ nothingLoaded m = true) :
    CommandId.Placed .unloadFilament (reset c m).1 (reset c m).2 := by
  rcases hneeds with hactive | hnothing
  · exact CommandId.placed_of_lit (holds_reset (D := Lit.lasting.durable) ⟨hactive, hleds⟩ c)
  · rw [reset, if_pos hnothing]
    exact ⟨hleds, .inr hrests⟩

theorem ToolChange.placed_reset {c : ToolChange} (hrests : CommandId.restsWithout .toolChange c)
    {param : UInt8}
    (hneeds : m.slotActive ∨ CommandId.resetNeedsSlot .toolChange param m = false) :
    CommandId.Placed .toolChange (reset c param m).2.1 (reset c param m).2.2 := by
  cases hactive : m.slotActive with
  | true => exact CommandId.placed_of_lit (holds_reset (D := Lit.lasting.durable) ⟨hactive, hleds⟩ c param)
  | false =>
      have hneeds := hneeds.resolve_left (by rw [hactive]; decide)
      rw [reset, Command.checkToolIndex]
      by_cases hinvalid : param ≥ Config.toolCount
      · rw [if_pos hinvalid]
        exact ⟨hleds, .inr hrests⟩
      · have hvalid : param < Config.toolCount := UInt8.not_le.mp hinvalid
        have hloaded : ¬ m.filamentLoaded ≥ .inSelector := by
          simpa [CommandId.resetNeedsSlot, hvalid] using hneeds
        rw [if_neg hinvalid]
        dsimp only
        rw [if_neg (by decide)]
        split
        · exact ⟨hleds, .inr hrests⟩
        · have hloaded : ¬ (m.setPrinterInCharge true).filamentLoaded ≥ .inSelector := hloaded
          rw [if_neg hloaded]
          have hplace : ((m.setPrinterInCharge true).setFilamentLoaded param .inSelector).Holds
              Lit.lasting.durable :=
            Lit.place (m := m.setPrinterInCharge true) hleds hvalid _
          refine CommandId.placed_of_lit ?_
          show Modules.Holds _ Lit.lasting.durable
          grind

theorem CutFilament.placed_reset {c : CutFilament} (hrests : CommandId.restsWithout .cutFilament c)
    {param : UInt8}
    (hneeds : m.slotActive ∨ CommandId.resetNeedsSlot .cutFilament param m = false) :
    CommandId.Placed .cutFilament (reset c param m).2.1 (reset c param m).2.2 := by
  cases hactive : m.slotActive with
  | true => exact CommandId.placed_of_lit (holds_reset (D := Lit.lasting.durable) ⟨hactive, hleds⟩ c param)
  | false =>
      have hneeds := hneeds.resolve_left (by rw [hactive]; decide)
      rw [reset, Command.checkToolIndex]
      by_cases hinvalid : param ≥ Config.toolCount
      · rw [if_pos hinvalid]
        exact ⟨hleds, .inr hrests⟩
      · have hvalid : param < Config.toolCount := UInt8.not_le.mp hinvalid
        have hneeds : ¬ m.filamentLoaded ≥ .inSelector ∧ m.selectorRefuses param = false := by
          simpa [CommandId.resetNeedsSlot, hvalid] using hneeds
        rw [if_neg hinvalid]
        dsimp only
        rw [if_neg (by decide), if_neg hneeds.1]
        exact placed_selectFilamentSlot hleds hvalid hneeds.2

theorem EjectFilament.placed_reset {c : EjectFilament} (h : CommandId.Dormant .ejectFilament c)
    {param : UInt8}
    (hneeds : m.slotActive ∨ CommandId.resetNeedsSlot .ejectFilament param m = false) :
    CommandId.Placed .ejectFilament (reset c param m).2.1 (reset c param m).2.2 := by
  cases hactive : m.slotActive with
  | true => exact CommandId.placed_of_lit (holds_reset (D := Lit.lasting.durable) ⟨hactive, hleds⟩ c param)
  | false =>
      have hneeds := hneeds.resolve_left (by rw [hactive]; decide)
      rw [reset, Command.checkToolIndex]
      by_cases hinvalid : param ≥ Config.toolCount
      · rw [if_pos hinvalid]
        exact ⟨hleds, .inr h.rests⟩
      · have hvalid : param < Config.toolCount := UInt8.not_le.mp hinvalid
        rw [if_neg hinvalid]
        dsimp only
        rw [if_neg (by decide)]
        split
        · next hloaded =>
            have hnothing : UnloadFilament.nothingLoaded m = true := by
              simpa [CommandId.resetNeedsSlot, hvalid, hloaded] using hneeds
            rw [UnloadFilament.reset, if_pos hnothing]
            have hended : c.data.unl.state.ended = true := h.unloaded
            exact ⟨hleds, .inr (by simp [CommandId.restsWithout, hended])⟩
        · next hloaded =>
            have hmoves : m.selectorRefuses (parkedPos param) = false := by
              simpa [CommandId.resetNeedsSlot, hvalid, hloaded] using hneeds
            exact placed_moveSelectorAside hleds hmoves

theorem CommandId.Dormant.placed_reset {id : CommandId} {c : id.Object} (h : id.Dormant c)
    {param : UInt8} (hneeds : m.slotActive ∨ id.resetNeedsSlot param m = false) :
    id.Placed (id.reset c param m).2.1 (id.reset c param m).2.2 := by
  cases id with
  | noCommand => exact ⟨hleds, .inr rfl⟩
  | startUp =>
      refine ⟨?_, .inr rfl⟩
      show (StartUp.reset c m).2.2.leds.Sound
      rw [StartUp.reset]
      grind [StartUp.checkFINDAvsEEPROM, Modules.setFilamentLoaded, Modules.holdIdlerSelector]
  | home => exact ⟨hleds, .inr rfl⟩
  | moveSelector =>
      refine ⟨?_, .inr rfl⟩
      show (MoveSelector.reset c param m).2.2.leds.Sound
      rw [MoveSelector.reset]
      grind [Modules.selectorMoveToSlot]
  | setMode => exact ⟨hleds, .inr rfl⟩
  | loadFilament => exact LoadFilament.placed_reset hleds h.rests param
  | unloadFilament =>
      exact UnloadFilament.placed_reset hleds h.rests (by simpa [resetNeedsSlot] using hneeds)
  | toolChange => exact ToolChange.placed_reset hleds h.rests hneeds
  | cutFilament => exact CutFilament.placed_reset hleds h.rests hneeds
  | ejectFilament => exact EjectFilament.placed_reset hleds h hneeds

end Starts

end Slotless

end MmuFirmware
