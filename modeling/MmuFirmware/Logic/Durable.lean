import MmuFirmware.Logic.Commands
import MmuFirmware.Modules.Reaches

/-!
Properties of the modules that last whatever the logic does. What the commands do to the modules
is a sequence of a few operations; a property these preserve is preserved by the automata, the
commands and the base class. The operations may ask something of the slots and the speeds they
are given.
-/
namespace MmuFirmware

namespace Modules

/-- A property the operations of the logic preserve, as long as the slots they show and record are
in `Slot`, those they move to in `Place`, and the speeds of the pulley and the selector in `Feed`
and `Rate`. -/
structure Durable where
  P : Modules → Prop
  Slot : UInt8 → Prop
  Place : UInt8 → Prop
  Feed : UInt16 → Prop
  Rate : UInt16 → Prop
  active : ∀ {m : Modules}, P m → Slot m.activeSlot
  tool : ∀ {slot : UInt8}, slot < Config.toolCount → Slot slot
  place : ∀ {slot : UInt8}, Slot slot → Place slot
  slowFeed : ∀ {m : Modules}, P m → Feed m.globals.pulleySlowFeedrate
  loadFeed : ∀ {m : Modules}, P m → Feed m.globals.pulleyLoadFeedrate
  unloadFeed : ∀ {m : Modules}, P m → Feed m.globals.pulleyUnloadFeedrate
  others : ∀ {m m' : Modules}, P m → m'.idler = m.idler → m'.selector = m.selector →
    m'.pulley = m.pulley → m'.leds = m.leds → m'.globals.activeSlot = m.globals.activeSlot →
    m'.globals.filamentLoaded = m.globals.filamentLoaded →
    m'.globals.storage.filamentLoaded = m.globals.storage.filamentLoaded →
    m'.globals.feedrates = m.globals.feedrates → P m'
  setAllOff : ∀ {m : Modules}, P m → P (m.setLeds LEDs.setAllOff)
  setPair : ∀ {m : Modules}, P m → ∀ {slot : UInt8}, Slot slot → ∀ green red : LEDMode,
    P (m.setLeds fun l => l.setPairButOffOthers slot green red)
  setFilamentLoaded : ∀ {m : Modules}, P m → ∀ {slot : UInt8}, Slot slot →
    ∀ {s : FilamentLoadState}, s ∈ FilamentLoadState.named → P (m.setFilamentLoaded slot s)
  idlerEngage : ∀ {m : Modules}, P m → ∀ {slot : UInt8}, Place slot → P (m.idlerEngage slot)
  idlerPartiallyDisengage : ∀ {m : Modules}, P m → ∀ {slot : UInt8}, Place slot →
    P (m.idlerPartiallyDisengage slot)
  idlerDisengage : ∀ {m : Modules}, P m → P m.idlerDisengage
  selectorMoveToSlot : ∀ {m : Modules}, P m → ∀ {slot : UInt8}, Place slot →
    P (m.selectorMoveToSlot slot).2
  pulleyPlanMove : ∀ {m : Modules}, P m → ∀ {feed : UInt16}, Feed feed →
    ∀ (delta : Int) (endRate : UInt16), P (m.pulleyPlanMove delta feed endRate)
  pulleyDisable : ∀ {m : Modules}, P m → P m.pulleyDisable
  idlerAxis : ∀ {m : Modules}, P m → ∀ c : AxisCall,
    P { m with idler := { m.idler with axis := c.run m.idler.axis } }
  selectorAxis : ∀ {m : Modules}, P m → ∀ c : AxisCall,
    P { m with selector := { m.selector with axis := c.run m.selector.axis } }
  pulleyAxis : ∀ {m : Modules}, P m → ∀ c : AxisCall,
    P { m with pulley := { m.pulley with axis := c.run m.pulley.axis } }
  selectorFeedrate : ∀ {m : Modules}, P m → ∀ {rate : UInt16}, Rate rate →
    P { m with globals := { m.globals with selectorFeedrate := rate } }
  idlerInvalidateHoming : ∀ {m : Modules}, P m →
    P { m with idler := Movable.invalidateHoming m.idler }
  selectorInvalidateHoming : ∀ {m : Modules}, P m →
    P { m with selector := Movable.invalidateHoming m.selector }
  holdIdlerSelector : ∀ {m : Modules}, P m → P m.holdIdlerSelector
  resumeIdlerSelector : ∀ {m : Modules}, P m → P m.resumeIdlerSelector
  planHome : ∀ {m : Modules}, P m → ∀ axis : Axis, P (m.planHome axis)

def Holds (m : Modules) (D : Durable) : Prop := D.P m

attribute [grind ←] Durable.tool Durable.place

namespace Holds

variable {D : Durable} {m : Modules} (h : m.Holds D)
include h

@[grind →] theorem activeSlot : D.Slot m.activeSlot := D.active h

theorem activePlace : D.Place m.activeSlot := D.place (D.active h)

@[grind ←] theorem setAllOff : (m.setLeds LEDs.setAllOff).Holds D := D.setAllOff h

theorem setPair {slot : UInt8} (hslot : D.Slot slot) (green red : LEDMode) :
    (m.setLeds fun l => l.setPairButOffOthers slot green red).Holds D :=
  D.setPair h hslot green red

@[grind ←] theorem activeSlotProcessing : m.activeSlotProcessing.Holds D := h.setPair h.activeSlot _ _

@[grind ←] theorem activeSlotError : m.activeSlotError.Holds D := h.setPair h.activeSlot _ _

@[grind ←] theorem activeSlotDoneEmpty : m.activeSlotDoneEmpty.Holds D := h.setPair h.activeSlot _ _

@[grind ←] theorem activeSlotDonePrimed : m.activeSlotDonePrimed.Holds D := h.setPair h.activeSlot _ _

@[grind ←] theorem clearUserInput : m.clearUserInput.Holds D := D.others h rfl rfl rfl rfl rfl rfl rfl rfl

@[grind ←] theorem consumeEvent : m.consumeEvent.2.Holds D := D.others h rfl rfl rfl rfl rfl rfl rfl rfl

@[grind ←] theorem setPrinterInCharge (pc : Bool) : (m.setPrinterInCharge pc).Holds D :=
  D.others h rfl rfl rfl rfl rfl rfl rfl rfl

@[grind ←] theorem setFilamentLoaded {slot : UInt8} (hslot : D.Slot slot) {s : FilamentLoadState}
    (hs : s ∈ FilamentLoadState.named) : (m.setFilamentLoaded slot s).Holds D :=
  D.setFilamentLoaded h hslot hs

@[grind ←] theorem keepSlot {s : FilamentLoadState} (hs : s ∈ FilamentLoadState.named) :
    (m.setFilamentLoaded m.activeSlot s).Holds D :=
  h.setFilamentLoaded h.activeSlot hs

@[grind ←] theorem idlerEngage {slot : UInt8} (hslot : D.Place slot) : (m.idlerEngage slot).Holds D :=
  D.idlerEngage h hslot

@[grind ←] theorem idlerEngageActive : (m.idlerEngage m.activeSlot).Holds D :=
  h.idlerEngage h.activePlace

@[grind ←] theorem idlerPartiallyDisengageActive : (m.idlerPartiallyDisengage m.activeSlot).Holds D :=
  D.idlerPartiallyDisengage h h.activePlace

@[grind ←] theorem idlerDisengage : m.idlerDisengage.Holds D := D.idlerDisengage h

@[grind ←] theorem selectorMoveToSlot {slot : UInt8} (hslot : D.Place slot) :
    (m.selectorMoveToSlot slot).2.Holds D :=
  D.selectorMoveToSlot h hslot

@[grind ←] theorem selectorMoveToActive : (m.selectorMoveToSlot m.activeSlot).2.Holds D :=
  h.selectorMoveToSlot h.activePlace

@[grind →] theorem slowFeed : D.Feed m.globals.pulleySlowFeedrate := D.slowFeed h

@[grind →] theorem loadFeed : D.Feed m.globals.pulleyLoadFeedrate := D.loadFeed h

@[grind →] theorem unloadFeed : D.Feed m.globals.pulleyUnloadFeedrate := D.unloadFeed h

@[grind ←] theorem pulleyInitAxis : m.pulleyInitAxis.Holds D := D.pulleyAxis h .initAxis

@[grind ←] theorem pulleyDisable : m.pulleyDisable.Holds D := D.pulleyDisable h

@[grind ←] theorem pulleyAbort :
    Holds { m with pulley := { m.pulley with axis := m.pulley.axis.abortPlannedMoves } } D :=
  D.pulleyAxis h .abortPlannedMoves

@[grind ←] theorem pulleyPlanMove {feed : UInt16} (hfeed : D.Feed feed) (delta : Int)
    (endRate : UInt16) : (m.pulleyPlanMove delta feed endRate).Holds D :=
  D.pulleyPlanMove h hfeed delta endRate

@[grind ←] theorem idlerInvalidateHoming :
    Holds { m with idler := Movable.invalidateHoming m.idler } D :=
  D.idlerInvalidateHoming h

@[grind ←] theorem incDriveErrors : Holds { m with globals := m.globals.incDriveErrors } D :=
  D.others h rfl rfl rfl rfl rfl rfl (PermanentStorage.filamentLoaded_incrementDriveError _) rfl

/-- The selector is powered up for a cut, at another speed. -/
@[grind ←] theorem selectorPowerUp {selectorFeedrate : UInt16} (hrate : D.Rate selectorFeedrate) :
    Holds
      { m with
        selector := { m.selector with axis := m.selector.axis.initAxis.2 }
        globals := { m.globals with selectorFeedrate } } D :=
  D.selectorFeedrate (D.selectorAxis h .initAxis) hrate

/-- After the cut it has to home. -/
@[grind ←] theorem selectorPowerDown {selectorFeedrate : UInt16}
    (hrate : D.Rate selectorFeedrate) :
    Holds
      { m with
        globals := { m.globals with selectorFeedrate }
        selector :=
          Movable.invalidateHoming { m.selector with axis := m.selector.axis.initAxis.2 } } D :=
  D.selectorInvalidateHoming (h.selectorPowerUp hrate)

theorem axes (idler selector pulley : AxisCall) :
    Holds
      { m with
        pulley := { m.pulley with axis := pulley.run m.pulley.axis }
        selector := { m.selector with axis := selector.run m.selector.axis }
        idler := { m.idler with axis := idler.run m.idler.axis } } D :=
  D.idlerAxis (D.selectorAxis (D.pulleyAxis h pulley) selector) idler

@[grind ←] theorem abortPlannedMoves : m.abortPlannedMoves.Holds D :=
  h.axes .abortPlannedMoves .abortPlannedMoves .abortPlannedMoves

@[grind ←] theorem holdIdlerSelector : m.holdIdlerSelector.Holds D := D.holdIdlerSelector h

@[grind ←] theorem resumeIdlerSelector : m.resumeIdlerSelector.Holds D := D.resumeIdlerSelector h

@[grind ←] theorem invalidateHoming : m.invalidateHoming.Holds D :=
  D.selectorInvalidateHoming (D.idlerInvalidateHoming (D.resumeIdlerSelector h))

@[grind ←] theorem invalidateHomingAndFilamentState :
    m.invalidateHomingAndFilamentState.Holds D :=
  h.invalidateHoming.setFilamentLoaded h.activeSlot (Reaches.sensedFilamentState_mem m)

end Holds
end Modules

section Automata

variable {D : Modules.Durable} {m : Modules} (h : m.Holds D)
include h

@[grind ←] theorem FeedToFinda.holds_reset (feedPhaseLimited : Bool) :
    (reset feedPhaseLimited m).2.2.Holds D := by
  rw [reset]
  grind

@[grind ←] theorem FeedToFinda.holds_step (f : FeedToFinda) : (f.step m).2.2.Holds D := by
  rw [step]
  grind

@[grind ←] theorem FeedToBondtech.holds_reset : (reset m).2.Holds D := by
  rw [reset]
  grind

@[grind ←] theorem FeedToBondtech.holds_goToPushToNozzle : (goToPushToNozzle m).2.Holds D := by
  rw [goToPushToNozzle]
  grind

@[grind ←] theorem FeedToBondtech.holds_step (f : FeedToBondtech) : (f.step m).2.2.Holds D := by
  rw [step]
  grind

@[grind ←] theorem RetractFromFinda.holds_reset : (reset m).2.Holds D := by
  rw [reset]
  grind

@[grind ←] theorem RetractFromFinda.holds_step (f : RetractFromFinda) : (f.step m).2.2.Holds D := by
  rw [step]
  grind

@[grind ←] theorem UnloadToFinda.holds_reset (f : UnloadToFinda) (maxTries : UInt8) :
    (f.reset maxTries m).2.Holds D := by
  rw [reset]
  grind

@[grind ←] theorem UnloadToFinda.holds_step (f : UnloadToFinda) : (f.step m).2.2.Holds D := by
  rw [step]
  grind

end Automata

section Command

variable {δ : Type} (c : Command δ) {D : Modules.Durable} {m : Modules} (h : m.Holds D)
include h

@[grind ←] theorem Command.holds_errDisengagingIdler : (c.errDisengagingIdler m).2.Holds D := by
  rw [errDisengagingIdler]
  grind

@[grind ←] theorem Command.holds_goToErrDisengagingIdler (ec : ErrorCode) :
    (c.goToErrDisengagingIdler ec m).2.Holds D := by
  rw [goToErrDisengagingIdler]
  grind

@[grind ←] theorem Command.holds_finishedOK : (c.finishedOK m).2.Holds D :=
  D.others h rfl rfl rfl rfl rfl rfl rfl rfl

@[grind ←] theorem Command.holds_unhandledState : (c.unhandledState m).2.2.Holds D := h

end Command

namespace ToolChange

/-- The retry after an error feeds the planned slot, it does not unload again. -/
def retryFeeds (c : ToolChange) (m : Modules) : Bool :=
  c.error == .findaFlickers || c.error != .fsensorTooEarly && !m.finda.pressed

/-- A step may go on with the planned slot. -/
def feedsPlanned (c : ToolChange) (m : Modules) : Bool :=
  c.state == .unloadingFilament ||
    c.state == .errWaitingForUser && m.consumeEvent.1 == .middle && c.retryFeeds m

end ToolChange

section Commands

variable {D : Modules.Durable} {m : Modules} (h : m.Holds D)
include h

@[grind ←] theorem LoadFilament.holds_reset2 (c : LoadFilament) (feedPhaseLimited : Bool) :
    (reset2 c feedPhaseLimited m).2.Holds D := by
  rw [reset2]
  grind

theorem LoadFilament.holds_reset (c : LoadFilament) (param : UInt8) :
    (reset c param m).2.2.Holds D := by
  rw [reset, Command.checkToolIndex]
  grind

@[grind ←] theorem LoadFilament.holds_resetLimited (c : LoadFilament) (param : UInt8) :
    (resetLimited c param m).2.Holds D := by
  rw [resetLimited, Command.checkToolIndex]
  grind

@[grind ←] theorem LoadFilament.holds_goToRetractingFromFinda (c : LoadFilament) :
    (goToRetractingFromFinda c m).2.Holds D := by
  rw [goToRetractingFromFinda]
  grind

@[grind ←] theorem LoadFilament.holds_loadFinishedCorrectly (c : LoadFilament) :
    (loadFinishedCorrectly c m).2.Holds D := by
  rw [loadFinishedCorrectly]
  grind

theorem LoadFilament.holds_stepInner (c : LoadFilament) : (stepInner c m).2.2.Holds D := by
  rw [stepInner]
  grind

@[grind ←] theorem UnloadFilament.holds_reset (c : UnloadFilament) : (reset c m).2.Holds D := by
  rw [reset]
  grind

@[grind ←] theorem UnloadFilament.holds_reset2 (c : UnloadFilament) : (reset2 c m).2.Holds D := by
  rw [reset2]
  grind

@[grind ←] theorem UnloadFilament.holds_unloadFinishedCorrectly (c : UnloadFilament) :
    (unloadFinishedCorrectly c m).2.Holds D := by
  rw [unloadFinishedCorrectly]
  grind

@[grind ←] theorem UnloadFilament.holds_goToRetractingFromFinda (c : UnloadFilament) :
    (goToRetractingFromFinda c m).2.Holds D := by
  rw [goToRetractingFromFinda]
  grind

@[grind ←] theorem UnloadFilament.holds_goToRecheckFilamentAgainstFINDA (c : UnloadFilament) :
    (goToRecheckFilamentAgainstFINDA c m).2.Holds D := by
  rw [goToRecheckFilamentAgainstFINDA]
  grind

@[grind ←] theorem UnloadFilament.holds_stepInner (c : UnloadFilament) :
    (stepInner c m).2.2.Holds D := by
  rw [stepInner]
  grind

@[grind ←] theorem ToolChange.holds_reset (c : ToolChange) (param : UInt8) :
    (reset c param m).2.2.Holds D := by
  rw [reset, Command.checkToolIndex]
  grind

@[grind ←] theorem ToolChange.holds_goToFeedingToBondtech (c : ToolChange) :
    (goToFeedingToBondtech c m).2.Holds D := by
  rw [goToFeedingToBondtech]
  grind

@[grind ←] theorem ToolChange.holds_toolChangeFinishedCorrectly (c : ToolChange) :
    (toolChangeFinishedCorrectly c m).2.Holds D := by
  rw [toolChangeFinishedCorrectly]
  grind

@[grind ←] theorem ToolChange.holds_goToFeedingToFinda {c : ToolChange}
    (hplanned : D.Slot c.data.plannedSlot) : (goToFeedingToFinda c m).2.Holds D := by
  rw [goToFeedingToFinda]
  grind

theorem ToolChange.holds_retry {c : ToolChange}
    (hplanned : c.retryFeeds m → D.Slot c.data.plannedSlot) : (retry c m).2.Holds D := by
  rw [retry]
  have hfinda : m.invalidateHoming.finda = m.finda := rfl
  grind [retryFeeds]

theorem ToolChange.holds_stepInner {c : ToolChange}
    (hplanned : c.feedsPlanned m → D.Slot c.data.plannedSlot) : (stepInner c m).2.2.Holds D := by
  rw [feedsPlanned] at hplanned
  rw [stepInner]
  split
  · next hstate =>
      have hslot := hplanned (by rw [hstate]; rfl)
      grind
  · grind
  · grind
  · exact h
  · grind
  · next hstate =>
      dsimp only
      split
      · next hmiddle =>
          refine holds_retry h.consumeEvent fun hfeeds => hplanned ?_
          rw [hstate, hmiddle]
          exact hfeeds
      · exact h.consumeEvent
  · exact h

@[grind ←] theorem CutFilament.holds_moveSelector (c : CutFilament) {slot : UInt8}
    (hslot : D.Place slot) : (moveSelector c slot m).2.Holds D := by
  rw [moveSelector]
  grind

@[grind ←] theorem CutFilament.holds_selectFilamentSlot {c : CutFilament}
    (hcut : D.Slot c.data.cutSlot) : (selectFilamentSlot c m).2.Holds D := by
  rw [selectFilamentSlot]
  have hengaged := h.idlerEngage (D.place hcut)
  exact (holds_moveSelector hengaged _ (D.place hcut)).setPair hcut _ _

@[grind ←] theorem CutFilament.holds_reset (c : CutFilament) (param : UInt8) :
    (reset c param m).2.2.Holds D := by
  rw [reset, Command.checkToolIndex]
  grind

theorem CutFilament.holds_stepInner {c : CutFilament} (hcut : D.Slot c.data.cutSlot)
    (hblade : D.Place (c.data.cutSlot + 1))
    (hhoming : c.state = .disengagingIdler → D.Rate m.globals.selectorHomingFeedrate)
    (hsaved : c.state = .performingCut → D.Rate c.data.savedSelectorFeedRate) :
    (stepInner c m).2.2.Holds D := by
  rw [stepInner]
  grind

@[grind ←] theorem EjectFilament.holds_moveSelectorAside (c : EjectFilament) :
    (moveSelectorAside c m).2.Holds D := by
  rw [moveSelectorAside]
  have hparked : D.Place (if c.data.slot ≤ 2 then 4 else 0) := by
    apply D.place
    apply D.tool
    split <;> decide
  grind

theorem EjectFilament.holds_reset (c : EjectFilament) (param : UInt8) :
    (reset c param m).2.2.Holds D := by
  rw [reset, Command.checkToolIndex]
  grind

theorem EjectFilament.holds_stepInner {c : EjectFilament} (hslot : D.Place c.data.slot) :
    (stepInner c m).2.2.Holds D := by
  rw [stepInner]
  grind

theorem Home.holds_stepInner (c : Home) : (stepInner c m).2.2.Holds D := by
  rw [stepInner]
  grind

theorem MoveSelector.holds_reset (c : MoveSelector) {param : UInt8} (hparam : D.Place param) :
    (reset c param m).2.2.Holds D := by
  rw [reset]
  grind

theorem MoveSelector.holds_stepInner {c : MoveSelector}
    (hslot : c.state = .movingSelector → m.selector.isIn .ready → D.Slot m.selector.currentSlot) :
    (stepInner c m).2.2.Holds D := by
  rw [stepInner]
  grind

theorem SetMode.holds_reset (c : SetMode) (param : UInt8) : (reset c param m).2.2.Holds D :=
  D.others (h.axes (.setMode _) (.setMode _) (.setMode _)) rfl rfl rfl rfl rfl rfl rfl rfl

@[grind ←] theorem StartUp.holds_checkFINDAvsEEPROM (hnone : D.Slot Config.toolCount) :
    (checkFINDAvsEEPROM m).2.Holds D := by
  rw [checkFINDAvsEEPROM]
  grind

theorem StartUp.holds_reset (hnone : D.Slot Config.toolCount) (c : StartUp) :
    (reset c m).2.2.Holds D := by
  rw [reset]
  grind

theorem StartUp.holds_stepInner (hnone : D.Slot Config.toolCount) (c : StartUp) :
    (stepInner c m).2.2.Holds D := by
  rw [stepInner]
  grind

end Commands

namespace CommandId

/-- The slots a step of a command goes to or records are in their sets, and so is the speed it
sets. -/
def StepsWithin (D : Modules.Durable) : (id : CommandId) → id.Object → Modules → Prop
  | .startUp, _, _ => D.Slot Config.toolCount
  | .moveSelector, c, m =>
      c.state = .movingSelector → m.selector.isIn .ready → D.Slot m.selector.currentSlot
  | .toolChange, c, m => ToolChange.feedsPlanned c m → D.Slot c.data.plannedSlot
  | .cutFilament, c, m =>
      (D.Slot c.data.cutSlot ∧ D.Place (c.data.cutSlot + 1)) ∧
        (c.state = .disengagingIdler → D.Rate m.globals.selectorHomingFeedrate) ∧
        (c.state = .performingCut → D.Rate c.data.savedSelectorFeedRate)
  | .ejectFilament, c, _ => D.Place c.data.slot
  | .noCommand, _, _ | .home, _, _ | .loadFilament, _, _ | .setMode, _, _
  | .unloadFilament, _, _ => True

/-- The parameters of a start are, where it does not check them itself. -/
def StartsWithin (D : Modules.Durable) : CommandId → UInt8 → Prop
  | .startUp, _ => D.Slot Config.toolCount
  | .moveSelector, param => D.Place param
  | .noCommand, _ | .cutFilament, _ | .ejectFilament, _ | .home, _ | .loadFilament, _
  | .setMode, _ | .toolChange, _ | .unloadFilament, _ => True

variable {D : Modules.Durable} {m : Modules} (h : m.Holds D)
include h

theorem holds_reset (id : CommandId) (c : id.Object) {param : UInt8} (hparam : id.StartsWithin D param) :
    (id.reset c param m).2.2.Holds D := by
  cases id with
  | startUp => exact StartUp.holds_reset h hparam c
  | noCommand => exact h
  | cutFilament => exact CutFilament.holds_reset h c param
  | ejectFilament => exact EjectFilament.holds_reset h c param
  | home => exact h.invalidateHomingAndFilamentState
  | loadFilament => exact LoadFilament.holds_reset h c param
  | moveSelector => exact MoveSelector.holds_reset h c hparam
  | setMode => exact SetMode.holds_reset h c param
  | toolChange => exact ToolChange.holds_reset h c param
  | unloadFilament => exact UnloadFilament.holds_reset h c

theorem holds_stepInner (id : CommandId) {c : id.Object} (hslots : id.StepsWithin D c m) :
    (id.stepInner c m).2.2.Holds D := by
  cases id with
  | startUp => exact StartUp.holds_stepInner h hslots c
  | noCommand | setMode => exact h
  | cutFilament => exact CutFilament.holds_stepInner h hslots.1.1 hslots.1.2 hslots.2.1 hslots.2.2
  | ejectFilament => exact EjectFilament.holds_stepInner h hslots
  | home => exact Home.holds_stepInner h c
  | loadFilament => exact LoadFilament.holds_stepInner h c
  | moveSelector => exact MoveSelector.holds_stepInner h hslots
  | toolChange => exact ToolChange.holds_stepInner h hslots
  | unloadFilament => exact UnloadFilament.holds_stepInner h c

end CommandId

namespace Running

variable {δ : Type} (r : Running δ) {D : Modules.Durable} (h : r.modules.Holds D)
include h

theorem holds_enterModuleFailure (ec : ErrorCode) : (r.enterModuleFailure ec).modules.Holds D := by
  rw [enterModuleFailure]
  split
  · exact h.holdIdlerSelector
  · exact h

theorem holds_failAgain (ec : ErrorCode) : (r.failAgain ec).modules.Holds D := by
  rw [failAgain]
  split
  · exact h.holdIdlerSelector
  · exact h

theorem holds_awaitHomingRequest (ec : ErrorCode) (axis : Axis) :
    (r.awaitHomingRequest ec axis).modules.Holds D := by
  rw [awaitHomingRequest]
  split
  · dsimp only
    split
    · exact D.planHome h.consumeEvent.resumeIdlerSelector axis
    · exact h.consumeEvent
  · exact h

theorem holds_waitForOne (ec : ErrorCode) (axis : Axis) :
    (r.waitForOneModuleErrorRecovery ec axis).2.modules.Holds D := by
  rw [waitForOneModuleErrorRecovery]
  split
  · apply holds_awaitHomingRequest
    apply holds_failAgain
    exact holds_enterModuleFailure r h ec
  · split
    · split
      · split <;> exact h
      · exact h
    · exact h

theorem holds_waitForModules : r.waitForModulesErrorRecovery.2.modules.Holds D := by
  rw [waitForModulesErrorRecovery]
  apply holds_waitForOne
  apply holds_waitForOne
  exact holds_waitForOne r h _ _

omit h in
theorem holds_step {id : CommandId} {r : Running id.Data} (h : r.modules.Holds D)
    (hslots : r.waitForModulesErrorRecovery.1 = false →
      r.waitForModulesErrorRecovery.2.command.state ≠ .errInternal →
      id.StepsWithin D r.waitForModulesErrorRecovery.2.command r.waitForModulesErrorRecovery.2.modules) :
    (r.step id.stepInner).2.modules.Holds D := by
  have hwait := r.holds_waitForModules h
  rw [step]
  dsimp only
  split
  · exact hwait
  · next hgo =>
      rw [not_or, Bool.not_eq_true] at hgo
      exact id.holds_stepInner hwait (hslots hgo.1 hgo.2)

end Running

end MmuFirmware
