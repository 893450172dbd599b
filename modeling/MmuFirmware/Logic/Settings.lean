import MmuFirmware.Logic.Durable
import MmuFirmware.Modules.Tuning

/-!
The settings, as the registers keep them for the user. No step of the logic changes any of them;
the speed of the selector is not among them, since a cut lowers it for a while.
-/
namespace MmuFirmware

/-- What the globals and the EEPROM keep for the user. -/
structure GlobalSettings where
  fsensorToNozzleMm : UInt8
  fsensorUnloadCheckMm : UInt8
  pulleyUnloadFeedrate : UInt16
  pulleyLoadFeedrate : UInt16
  pulleySlowFeedrate : UInt16
  idlerFeedrate : UInt16
  selectorHomingFeedrate : UInt16
  idlerHomingFeedrate : UInt16
  sgThrs : Axis → UInt8
  cutIRunCurrent : UInt8
  cutLengthMm : UInt8
  bowdenLengthMM : UInt16

def Globals.settings (g : Globals) : GlobalSettings where
  fsensorToNozzleMm := g.fsensorToNozzleMm
  fsensorUnloadCheckMm := g.fsensorUnloadCheckMm
  pulleyUnloadFeedrate := g.pulleyUnloadFeedrate
  pulleyLoadFeedrate := g.pulleyLoadFeedrate
  pulleySlowFeedrate := g.pulleySlowFeedrate
  idlerFeedrate := g.idlerFeedrate
  selectorHomingFeedrate := g.selectorHomingFeedrate
  idlerHomingFeedrate := g.idlerHomingFeedrate
  sgThrs
    | .pulley => g.storage.sgThrsPulley
    | .selector => g.storage.sgThrsSelector
    | .idler => g.storage.sgThrsIdler
  cutIRunCurrent := g.cutIRunCurrent
  cutLengthMm := g.cutLengthMm
  bowdenLengthMM := g.storage.bowdenLengthMM

theorem Globals.settings_setFilamentLoaded (g : Globals) (slot : UInt8) (s : FilamentLoadState) :
    (g.setFilamentLoaded slot s).settings = g.settings := by
  rw [setFilamentLoaded]
  split
  · rfl
  · split <;> rfl

theorem Globals.settings_incDriveErrors (g : Globals) : g.incDriveErrors.settings = g.settings := by
  rw [incDriveErrors, PermanentStorage.incrementDriveError]
  split
  · simp only [PermanentStorage.setDriveErrorL]
    split <;> rfl
  · rfl

structure Settings where
  globals : GlobalSettings
  iRun : Axis → UInt8

namespace Modules

def settings (m : Modules) : Settings where
  globals := m.globals.settings
  iRun axis := (m.axisData axis).iRun

variable {m m' : Modules}

theorem settings_ext (hglobals : m'.globals.settings = m.globals.settings)
    (hiRun : ∀ axis, (m'.axisData axis).iRun = (m.axisData axis).iRun) :
    m'.settings = m.settings := by
  rw [settings, settings, hglobals]
  exact congrArg (Settings.mk _) (funext hiRun)

theorem settings_congr (hglobals : m'.globals.settings = m.globals.settings)
    (hpulley : m.pulley.axis.Tuned m'.pulley.axis)
    (hselector : m.selector.axis.Tuned m'.selector.axis)
    (hidler : m.idler.axis.Tuned m'.idler.axis) : m'.settings = m.settings := by
  apply settings_ext hglobals
  intro axis
  cases axis with
  | pulley => exact hpulley.iRun
  | selector => exact hselector.iRun
  | idler => exact hidler.iRun

theorem settings_idler (i : Idler) (h : m.idler.axis.Tuned i.axis) :
    settings { m with idler := i } = m.settings :=
  settings_congr rfl (.refl _) (.refl _) h

theorem settings_selector (s : Selector) (h : m.selector.axis.Tuned s.axis) :
    settings { m with selector := s } = m.settings :=
  settings_congr rfl (.refl _) h (.refl _)

theorem settings_pulley (p : Pulley) (h : m.pulley.axis.Tuned p.axis) :
    settings { m with pulley := p } = m.settings :=
  settings_congr rfl h (.refl _) (.refl _)

variable (m)

@[grind =] theorem settings_setLeds (f : LEDs → LEDs) :
    (m.setLeds f).settings = m.settings := rfl

@[grind =] theorem settings_activeSlotProcessing :
    m.activeSlotProcessing.settings = m.settings := rfl

@[grind =] theorem settings_activeSlotError : m.activeSlotError.settings = m.settings := rfl

@[grind =] theorem settings_activeSlotDoneEmpty :
    m.activeSlotDoneEmpty.settings = m.settings := rfl

@[grind =] theorem settings_activeSlotDonePrimed :
    m.activeSlotDonePrimed.settings = m.settings := rfl

@[grind =] theorem settings_clearUserInput : m.clearUserInput.settings = m.settings := rfl

@[grind =] theorem settings_consumeEvent : m.consumeEvent.2.settings = m.settings := rfl

@[grind =] theorem settings_setPrinterInCharge (pc : Bool) :
    (m.setPrinterInCharge pc).settings = m.settings := rfl

@[grind =] theorem settings_setFilamentLoaded (slot : UInt8) (s : FilamentLoadState) :
    (m.setFilamentLoaded slot s).settings = m.settings :=
  settings_congr (Globals.settings_setFilamentLoaded _ _ _) (.refl _) (.refl _) (.refl _)

@[grind =] theorem settings_idlerEngage (slot : UInt8) :
    (m.idlerEngage slot).settings = m.settings :=
  settings_idler _ (Idler.tuned_planMoveInner _ _ _ _)

@[grind =] theorem settings_idlerPartiallyDisengage (slot : UInt8) :
    (m.idlerPartiallyDisengage slot).settings = m.settings :=
  settings_idler _ (Idler.tuned_planMoveInner _ _ _ _)

@[grind =] theorem settings_idlerDisengage : m.idlerDisengage.settings = m.settings :=
  settings_idler _ (Idler.tuned_planMoveInner _ _ _ _)

@[grind =] theorem settings_selectorMoveToSlot (slot : UInt8) :
    (m.selectorMoveToSlot slot).2.settings = m.settings :=
  settings_selector _ (Selector.tuned_moveToSlot _ _ _ _)

@[grind =] theorem settings_pulleyInitAxis : m.pulleyInitAxis.settings = m.settings :=
  settings_pulley _ (AxisData.Tuned.refl _).initAxis

@[grind =] theorem settings_pulleyDisable : m.pulleyDisable.settings = m.settings :=
  settings_pulley _ (AxisData.Tuned.refl _).disable

@[grind =] theorem settings_pulleyAbort :
    settings { m with pulley := { m.pulley with axis := m.pulley.axis.abortPlannedMoves } } =
      m.settings :=
  settings_pulley _ ⟨rfl, rfl, id⟩

@[grind =] theorem settings_pulleyPlanMove (delta : Int) (feed endRate : UInt16) :
    (m.pulleyPlanMove delta feed endRate).settings = m.settings :=
  settings_pulley _ (Pulley.tuned_planMove _ _ _ _)

@[grind =] theorem settings_idlerInvalidateHoming :
    settings { m with idler := Movable.invalidateHoming m.idler } = m.settings := rfl

@[grind =] theorem settings_incDriveErrors :
    settings { m with globals := m.globals.incDriveErrors } = m.settings :=
  settings_congr (Globals.settings_incDriveErrors _) (.refl _) (.refl _) (.refl _)

/-- The selector is powered up for a cut, at another speed. -/
@[grind =] theorem settings_selectorPowerUp (selectorFeedrate : UInt16) :
    settings
      { m with
        selector := { m.selector with axis := m.selector.axis.initAxis.2 }
        globals := { m.globals with selectorFeedrate } } = m.settings :=
  settings_congr rfl (.refl _) (AxisData.Tuned.refl _).initAxis (.refl _)

/-- After the cut it has to home. -/
@[grind =] theorem settings_selectorPowerDown (selectorFeedrate : UInt16) :
    settings
      { m with
        globals := { m.globals with selectorFeedrate }
        selector :=
          Movable.invalidateHoming { m.selector with axis := m.selector.axis.initAxis.2 } } =
      m.settings :=
  settings_congr rfl (.refl _) (AxisData.Tuned.refl _).initAxis (.refl _)

@[grind =] theorem settings_abortPlannedMoves : m.abortPlannedMoves.settings = m.settings :=
  settings_congr rfl ⟨rfl, rfl, id⟩ ⟨rfl, rfl, id⟩ ⟨rfl, rfl, id⟩

@[grind =] theorem settings_holdIdlerSelector : m.holdIdlerSelector.settings = m.settings :=
  settings_congr rfl (.refl _) (Movable.tuned_holdOn _) (Movable.tuned_holdOn _)

@[grind =] theorem settings_resumeIdlerSelector :
    m.resumeIdlerSelector.settings = m.settings := rfl

@[grind =] theorem settings_invalidateHoming : m.invalidateHoming.settings = m.settings := rfl

@[grind =] theorem settings_invalidateHomingAndFilamentState :
    m.invalidateHomingAndFilamentState.settings = m.settings :=
  settings_setFilamentLoaded m.invalidateHoming _ _

theorem settings_clearQueueFull : m.clearQueueFull.settings = m.settings :=
  settings_congr rfl ⟨rfl, rfl, id⟩ ⟨rfl, rfl, id⟩ ⟨rfl, rfl, id⟩

theorem settings_planHome (axis : Axis) : (m.planHome axis).settings = m.settings := by
  cases axis with
  | pulley => exact settings_pulley _ (Movable.tuned_planHome (.refl _) _ fun _ => .refl _)
  | selector => exact settings_selector _ (Selector.tuned_planHome (.refl _) _)
  | idler => exact settings_idler _ (Idler.tuned_planHome (.refl _) _)

end Modules

section Automata

variable (m : Modules)

@[grind =] theorem FeedToFinda.settings_reset (feedPhaseLimited : Bool) :
    (reset feedPhaseLimited m).2.2.settings = m.settings := by
  rw [reset]
  grind

@[grind =] theorem FeedToFinda.settings_step (f : FeedToFinda) :
    (f.step m).2.2.settings = m.settings := by
  rw [step]
  grind

@[grind =] theorem FeedToBondtech.settings_reset : (reset m).2.settings = m.settings := by
  rw [reset]
  grind

@[grind =] theorem FeedToBondtech.settings_goToPushToNozzle :
    (goToPushToNozzle m).2.settings = m.settings := by
  rw [goToPushToNozzle]
  grind

@[grind =] theorem FeedToBondtech.settings_step (f : FeedToBondtech) :
    (f.step m).2.2.settings = m.settings := by
  rw [step]
  grind

@[grind =] theorem RetractFromFinda.settings_reset : (reset m).2.settings = m.settings := by
  rw [reset]
  grind

@[grind =] theorem RetractFromFinda.settings_step (f : RetractFromFinda) :
    (f.step m).2.2.settings = m.settings := by
  rw [step]
  grind

@[grind =] theorem UnloadToFinda.settings_reset (f : UnloadToFinda) (maxTries : UInt8) :
    (f.reset maxTries m).2.settings = m.settings := by
  rw [reset]
  grind

@[grind =] theorem UnloadToFinda.settings_step (f : UnloadToFinda) :
    (f.step m).2.2.settings = m.settings := by
  rw [step]
  grind

end Automata

section Command

variable {δ : Type} (c : Command δ) (m : Modules)

@[grind =] theorem Command.settings_errDisengagingIdler :
    (c.errDisengagingIdler m).2.settings = m.settings := by
  rw [errDisengagingIdler]
  grind

@[grind =] theorem Command.settings_goToErrDisengagingIdler (ec : ErrorCode) :
    (c.goToErrDisengagingIdler ec m).2.settings = m.settings := by
  rw [goToErrDisengagingIdler]
  grind

@[grind =] theorem Command.settings_finishedOK : (c.finishedOK m).2.settings = m.settings := rfl

@[grind =] theorem Command.settings_unhandledState :
    (c.unhandledState m).2.2.settings = m.settings := rfl

end Command

section Commands

variable (m : Modules)

@[grind =] theorem LoadFilament.settings_reset2 (c : LoadFilament) (feedPhaseLimited : Bool) :
    (reset2 c feedPhaseLimited m).2.settings = m.settings := by
  rw [reset2]
  grind

theorem LoadFilament.settings_reset (c : LoadFilament) (param : UInt8) :
    (reset c param m).2.2.settings = m.settings := by
  rw [reset, Command.checkToolIndex]
  grind

@[grind =] theorem LoadFilament.settings_resetLimited (c : LoadFilament) (param : UInt8) :
    (resetLimited c param m).2.settings = m.settings := by
  rw [resetLimited, Command.checkToolIndex]
  grind

@[grind =] theorem LoadFilament.settings_goToRetractingFromFinda (c : LoadFilament) :
    (goToRetractingFromFinda c m).2.settings = m.settings := by
  rw [goToRetractingFromFinda]
  grind

@[grind =] theorem LoadFilament.settings_loadFinishedCorrectly (c : LoadFilament) :
    (loadFinishedCorrectly c m).2.settings = m.settings := by
  rw [loadFinishedCorrectly]
  grind

theorem LoadFilament.settings_stepInner (c : LoadFilament) :
    (stepInner c m).2.2.settings = m.settings := by
  rw [stepInner]
  grind

@[grind =] theorem UnloadFilament.settings_reset (c : UnloadFilament) :
    (reset c m).2.settings = m.settings := by
  rw [reset]
  grind

@[grind =] theorem UnloadFilament.settings_reset2 (c : UnloadFilament) :
    (reset2 c m).2.settings = m.settings := by
  rw [reset2]
  grind

@[grind =] theorem UnloadFilament.settings_unloadFinishedCorrectly (c : UnloadFilament) :
    (unloadFinishedCorrectly c m).2.settings = m.settings := by
  rw [unloadFinishedCorrectly]
  grind

@[grind =] theorem UnloadFilament.settings_goToRetractingFromFinda (c : UnloadFilament) :
    (goToRetractingFromFinda c m).2.settings = m.settings := by
  rw [goToRetractingFromFinda]
  grind

@[grind =] theorem UnloadFilament.settings_goToRecheckFilamentAgainstFINDA (c : UnloadFilament) :
    (goToRecheckFilamentAgainstFINDA c m).2.settings = m.settings := by
  rw [goToRecheckFilamentAgainstFINDA]
  grind

@[grind =] theorem UnloadFilament.settings_stepInner (c : UnloadFilament) :
    (stepInner c m).2.2.settings = m.settings := by
  rw [stepInner]
  grind

@[grind =] theorem ToolChange.settings_reset (c : ToolChange) (param : UInt8) :
    (reset c param m).2.2.settings = m.settings := by
  rw [reset, Command.checkToolIndex]
  grind

@[grind =] theorem ToolChange.settings_goToFeedingToBondtech (c : ToolChange) :
    (goToFeedingToBondtech c m).2.settings = m.settings := by
  rw [goToFeedingToBondtech]
  grind

@[grind =] theorem ToolChange.settings_toolChangeFinishedCorrectly (c : ToolChange) :
    (toolChangeFinishedCorrectly c m).2.settings = m.settings := by
  rw [toolChangeFinishedCorrectly]
  grind

@[grind =] theorem ToolChange.settings_goToFeedingToFinda (c : ToolChange) :
    (goToFeedingToFinda c m).2.settings = m.settings := by
  rw [goToFeedingToFinda]
  grind

@[grind =] theorem ToolChange.settings_retry (c : ToolChange) :
    (retry c m).2.settings = m.settings := by
  rw [retry]
  grind

theorem ToolChange.settings_stepInner (c : ToolChange) :
    (stepInner c m).2.2.settings = m.settings := by
  rw [stepInner]
  split
  · grind
  · grind
  · grind
  · rfl
  · grind
  · dsimp only
    split
    · rw [settings_retry, Modules.settings_consumeEvent]
    · exact m.settings_consumeEvent
  · rfl

@[grind =] theorem CutFilament.settings_moveSelector (c : CutFilament) (slot : UInt8) :
    (moveSelector c slot m).2.settings = m.settings := by
  rw [moveSelector]
  grind

@[grind =] theorem CutFilament.settings_selectFilamentSlot (c : CutFilament) :
    (selectFilamentSlot c m).2.settings = m.settings := by
  rw [selectFilamentSlot]
  grind

@[grind =] theorem CutFilament.settings_reset (c : CutFilament) (param : UInt8) :
    (reset c param m).2.2.settings = m.settings := by
  rw [reset, Command.checkToolIndex]
  grind

theorem CutFilament.settings_stepInner (c : CutFilament) :
    (stepInner c m).2.2.settings = m.settings := by
  rw [stepInner]
  grind

@[grind =] theorem EjectFilament.settings_moveSelectorAside (c : EjectFilament) :
    (moveSelectorAside c m).2.settings = m.settings := by
  rw [moveSelectorAside]
  grind

theorem EjectFilament.settings_reset (c : EjectFilament) (param : UInt8) :
    (reset c param m).2.2.settings = m.settings := by
  rw [reset, Command.checkToolIndex]
  grind

theorem EjectFilament.settings_stepInner (c : EjectFilament) :
    (stepInner c m).2.2.settings = m.settings := by
  rw [stepInner]
  grind

theorem Home.settings_stepInner (c : Home) : (stepInner c m).2.2.settings = m.settings := by
  rw [stepInner]
  grind

theorem MoveSelector.settings_reset (c : MoveSelector) (param : UInt8) :
    (reset c param m).2.2.settings = m.settings := by
  rw [reset]
  grind

theorem MoveSelector.settings_stepInner (c : MoveSelector) :
    (stepInner c m).2.2.settings = m.settings := by
  rw [stepInner]
  grind

@[grind =] theorem StartUp.settings_checkFINDAvsEEPROM :
    (checkFINDAvsEEPROM m).2.settings = m.settings := by
  rw [checkFINDAvsEEPROM]
  grind

theorem StartUp.settings_reset (c : StartUp) : (reset c m).2.2.settings = m.settings := by
  rw [reset]
  grind

theorem StartUp.settings_stepInner (c : StartUp) : (stepInner c m).2.2.settings = m.settings := by
  rw [stepInner]
  grind

theorem SetMode.settings_reset (c : SetMode) (param : UInt8) :
    (reset c param m).2.2.settings = m.settings :=
  Modules.settings_congr rfl ⟨rfl, rfl, id⟩ ⟨rfl, rfl, id⟩ ⟨rfl, rfl, id⟩

end Commands

namespace CommandId

variable (m : Modules)

theorem settings_reset (id : CommandId) (c : id.Object) (param : UInt8) :
    (id.reset c param m).2.2.settings = m.settings := by
  cases id with
  | startUp => exact StartUp.settings_reset m c
  | noCommand => rfl
  | cutFilament => exact CutFilament.settings_reset m c param
  | ejectFilament => exact EjectFilament.settings_reset m c param
  | home => exact m.settings_invalidateHomingAndFilamentState
  | loadFilament => exact LoadFilament.settings_reset m c param
  | moveSelector => exact MoveSelector.settings_reset m c param
  | setMode => exact SetMode.settings_reset m c param
  | toolChange => exact ToolChange.settings_reset m c param
  | unloadFilament => exact UnloadFilament.settings_reset m c

theorem settings_stepInner (id : CommandId) (c : id.Object) :
    (id.stepInner c m).2.2.settings = m.settings := by
  cases id with
  | startUp => exact StartUp.settings_stepInner m c
  | noCommand | setMode => rfl
  | cutFilament => exact CutFilament.settings_stepInner m c
  | ejectFilament => exact EjectFilament.settings_stepInner m c
  | home => exact Home.settings_stepInner m c
  | loadFilament => exact LoadFilament.settings_stepInner m c
  | moveSelector => exact MoveSelector.settings_stepInner m c
  | toolChange => exact ToolChange.settings_stepInner m c
  | unloadFilament => exact UnloadFilament.settings_stepInner m c

end CommandId

namespace Running

variable {δ : Type} (r : Running δ)

theorem settings_enterModuleFailure (ec : ErrorCode) :
    (r.enterModuleFailure ec).modules.settings = r.modules.settings := by
  rw [enterModuleFailure]
  split
  · exact r.modules.settings_holdIdlerSelector
  · rfl

theorem settings_failAgain (ec : ErrorCode) :
    (r.failAgain ec).modules.settings = r.modules.settings := by
  rw [failAgain]
  split
  · exact r.modules.settings_holdIdlerSelector
  · rfl

theorem settings_awaitHomingRequest (ec : ErrorCode) (axis : Axis) :
    (r.awaitHomingRequest ec axis).modules.settings = r.modules.settings := by
  rw [awaitHomingRequest]
  split
  · dsimp only
    split
    · exact Modules.settings_planHome r.modules.consumeEvent.2.resumeIdlerSelector axis
    · rfl
  · rfl

theorem settings_waitForOne (ec : ErrorCode) (axis : Axis) :
    (r.waitForOneModuleErrorRecovery ec axis).2.modules.settings = r.modules.settings := by
  rw [waitForOneModuleErrorRecovery]
  split
  · rw [settings_awaitHomingRequest, settings_failAgain, settings_enterModuleFailure]
  · split
    · split
      · split <;> rfl
      · rfl
    · rfl

theorem settings_waitForModules :
    r.waitForModulesErrorRecovery.2.modules.settings = r.modules.settings := by
  rw [waitForModulesErrorRecovery]
  dsimp only
  rw [settings_waitForOne, settings_waitForOne, settings_waitForOne]

theorem settings_step (id : CommandId) (r : Running id.Data) :
    (r.step id.stepInner).2.modules.settings = r.modules.settings := by
  rw [step]
  dsimp only
  split
  · exact r.settings_waitForModules
  · exact (id.settings_stepInner _ _).trans r.settings_waitForModules

end Running

end MmuFirmware
