import MmuFirmware.Logic.ActiveSlot
import MmuFirmware.Logic.Durable
import MmuFirmware.Logic.NestedUnload
import MmuFirmware.Modules.Causes

/-!
The codes the commands report. Errors are told from progress by the highest bit of the code;
every code the commands take up by themselves is an error in this sense, or says that the
command is running or has finished. So is the code of a failed axis, as long as every failure
has had a cause.
-/
namespace MmuFirmware

namespace ErrorCode

/-- Running, finished, or an error, which has the highest bit set. -/
def Proper (ec : ErrorCode) : Prop := ec = .running ∨ ec = .ok ∨ ec &&& 0x8000 ≠ 0

instance (ec : ErrorCode) : Decidable ec.Proper := inferInstanceAs (Decidable (_ ∨ _ ∨ _))

@[grind .] theorem proper_running : running.Proper := .inl rfl
@[grind .] theorem proper_ok : ok.Proper := .inr (.inl rfl)
@[grind .] theorem proper_findaDidntSwitchOn : findaDidntSwitchOn.Proper := by decide
@[grind .] theorem proper_findaDidntSwitchOff : findaDidntSwitchOff.Proper := by decide
@[grind .] theorem proper_fsensorDidntSwitchOn : fsensorDidntSwitchOn.Proper := by decide
@[grind .] theorem proper_fsensorDidntSwitchOff : fsensorDidntSwitchOff.Proper := by decide
@[grind .] theorem proper_invalidTool : invalidTool.Proper := by decide
@[grind .] theorem proper_homingSelectorFailed : homingSelectorFailed.Proper := by decide
@[grind .] theorem proper_findaVsEepromDisrepancy : findaVsEepromDisrepancy.Proper := by decide
@[grind .] theorem proper_fsensorTooEarly : fsensorTooEarly.Proper := by decide
@[grind .] theorem proper_findaFlickers : findaFlickers.Proper := by decide
@[grind .] theorem proper_filamentEjected : filamentEjected.Proper := by decide
@[grind .] theorem proper_internal : internal.Proper := by decide

end ErrorCode

namespace Command

variable {δ : Type} {c : Command δ} {m : Modules}

/-- The code of a command and the one it will take over are proper. -/
structure Coded (c : Command δ) : Prop where
  error : c.error.Proper
  deferred : c.deferredErrorCode.Proper

@[grind =] theorem coded_iff :
    c.Coded ↔ c.error.Proper ∧ c.deferredErrorCode.Proper :=
  ⟨fun h => ⟨h.error, h.deferred⟩, fun h => ⟨h.1, h.2⟩⟩

@[grind ←] theorem coded_errDisengagingIdler (h : c.Coded) : (c.errDisengagingIdler m).1.Coded := by
  rw [errDisengagingIdler]
  split
  · exact ⟨h.deferred, ErrorCode.proper_ok⟩
  · exact h

@[grind ←] theorem coded_goToErrDisengagingIdler (h : c.Coded) {ec : ErrorCode} (hec : ec.Proper) :
    (c.goToErrDisengagingIdler ec m).1.Coded := ⟨h.error, hec⟩

@[grind ←] theorem coded_finishedOK (h : c.Coded) : (c.finishedOK m).1.Coded :=
  ⟨ErrorCode.proper_ok, h.deferred⟩

@[grind ←] theorem coded_unhandledState (h : c.Coded) : (c.unhandledState m).2.1.Coded :=
  ⟨ErrorCode.proper_internal, h.deferred⟩

end Command

section Commands

variable {m : Modules}

open Command (Coded)

@[grind ←] theorem LoadFilament.coded_reset2 {c : LoadFilament} (h : Coded c)
    (feedPhaseLimited : Bool) : Coded (reset2 c feedPhaseLimited m).1 := by
  rw [reset2]
  grind

theorem LoadFilament.coded_reset {c : LoadFilament} (h : Coded c) (param : UInt8) :
    Coded (reset c param m).2.1 := by
  rw [reset, Command.checkToolIndex]
  grind

@[grind ←] theorem LoadFilament.coded_resetLimited {c : LoadFilament} (h : Coded c)
    (param : UInt8) : Coded (resetLimited c param m).1 := by
  rw [resetLimited, Command.checkToolIndex]
  grind

@[grind ←] theorem LoadFilament.coded_goToRetractingFromFinda {c : LoadFilament} (h : Coded c) :
    Coded (goToRetractingFromFinda c m).1 := ⟨ErrorCode.proper_running, h.deferred⟩

theorem LoadFilament.coded_stepInner {c : LoadFilament} (h : Coded c) :
    Coded (stepInner c m).2.1 := by
  rw [stepInner]
  grind [loadFinishedCorrectly]

@[grind ←] theorem UnloadFilament.coded_reset {c : UnloadFilament} (h : Coded c) :
    Coded (reset c m).1 := by
  rw [reset]
  grind

@[grind ←] theorem UnloadFilament.coded_reset2 {c : UnloadFilament} (h : Coded c) :
    Coded (reset2 c m).1 :=
  ⟨(coded_reset h).error, (coded_reset h).deferred⟩

@[grind ←] theorem UnloadFilament.coded_goToRecheckFilamentAgainstFINDA {c : UnloadFilament}
    (h : Coded c) : Coded (goToRecheckFilamentAgainstFINDA c m).1 := by
  rw [goToRecheckFilamentAgainstFINDA]
  grind

theorem UnloadFilament.coded_stepInner {c : UnloadFilament} (h : Coded c) :
    Coded (stepInner c m).2.1 := by
  rw [stepInner]
  grind [unloadFinishedCorrectly, goToRetractingFromFinda]

theorem UnloadFilament.preserve_coded : UnloadFilament.Preserve Coded where
  reset _ h := coded_reset h
  reset2 _ h := coded_reset2 h
  stepInner _ h := coded_stepInner h

@[grind ←] theorem ToolChange.coded_reset {c : ToolChange} (h : Coded c) (param : UInt8) :
    Coded (reset c param m).2.1 := by
  rw [reset, Command.checkToolIndex]
  grind

@[grind ←] theorem ToolChange.coded_goToFeedingToFinda {c : ToolChange} (h : Coded c) :
    Coded (goToFeedingToFinda c m).1 := by
  rw [goToFeedingToFinda]
  grind

@[grind ←] theorem ToolChange.coded_retry {c : ToolChange} (h : Coded c) :
    Coded (retry c m).1 := by
  rw [retry]
  grind

theorem ToolChange.coded_stepInner {c : ToolChange} (h : Coded c) :
    Coded (stepInner c m).2.1 := by
  rw [stepInner]
  grind [goToFeedingToBondtech, toolChangeFinishedCorrectly]

@[grind ←] theorem CutFilament.coded_moveSelector {c : CutFilament} (h : Coded c) (slot : UInt8) :
    Coded (moveSelector c slot m).1 := by
  rw [moveSelector]
  grind

@[grind ←] theorem CutFilament.coded_selectFilamentSlot {c : CutFilament} (h : Coded c) :
    Coded (selectFilamentSlot c m).1 := by
  rw [selectFilamentSlot]
  grind

@[grind ←] theorem CutFilament.coded_reset {c : CutFilament} (h : Coded c) (param : UInt8) :
    Coded (reset c param m).2.1 := by
  rw [reset, Command.checkToolIndex]
  grind

theorem CutFilament.coded_stepInner {c : CutFilament} (h : Coded c) :
    Coded (stepInner c m).2.1 := by
  rw [stepInner]
  grind

@[grind ←] theorem EjectFilament.coded_moveSelectorAside {c : EjectFilament} (h : Coded c) :
    Coded (moveSelectorAside c m).1 := by
  rw [moveSelectorAside]
  grind

theorem EjectFilament.coded_reset {c : EjectFilament} (h : Coded c) (param : UInt8) :
    Coded (reset c param m).2.1 := by
  rw [reset, Command.checkToolIndex]
  grind

theorem EjectFilament.coded_stepInner {c : EjectFilament} (h : Coded c) :
    Coded (stepInner c m).2.1 := by
  rw [stepInner]
  grind

theorem Home.coded_stepInner {c : Home} (h : Coded c) : Coded (stepInner c m).2.1 := by
  rw [stepInner]
  grind

theorem MoveSelector.coded_reset {c : MoveSelector} (h : Coded c) (param : UInt8) :
    Coded (reset c param m).2.1 := by
  rw [reset]
  grind

theorem MoveSelector.coded_stepInner {c : MoveSelector} (h : Coded c) :
    Coded (stepInner c m).2.1 := by
  rw [stepInner]
  grind

theorem StartUp.coded_setInitError {c : StartUp} (h : Coded c) {ec : ErrorCode}
    (hec : ec.Proper) : Coded (setInitError c ec) := ⟨hec, h.deferred⟩

theorem StartUp.coded_reset {c : StartUp} (h : Coded c) : Coded (reset c m).2.1 := by
  rw [reset]
  grind [setInitError]

theorem StartUp.coded_stepInner {c : StartUp} (h : Coded c) : Coded (stepInner c m).2.1 := by
  rw [stepInner]
  grind [setInitError]

end Commands

namespace CommandId

variable {id : CommandId} {c c' : id.Object} {m : Modules}

/-- The codes of a command and of the unload nested in it. -/
structure Coded (id : CommandId) (c : id.Object) : Prop where
  own : Command.Coded c
  nested : ∀ unl ∈ id.nested c, Command.Coded unl

namespace Coded

theorem congr (h : id.Coded c) (hown : Command.Coded c') (hdata : c'.data = c.data) :
    id.Coded c' :=
  ⟨hown, nested_of_data h.nested hdata⟩

theorem reset (h : id.Coded c) (param : UInt8) : id.Coded (id.reset c param m).2.1 := by
  refine ⟨?_, reset_preserves UnloadFilament.preserve_coded.toRestarts h.nested param⟩
  cases id with
  | startUp => exact StartUp.coded_reset h.own
  | noCommand => exact h.own
  | cutFilament => exact CutFilament.coded_reset h.own param
  | ejectFilament => exact EjectFilament.coded_reset h.own param
  | home => exact ⟨ErrorCode.proper_running, h.own.deferred⟩
  | loadFilament => exact LoadFilament.coded_reset h.own param
  | moveSelector => exact MoveSelector.coded_reset h.own param
  | setMode => exact ⟨ErrorCode.proper_ok, h.own.deferred⟩
  | toolChange => exact ToolChange.coded_reset h.own param
  | unloadFilament => exact UnloadFilament.coded_reset h.own

theorem stepInner (h : id.Coded c) : id.Coded (id.stepInner c m).2.1 := by
  refine ⟨?_, stepInner_preserves UnloadFilament.preserve_coded h.nested⟩
  cases id with
  | startUp => exact StartUp.coded_stepInner h.own
  | noCommand | setMode => exact h.own
  | cutFilament => exact CutFilament.coded_stepInner h.own
  | ejectFilament => exact EjectFilament.coded_stepInner h.own
  | home => exact Home.coded_stepInner h.own
  | loadFilament => exact LoadFilament.coded_stepInner h.own
  | moveSelector => exact MoveSelector.coded_stepInner h.own
  | toolChange => exact ToolChange.coded_stepInner h.own
  | unloadFilament => exact UnloadFilament.coded_stepInner h.own

/-- What is shown is the command's own code or that of its nested unload. -/
theorem shownError (h : id.Coded c) : (id.shownError c).Proper := by
  cases id with
  | cutFilament =>
      show (if _ then _ else _ : ErrorCode).Proper
      split
      · exact (h.nested _ rfl).error
      · exact h.own.error
  | ejectFilament =>
      show (if _ then _ else _ : ErrorCode).Proper
      split
      · exact (h.nested _ rfl).error
      · exact h.own.error
  | toolChange =>
      show (ToolChange.shownError c).Proper
      rw [ToolChange.shownError]
      split
      · split
        · exact ErrorCode.proper_running
        · exact (h.nested _ rfl).error
      · exact h.own.error
  | startUp | noCommand | home | loadFilament | moveSelector | setMode | unloadFilament =>
      exact h.own.error

end Coded
end CommandId

namespace ErrorCode

/-- What a driver may have failed from. -/
def causes : List ErrorCode :=
  [tmcReset, tmcUndervoltageOnChargePump, tmcShortToGround, tmcOverTemperatureWarn,
    tmcOverTemperatureError]

/-- The error of a driver: it tells the axis and a cause. -/
structure Attributable (ec : ErrorCode) (axis : Axis) : Prop where
  axisBit : ec &&& axis.errorBit = axis.errorBit
  highest : ec &&& 0x8000 ≠ 0
  cause : ∃ cause ∈ causes, ec &&& cause = cause

theorem attributable_of_any {ef : TMCErrorFlags} (h : ef.any = true) (axis : Axis) :
    (addErrorAxisBit (tmc2130ToErrorCode ef) axis).Attributable axis := by
  have hflags : ∀ resetFlag uvCp s2g otpw ot : Bool,
      (TMCErrorFlags.mk resetFlag uvCp s2g otpw ot).any = true →
        let ec := addErrorAxisBit (tmc2130ToErrorCode ⟨resetFlag, uvCp, s2g, otpw, ot⟩) axis
        ec &&& axis.errorBit = axis.errorBit ∧ ec &&& 0x8000 ≠ 0 ∧
          ∃ cause ∈ causes, ec &&& cause = cause := by
    cases axis <;> decide +kernel
  obtain ⟨haxis, hhighest, hcause⟩ := hflags _ _ _ _ _ h
  exact ⟨haxis, hhighest, hcause⟩

end ErrorCode

section Causeless

variable {ε : Type} {m : Movable ε}

theorem addErrorAxisBit_of_any {ef : TMCErrorFlags} (h : ef.any = false) (axis : Axis) :
    addErrorAxisBit (tmc2130ToErrorCode ef) axis = axis.errorBit := by
  obtain ⟨resetFlag, uvCp, s2g, otpw, ot⟩ := ef
  simp only [TMCErrorFlags.any, Bool.or_eq_false_iff] at h
  obtain ⟨⟨⟨⟨rfl, rfl⟩, rfl⟩, rfl⟩, rfl⟩ := h
  cases axis <;> rfl

/-- A failure without a cause is reported as the bare bit of the axis. -/
theorem checkMovable_checkTMC (hbefore : m.causeless = false)
    (hcauseless : m.checkTMC.causeless = true) (axis : Axis) :
    checkMovable m.checkTMC axis = axis.errorBit := by
  rw [Movable.checkTMC] at hcauseless ⊢
  dsimp only at hcauseless ⊢
  split at hcauseless
  · next hfailed =>
      have htells : (m.causeless || !m.axis.tellsCause) = true := hcauseless
      rw [hbefore, Bool.false_or, Bool.not_eq_true'] at htells
      rw [if_pos hfailed]
      exact addErrorAxisBit_of_any ((AxisData.any_checkForErrors hfailed).trans htells) axis
  · exact absurd (hbefore.symm.trans hcauseless) (by decide)

theorem checkMovable_initMovement {prepare : Movable ε → Movable ε}
    (hprepare : ∀ m, (prepare m).causeless = m.causeless) (hbefore : m.causeless = false)
    (hcauseless : (m.initMovement prepare).2.causeless = true) (axis : Axis) :
    checkMovable (m.initMovement prepare).2 axis = axis.errorBit := by
  rw [Movable.initMovement] at hcauseless ⊢
  dsimp only at hcauseless ⊢
  split at hcauseless
  · have hsame : (prepare { m with axis := m.axis.initAxis.2 }).causeless = true := hcauseless
    rw [hprepare] at hsame
    exact absurd (hbefore.symm.trans hsame) (by decide)
  · next hfails =>
      have hnone : (m.causeless || !m.tmcErrorFlags.any) = true := hcauseless
      rw [hbefore, Bool.false_or, Bool.not_eq_true'] at hnone
      rw [if_neg hfails]
      exact addErrorAxisBit_of_any hnone axis

end Causeless

namespace Modules

def movableState (m : Modules) : Axis → MovableState
  | .pulley => m.pulley.state
  | .selector => m.selector.state
  | .idler => m.idler.state

/-- No axis has ever failed without a cause. -/
def allCaused (m : Modules) : Bool :=
  !m.idler.causeless && !m.selector.causeless && !m.pulley.causeless

/-- Failed axes have a cause on record, up to failures without one; those of `known` are
remembered. -/
structure Attributed (known m : Modules) : Prop where
  idler : Movable.Attributed known.idler.causeless m.idler
  selector : Movable.Attributed known.selector.causeless m.selector
  pulley : Movable.Attributed known.pulley.causeless m.pulley

namespace Attributed

variable {known m m' : Modules}

theorem allCaused (h : known.Attributed m) (hall : m.allCaused = true) :
    known.allCaused = true := by
  have hlasts {known causeless : Bool} (hlast : known = true → causeless = true)
      (hno : causeless = false) : known = false := by
    cases known with
    | false => rfl
    | true => exact absurd (hlast rfl) (by simp [hno])
  simp only [Modules.allCaused, Bool.and_eq_true, Bool.not_eq_true'] at hall ⊢
  exact ⟨⟨hlasts h.idler.lasts hall.1.1, hlasts h.selector.lasts hall.1.2⟩,
    hlasts h.pulley.lasts hall.2⟩

theorem any_of_tmcFailed {ε : Type} {known : Bool} {m : Movable ε} (h : m.Attributed known)
    (hcaused : m.causeless = false) (hfailed : m.state = .tmcFailed) :
    m.tmcErrorFlags.any = true := by
  obtain hcauseless | hother | hany := h.onRecord
  · exact absurd (hcaused.symm.trans hcauseless) (by decide)
  · exact absurd hfailed hother
  · exact hany

theorem attributable (h : known.Attributed m) (hall : m.allCaused = true) {axis : Axis}
    (hfailed : m.movableState axis = .tmcFailed) :
    (m.checkMovable axis).Attributable axis := by
  simp only [Modules.allCaused, Bool.and_eq_true, Bool.not_eq_true'] at hall
  have hcode {ε : Type} {known : Bool} {x : Movable ε} {axis : Axis} (hx : x.Attributed known)
      (hcaused : x.causeless = false) (hfailed : x.state = .tmcFailed) :
      (MmuFirmware.checkMovable x axis).Attributable axis := by
    rw [MmuFirmware.checkMovable, hfailed]
    exact ErrorCode.attributable_of_any (any_of_tmcFailed hx hcaused hfailed) axis
  cases axis with
  | idler => exact hcode h.idler hall.1.1 hfailed
  | selector => exact hcode h.selector hall.1.2 hfailed
  | pulley => exact hcode h.pulley hall.2 hfailed

theorem proper_checkMovable (h : known.Attributed m) (hall : m.allCaused = true) (axis : Axis) :
    (m.checkMovable axis).Proper := by
  by_cases hfailed : m.movableState axis = .tmcFailed
  · exact .inr (.inr (h.attributable hall hfailed).highest)
  · have hcode {ε : Type} {x : Movable ε} {axis : Axis} (hx : x.state ≠ .tmcFailed) :
        (MmuFirmware.checkMovable x axis).Proper := by
      rw [MmuFirmware.checkMovable]
      split
      · contradiction
      · cases axis <;> decide
      · exact ErrorCode.proper_running
    cases axis with
    | idler => exact hcode hfailed
    | selector => exact hcode hfailed
    | pulley => exact hcode hfailed

/-- As much as is known of the modules themselves. -/
theorem self (h : known.Attributed m) : m.Attributed m :=
  ⟨⟨id, h.idler.onRecord⟩, ⟨id, h.selector.onRecord⟩, ⟨id, h.pulley.onRecord⟩⟩

section Kept

variable (h : known.Attributed m)
include h

theorem withIdler {i : Idler} (hidler : Movable.Attributed known.idler.causeless i) :
    known.Attributed { m with idler := i } :=
  ⟨hidler, h.selector, h.pulley⟩

theorem withSelector {s : Selector}
    (hselector : Movable.Attributed known.selector.causeless s) :
    known.Attributed { m with selector := s } :=
  ⟨h.idler, hselector, h.pulley⟩

theorem withPulley {p : Pulley} (hpulley : Movable.Attributed known.pulley.causeless p) :
    known.Attributed { m with pulley := p } :=
  ⟨h.idler, h.selector, hpulley⟩

theorem congr (hidler : m'.idler = m.idler) (hselector : m'.selector = m.selector)
    (hpulley : m'.pulley = m.pulley) : known.Attributed m' :=
  ⟨hidler ▸ h.idler, hselector ▸ h.selector, hpulley ▸ h.pulley⟩

theorem planHome (axis : Axis) : known.Attributed (m.planHome axis) := by
  cases axis with
  | pulley => exact h.withPulley (h.pulley.planHome _ fun _ h => h)
  | selector => exact h.withSelector (Selector.attributed_planHome m.globals h.selector)
  | idler => exact h.withIdler (Idler.attributed_planHome m.globals h.idler)

end Kept

def durable (known : Modules) : Durable where
  P := known.Attributed
  Slot _ := True
  Place _ := True
  Feed _ := True
  Rate _ := True
  active _ := trivial
  tool _ := trivial
  place _ := trivial
  slowFeed _ := trivial
  loadFeed _ := trivial
  unloadFeed _ := trivial
  others h hidler hselector hpulley _ _ _ _ _ := h.congr hidler hselector hpulley
  setAllOff h := h.congr rfl rfl rfl
  setPair h _ _ _ _ := h.congr rfl rfl rfl
  setFilamentLoaded h _ _ _ _ := h.congr rfl rfl rfl
  idlerEngage h _ _ := h.withIdler (Idler.attributed_planMoveInner _ h.idler _ _)
  idlerPartiallyDisengage h _ _ := h.withIdler (Idler.attributed_planMoveInner _ h.idler _ _)
  idlerDisengage h := h.withIdler (Idler.attributed_planMoveInner _ h.idler _ _)
  selectorMoveToSlot h _ _ := h.withSelector (Selector.attributed_moveToSlot _ h.selector _ _)
  pulleyPlanMove h _ _ _ _ := h.withPulley ((h.pulley.withAxis _).setState (by decide))
  pulleyDisable h := h.withPulley ((h.pulley.withAxis _).setState (by decide))
  idlerAxis h _ := h.withIdler (h.idler.withAxis _)
  selectorAxis h _ := h.withSelector (h.selector.withAxis _)
  pulleyAxis h _ := h.withPulley (h.pulley.withAxis _)
  selectorFeedrate h _ _ := h.congr rfl rfl rfl
  idlerInvalidateHoming h := h.withIdler h.idler.invalidateHoming
  selectorInvalidateHoming h := h.withSelector h.selector.invalidateHoming
  holdIdlerSelector h := (h.withIdler h.idler.holdOn).withSelector h.selector.holdOn
  resumeIdlerSelector h := (h.withIdler h.idler.resume).withSelector h.selector.resume
  planHome h axis := h.planHome axis

end Attributed
end Modules

namespace Running

variable {id : CommandId} {r : Running id.Data} {known : Modules}

/-- The codes of a command, and the one it remembers of the time before a module failed. -/
structure Coded (r : Running id.Data) : Prop where
  command : id.Coded r.command
  remembered : r.recovery.errorBeforeModuleFailed.Proper

namespace Coded

variable (h : r.Coded)
include h

theorem withError {error : ErrorCode} (herror : error.Proper) (state : ProgressCode)
    (modules : Modules) :
    Coded { r with command := { r.command with error, state }, modules } :=
  ⟨h.command.congr ⟨herror, h.command.own.deferred⟩ rfl, h.remembered⟩

theorem enterModuleFailure {ec : ErrorCode} (hec : ec.Proper) :
    (r.enterModuleFailure ec).Coded := by
  rw [Running.enterModuleFailure]
  split
  · exact ⟨h.command.congr ⟨hec, h.command.own.deferred⟩ rfl, h.command.own.error⟩
  · exact h

theorem failAgain {ec : ErrorCode} (hec : ec.Proper) : (r.failAgain ec).Coded := by
  rw [Running.failAgain]
  split
  · exact h.withError hec _ _
  · exact h

theorem awaitHomingRequest (ec : ErrorCode) (axis : Axis) :
    (r.awaitHomingRequest ec axis).Coded := by
  rw [Running.awaitHomingRequest]
  split
  · dsimp only
    split
    · exact ⟨h.command.congr ⟨ErrorCode.proper_running, h.command.own.deferred⟩ rfl, h.remembered⟩
    · exact ⟨h.command, h.remembered⟩
  · exact h

theorem recovered (axis : Axis) : (r.recovered axis).Coded :=
  ⟨h.command.congr ⟨h.remembered, h.command.own.deferred⟩ rfl, h.remembered⟩

theorem waitForOne {ec : ErrorCode} (hec : ec.Proper) (axis : Axis) :
    (r.waitForOneModuleErrorRecovery ec axis).2.Coded := by
  rw [waitForOneModuleErrorRecovery]
  split
  · exact ((h.enterModuleFailure hec).failAgain hec).awaitHomingRequest ec axis
  · split
    · split
      · split
        · exact h.recovered axis
        · exact h
      · exact h
    · exact h

end Coded

theorem allCaused_of_waitForOne (hm : known.Attributed r.modules) {ec : ErrorCode} {axis : Axis}
    (hall : (r.waitForOneModuleErrorRecovery ec axis).2.modules.allCaused = true) :
    r.modules.allCaused = true :=
  (r.holds_waitForOne (D := Modules.Attributed.durable r.modules) hm.self ec axis).allCaused hall

/-- Where no module turns out to have failed without a cause, the codes of those that have are
proper. -/
theorem Coded.waitForModules (h : r.Coded) (hm : known.Attributed r.modules)
    (hall : r.waitForModulesErrorRecovery.2.modules.allCaused = true) :
    r.waitForModulesErrorRecovery.2.Coded := by
  have hwait {r : Running id.Data} (hm : known.Attributed r.modules) (ec : ErrorCode)
      (axis : Axis) : known.Attributed (r.waitForOneModuleErrorRecovery ec axis).2.modules :=
    r.holds_waitForOne (D := Modules.Attributed.durable known) hm ec axis
  rw [waitForModulesErrorRecovery] at hall ⊢
  dsimp only at hall ⊢
  have hmIdler := hwait hm (r.modules.checkMovable .idler) .idler
  have hcoded (hall : r.modules.allCaused = true) :=
    h.waitForOne (hm.proper_checkMovable hall .idler) .idler
  have hlast (hall : (r.waitForOneModuleErrorRecovery (r.modules.checkMovable .idler)
      .idler).2.modules.allCaused = true) := allCaused_of_waitForOne hm hall
  generalize (r.waitForOneModuleErrorRecovery (r.modules.checkMovable .idler) .idler).2 = r₁
    at hall hmIdler hcoded hlast ⊢
  have hmSelector := hwait hmIdler (r₁.modules.checkMovable .selector) .selector
  have hallSelector := allCaused_of_waitForOne hmSelector hall
  have hallIdler := allCaused_of_waitForOne hmIdler hallSelector
  have hcodedSelector := (hcoded (hlast hallIdler)).waitForOne
    (hmIdler.proper_checkMovable hallIdler .selector) .selector
  exact hcodedSelector.waitForOne (hmSelector.proper_checkMovable hallSelector .pulley) .pulley

theorem stepsWithin_attributed (id : CommandId) (c : id.Object) (m : Modules) :
    id.StepsWithin (Modules.Attributed.durable known) c m := by
  cases id <;> simp [CommandId.StepsWithin, Modules.Attributed.durable]

theorem attributed_step (hm : known.Attributed r.modules) :
    known.Attributed (r.step id.stepInner).2.modules :=
  holds_step (D := Modules.Attributed.durable known) hm fun _ _ => stepsWithin_attributed id _ _

theorem Coded.step (h : r.Coded) (hm : known.Attributed r.modules)
    (hall : (r.step id.stepInner).2.modules.allCaused = true) :
    (r.step id.stepInner).2.Coded := by
  have hwaited : known.Attributed r.waitForModulesErrorRecovery.2.modules :=
    r.holds_waitForModules (D := Modules.Attributed.durable known) hm
  have hcoded := h.waitForModules hm
  rw [Running.step] at hall ⊢
  generalize r.waitForModulesErrorRecovery = w at hwaited hcoded hall ⊢
  dsimp only at hall ⊢
  split at hall
  · next hwaits =>
      rw [if_pos hwaits]
      exact hcoded hall
  · next hgoes =>
      rw [if_neg hgoes]
      have hstepped := id.holds_stepInner (D := Modules.Attributed.durable w.2.modules)
        hwaited.self (stepsWithin_attributed id w.2.command w.2.modules)
      have hcoded := hcoded (hstepped.allCaused hall)
      exact ⟨hcoded.command.stepInner, hcoded.remembered⟩

end Running

end MmuFirmware
