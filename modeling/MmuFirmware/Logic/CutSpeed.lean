import MmuFirmware.Logic.ActiveSlot
import MmuFirmware.Logic.Recovery

/-!
The speed of the selector while a filament is cut. Only the cut changes a speed: it slows the
selector down before the blade moves, and sets it back when the blade has arrived.
-/
namespace MmuFirmware

/-- The speeds while the blade moves. -/
def Feedrates.slowed (speeds : Feedrates) : Feedrates :=
  { speeds with selector := speeds.selectorHoming }

theorem Feedrates.slowed_eq {speeds : Feedrates}
    (h : speeds.selectorHoming = speeds.selector) : speeds.slowed = speeds := by
  cases speeds
  cases h
  rfl

namespace Modules

def feedrates (m : Modules) : Feedrates := m.globals.feedrates

/-- Whatever else the logic does, it leaves the speeds alone. -/
def atSpeed (speeds : Feedrates) : Durable where
  P m := m.feedrates = speeds
  Slot _ := True
  Place _ := True
  Feed _ := True
  Rate rate := rate = speeds.selector
  active _ := trivial
  tool _ := trivial
  place _ := trivial
  slowFeed _ := trivial
  loadFeed _ := trivial
  unloadFeed _ := trivial
  others h _ _ _ _ _ _ _ hspeeds := hspeeds.trans h
  setAllOff h := h
  setPair h _ _ _ _ := h
  setFilamentLoaded h _ _ _ _ := h
  idlerEngage h _ _ := h
  idlerPartiallyDisengage h _ _ := h
  idlerDisengage h := h
  selectorMoveToSlot h _ _ := h
  pulleyPlanMove h _ _ _ _ := h
  pulleyDisable h := h
  idlerAxis h _ := h
  selectorAxis h _ := h
  pulleyAxis h _ := h
  selectorFeedrate {m} h rate hrate := by
    rw [hrate, ← h]
    rfl
  idlerInvalidateHoming h := h
  selectorInvalidateHoming h := h
  holdIdlerSelector h := h
  resumeIdlerSelector h := h
  planHome h axis := by cases axis <;> exact h

end Modules

namespace CommandId

theorem feedrates_reset (id : CommandId) (c : id.Object) (param : UInt8) (m : Modules) :
    (id.reset c param m).2.2.feedrates = m.feedrates := by
  refine id.holds_reset (D := Modules.atSpeed m.feedrates) rfl c ?_
  cases id <;> trivial

theorem feedrates_stepInner {id : CommandId} (hid : id ≠ .cutFilament) (c : id.Object)
    (m : Modules) : (id.stepInner c m).2.2.feedrates = m.feedrates := by
  refine id.holds_stepInner (D := Modules.atSpeed m.feedrates) rfl ?_
  cases id with
  | cutFilament => exact absurd rfl hid
  | moveSelector => exact fun _ _ => trivial
  | toolChange => exact fun _ => trivial
  | startUp | noCommand | ejectFilament | home | loadFilament | setMode | unloadFilament => trivial

end CommandId

namespace CutFilament

/-- In a state of the command the speeds are the given ones, but that the selector is slowed down
while the blade moves; the speed to go back to is saved. A panic may have stopped the blade. -/
structure AtSpeed (speeds : Feedrates) (state : ProgressCode) (saved : UInt16)
    (current : Feedrates) : Prop where
  usual : state ≠ .performingCut → state ≠ .errInternal → current = speeds
  cutting : state = .performingCut → saved = speeds.selector ∧ current = speeds.slowed
  stopped : state = .errInternal → current = speeds ∨ current = speeds.slowed

/-- The selector is told to cut and does not move. -/
def refusesCut (c : CutFilament) (m : Modules) : Bool :=
  c.state == .disengagingIdler && m.idler.disengaged && m.selectorRefuses c.data.cutSlot

variable {speeds current : Feedrates} {state : ProgressCode} {saved : UInt16} {c : CutFilament}
  {m : Modules}

theorem atSpeed_of_ne (hcutting : state ≠ .performingCut) (hspeeds : current = speeds) :
    AtSpeed speeds state saved current :=
  ⟨fun _ _ => hspeeds, fun h => absurd h hcutting, fun _ => .inl hspeeds⟩

theorem atSpeed_cutting (hsaved : saved = speeds.selector) (hslowed : current = speeds.slowed) :
    AtSpeed speeds .performingCut saved current :=
  ⟨fun h => absurd rfl h, fun _ => ⟨hsaved, hslowed⟩, fun h => absurd h (by decide)⟩

theorem atSpeed_stopped (hspeeds : current = speeds ∨ current = speeds.slowed) :
    AtSpeed speeds .errInternal saved current :=
  ⟨fun _ h => absurd rfl h, fun h => absurd h (by decide), fun _ => hspeeds⟩

theorem AtSpeed.either (h : AtSpeed speeds state saved current) :
    current = speeds ∨ current = speeds.slowed := by
  by_cases hcutting : state = .performingCut
  · exact .inr (h.cutting hcutting).2
  · by_cases hstopped : state = .errInternal
    · exact h.stopped hstopped
    · exact .inl (h.usual hcutting hstopped)

/-- The blade moves in one state only, and is sent from one. -/
theorem cutting_stepInner (h : (stepInner c m).2.1.state = .performingCut) :
    c.state = .performingCut ∨ c.state = .disengagingIdler := by
  rw [stepInner] at h
  grind [moveSelector, selectFilamentSlot, reset, Command.goToErrDisengagingIdler,
    Command.errDisengagingIdler, Command.finishedOK, Command.checkToolIndex,
    Command.unhandledState]

theorem reset_ne_cutting (hcutting : c.state ≠ .performingCut) (param : UInt8) :
    (reset c param m).2.1.state ≠ .performingCut := by
  rw [reset]
  grind [moveSelector, selectFilamentSlot, Command.goToErrDisengagingIdler,
    Command.checkToolIndex]

theorem reset_ne_cutting_of_accepted {param : UInt8} (haccepted : (reset c param m).1 = true) :
    (reset c param m).2.1.state ≠ .performingCut := by
  rw [reset] at haccepted ⊢
  grind [moveSelector, selectFilamentSlot, Command.goToErrDisengagingIdler,
    Command.checkToolIndex]

/-- Whether the selector moves does not depend on its motor or on its speed. -/
theorem selectorRefuses_slowed (m : Modules) (slot : UInt8) (axis : AxisData) (rate : UInt16) :
    Modules.selectorRefuses
        { m with
          globals := { m.globals with selectorFeedrate := rate }
          selector := { m.selector with axis } } slot =
      m.selectorRefuses slot := by
  simp only [Modules.selectorRefuses, Modules.selectorMoveToSlot, Selector.moveToSlot,
    Movable.isIn]
  grind [Movable.initMovementNoReinitAxis]

theorem moveSelector_feedrates (slot : UInt8) :
    (moveSelector c slot m).2.feedrates = m.feedrates := by
  exact holds_moveSelector (D := Modules.atSpeed m.feedrates) rfl c trivial

theorem moveSelector_state (slot : UInt8) :
    (moveSelector c slot m).1 = c ∨
      m.selectorRefuses slot = true ∧ (moveSelector c slot m).1.state = .errDisengagingIdler := by
  rw [moveSelector]
  dsimp only
  split
  · next hrefused => exact .inr ⟨bne_iff_ne.mpr hrefused, rfl⟩
  · exact .inl rfl

/-- The step in which the selector is slowed down and told to cut. -/
theorem AtSpeed.startCut (hspeeds : m.feedrates = speeds) (hstate : c.state = .disengagingIdler)
    (hmoves : speeds.selectorHoming = speeds.selector ∨ refusesCut c m = false) :
    AtSpeed speeds (stepInner c m).2.1.state (stepInner c m).2.1.data.savedSelectorFeedRate
      (stepInner c m).2.2.feedrates := by
  rw [stepInner, hstate]
  dsimp only
  split
  · next hdisengaged =>
      have hslowed : Modules.feedrates
          { m with
            globals := { m.globals with selectorFeedrate := m.globals.selectorHomingFeedrate }
            selector := { m.selector with axis := m.selector.axis.initAxis.2 } } =
          speeds.slowed := by
        rw [← hspeeds]
        rfl
      have hsaved : m.globals.selectorFeedrate = speeds.selector := by
        rw [← hspeeds]
        rfl
      dsimp only
      rw [moveSelector_feedrates]
      rcases moveSelector_state _ with heq | ⟨hrefuses, herror⟩
      · rw [heq]
        exact atSpeed_cutting hsaved hslowed
      · rw [herror]
        rw [selectorRefuses_slowed] at hrefuses
        have hsame : speeds.selectorHoming = speeds.selector := by
          refine hmoves.resolve_right fun hrefused => ?_
          rw [refusesCut, hstate, hdisengaged, hrefuses] at hrefused
          cases hrefused
        exact atSpeed_of_ne (by decide) (hslowed.trans (Feedrates.slowed_eq hsame))
  · rw [hstate]
    exact atSpeed_of_ne (by decide) hspeeds

theorem AtSpeed.stepInner (h : AtSpeed speeds c.state c.data.savedSelectorFeedRate m.feedrates)
    (hinternal : c.state ≠ .errInternal)
    (hmoves : speeds.selectorHoming = speeds.selector ∨ refusesCut c m = false) :
    AtSpeed speeds (CutFilament.stepInner c m).2.1.state
      (CutFilament.stepInner c m).2.1.data.savedSelectorFeedRate
      (CutFilament.stepInner c m).2.2.feedrates := by
  by_cases hcutting : c.state = .performingCut
  · obtain ⟨hsaved, hslowed⟩ := h.cutting hcutting
    rw [CutFilament.stepInner, hcutting]
    dsimp only
    split
    · refine atSpeed_of_ne (by decide : ProgressCode.homing ≠ .performingCut) ?_
      show { m.feedrates with selector := c.data.savedSelectorFeedRate } = speeds
      rw [hslowed, hsaved]
      rfl
    · rw [hcutting]
      exact atSpeed_cutting hsaved hslowed
  · have hspeeds := h.usual hcutting hinternal
    by_cases hcut : c.state = .disengagingIdler
    · exact .startCut hspeeds hcut hmoves
    · refine atSpeed_of_ne (fun hstate => ?_) ?_
      · exact (cutting_stepInner hstate).elim hcutting hcut
      · exact holds_stepInner (D := Modules.atSpeed speeds) hspeeds trivial trivial
          (fun h => absurd h hcut) fun h => absurd h hcutting

end CutFilament

namespace Running

section Waiting

variable {δ : Type} {r r' r'' : Running δ}

theorem feedrates_waitForModules (r : Running δ) :
    r.waitForModulesErrorRecovery.2.modules.feedrates = r.modules.feedrates :=
  r.holds_waitForModules (D := Modules.atSpeed r.modules.feedrates) rfl

/-- No failure has been noticed, so that nothing begins to wait for the user but what has done so
before. -/
structure GoesQuietly (r r' : Running δ) : Prop where
  modules : r'.modules = r.modules
  forgets : ¬ r.recovery.remembers → ¬ r'.recovery.remembers
  waiting : r'.command.state = .errWaitingForUser →
    r.command.state = .errWaitingForUser ∨ ¬ r'.recovery.remembers

theorem GoesQuietly.trans (h : r.GoesQuietly r') (h' : r'.GoesQuietly r'') :
    r.GoesQuietly r'' := by
  refine ⟨h'.modules.trans h.modules, fun hrem => h'.forgets (h.forgets hrem), fun hwaits => ?_⟩
  rcases h'.waiting hwaits with hwaits | hrem
  · exact (h.waiting hwaits).imp_right h'.forgets
  · exact .inr hrem

theorem goesQuietly_waitForOne (axis : Axis) (hworks : ¬ r.modules.failed axis) :
    r.GoesQuietly (r.waitForOneModuleErrorRecovery (r.modules.checkMovable axis) axis).2 := by
  have hsame : r.GoesQuietly r := ⟨rfl, id, .inl⟩
  rw [waitForOneModuleErrorRecovery,
    if_neg (not_not_intro (Modules.checkMovable_eq_running.mpr hworks))]
  split
  · split
    · split
      · exact ⟨rfl, fun _ => not_remembers_recovered axis,
          fun _ => .inr (not_remembers_recovered axis)⟩
      · exact hsame
    · exact hsame
  · exact hsame

theorem goesQuietly_waitForModules (hworks : ∀ axis, ¬ r.modules.failed axis) :
    r.GoesQuietly r.waitForModulesErrorRecovery.2 := by
  have hidler := goesQuietly_waitForOne .idler (hworks .idler)
  rw [waitForModulesErrorRecovery]
  generalize r.waitForOneModuleErrorRecovery (r.modules.checkMovable .idler) .idler = r₁
    at hidler ⊢
  have hselector := goesQuietly_waitForOne (r := r₁.2) .selector
    (hidler.modules ▸ hworks .selector)
  dsimp only
  generalize r₁.2.waitForOneModuleErrorRecovery (r₁.2.modules.checkMovable .selector) .selector = r₂
    at hselector ⊢
  have hpulley := goesQuietly_waitForOne (r := r₂.2) .pulley
    (hselector.modules ▸ hidler.modules ▸ hworks .pulley)
  exact (hidler.trans hselector).trans hpulley

end Waiting

theorem feedrates_step {id : CommandId} (hid : id ≠ .cutFilament) (r : Running id.Data) :
    (r.step id.stepInner).2.modules.feedrates = r.modules.feedrates := by
  rw [step]
  dsimp only
  split
  · exact r.feedrates_waitForModules
  · exact (CommandId.feedrates_stepInner hid _ _).trans r.feedrates_waitForModules

end Running

namespace CutFilament

variable {speeds : Feedrates} {r r' : Running CutFilamentData}

/-- The command works at the given speeds, and waits for the user only at the usual one. -/
structure KeepsSpeed (speeds : Feedrates) (r : Running CutFilamentData) : Prop where
  atSpeed : AtSpeed speeds r.resumed r.command.data.savedSelectorFeedRate r.modules.feedrates
  waiting : r.command.state = .errWaitingForUser → r.modules.feedrates = speeds

/-- A module has failed while the selector moves as slowly as when it homes. -/
def failsSlowed (r : Running CutFilamentData) : Bool :=
  (r.modules.failed .idler ∨ r.modules.failed .selector ∨ r.modules.failed .pulley) &&
    r.modules.globals.selectorFeedrate == r.modules.globals.selectorHomingFeedrate

/-- The step leaves the selector slowed down: the cut is refused, or has failed. -/
def leavesSlowed (r : Running CutFilamentData) : Bool :=
  let (waiting, r') := r.waitForModulesErrorRecovery
  failsSlowed r || !waiting && refusesCut r'.command r'.modules

theorem AtSpeed.carries (h : AtSpeed speeds r.resumed r.command.data.savedSelectorFeedRate
      r.modules.feedrates) (hcarries : r.Carries r')
    (hspeeds : r'.modules.feedrates = r.modules.feedrates) :
    AtSpeed speeds r'.resumed r'.command.data.savedSelectorFeedRate r'.modules.feedrates := by
  rw [hcarries.data, hspeeds]
  rcases hcarries.resumed with heq | ⟨hadrift, hadrift'⟩
  · rw [heq]
    exact h
  · have hne : ∀ {s : ProgressCode}, Running.Adrift s → s ≠ .performingCut ∧ s ≠ .errInternal := by
      intro s hs
      rcases hs with rfl | rfl | rfl <;> decide
    exact atSpeed_of_ne (hne hadrift').1 (h.usual (hne hadrift).1 (hne hadrift).2)

theorem KeepsSpeed.waitForModules (h : KeepsSpeed speeds r)
    (hslowed : speeds.selectorHoming = speeds.selector ∨ failsSlowed r = false) :
    KeepsSpeed speeds r.waitForModulesErrorRecovery.2 := by
  have hspeeds := r.feedrates_waitForModules
  have hcarried := h.atSpeed.carries Running.carries_waitForModules hspeeds
  refine ⟨hcarried, fun hwaits => ?_⟩
  by_cases hworks : ∀ axis, ¬ r.modules.failed axis
  · have hquiet := Running.goesQuietly_waitForModules hworks
    rcases hquiet.waiting hwaits with hwaited | hrem
    · exact hspeeds.trans (h.waiting hwaited)
    · have hresumed := (Running.resumed_of_not_remembers hrem).trans hwaits
      rw [hresumed] at hcarried
      exact hcarried.usual (by decide) (by decide)
  · rw [hspeeds]
    rcases h.atSpeed.either with husual | hslow
    · exact husual
    · have hhoming : speeds.selectorHoming = speeds.selector := by
        refine hslowed.resolve_right fun hfails => hworks fun axis hfailed => ?_
        have hrate : r.modules.globals.selectorFeedrate =
            r.modules.globals.selectorHomingFeedrate := by
          show r.modules.feedrates.selector = r.modules.feedrates.selectorHoming
          rw [hslow]
          rfl
        simp only [failsSlowed, hrate, BEq.rfl, Bool.and_true, decide_eq_false_iff_not,
          not_or] at hfails
        cases axis with
        | idler => exact hfails.1 hfailed
        | selector => exact hfails.2.1 hfailed
        | pulley => exact hfails.2.2 hfailed
      exact hslow.trans (Feedrates.slowed_eq hhoming)

theorem KeepsSpeed.step (h : KeepsSpeed speeds r) (hblocked : r.Blocked)
    (hslowed : speeds.selectorHoming = speeds.selector ∨ leavesSlowed r = false) :
    KeepsSpeed speeds (r.step CutFilament.stepInner).2 := by
  have hwaited := h.waitForModules (hslowed.imp_right fun hfails => by
    simp only [leavesSlowed, Bool.or_eq_false_iff] at hfails
    exact hfails.1)
  obtain ⟨-, hquiet⟩ := hblocked.waitForModules
  rw [leavesSlowed] at hslowed
  rw [Running.step]
  generalize r.waitForModulesErrorRecovery = w at hwaited hquiet hslowed ⊢
  dsimp only at hslowed ⊢
  split
  · exact hwaited
  · next hgo =>
      rw [not_or, Bool.not_eq_true] at hgo
      have hrem := (hquiet hgo.1).resolve_right hgo.2
      have hatSpeed := hwaited.atSpeed
      rw [Running.resumed_of_not_remembers hrem] at hatSpeed
      have hstepped := hatSpeed.stepInner hgo.2 (hslowed.imp_right fun hrefuses => by
        simp only [hgo.1, Bool.or_eq_false_iff] at hrefuses
        simpa using hrefuses.2)
      refine ⟨?_, fun hwaits => ?_⟩
      · show AtSpeed speeds (Recovery.resumed w.2.recovery _) _ _
        rw [Recovery.resumed_of_not_remembers hrem]
        exact hstepped
      · exact hstepped.usual (by rw [hwaits]; decide) (by rw [hwaits]; decide)

end CutFilament

end MmuFirmware
