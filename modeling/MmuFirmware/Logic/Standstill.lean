import MmuFirmware.Logic.ActiveSlot
import MmuFirmware.Logic.Recovery
import Mathlib.Tactic.ByContra

/-!
The idler and the selector while the user is waited for. A command puts both on hold before it
waits, and the base class does before it waits for a failed module. Neither moves until the user
has decided what to do, unless a retry resumes them and then waits again.
-/
namespace MmuFirmware

namespace Modules

/-- The idler and the selector are on hold. -/
structure Held (m : Modules) : Prop where
  idler : m.idler.onHold = true
  selector : m.selector.onHold = true

instance (m : Modules) : Decidable m.Held :=
  decidable_of_iff (m.idler.onHold = true ∧ m.selector.onHold = true)
    ⟨fun h => ⟨h.1, h.2⟩, fun h => ⟨h.idler, h.selector⟩⟩

/-- Neither of them has failed. -/
structure Sound (m : Modules) : Prop where
  idler : ¬ m.idler.failed
  selector : ¬ m.selector.failed

instance (m : Modules) : Decidable m.Sound :=
  decidable_of_iff (¬ m.idler.failed ∧ ¬ m.selector.failed)
    ⟨fun h => ⟨h.1, h.2⟩, fun h => ⟨h.idler, h.selector⟩⟩

variable {m m' : Modules}

theorem held_holdIdlerSelector (m : Modules) : m.holdIdlerSelector.Held := ⟨rfl, rfl⟩

theorem Sound.congr (h : m.Sound) (hidler : m'.idler.state = m.idler.state)
    (hselector : m'.selector.state = m.selector.state) : m'.Sound := by
  refine ⟨?_, ?_⟩
  · rw [Movable.failed, hidler]
    exact h.idler
  · rw [Movable.failed, hselector]
    exact h.selector

theorem sound_of_works (h : ∀ axis, ¬ m.failed axis) : m.Sound := ⟨h .idler, h .selector⟩

theorem Sound.failed_eq_pulley (h : m.Sound) {axis : Axis} (hfailed : m.failed axis) :
    axis = .pulley := by
  cases axis with
  | pulley => rfl
  | selector => exact absurd hfailed h.selector
  | idler => exact absurd hfailed h.idler

/-- Put on hold, or left so, where they are. -/
structure HeldAs (m m' : Modules) : Prop where
  held : m'.Held
  idler : m'.idler.state = m.idler.state
  selector : m'.selector.state = m.selector.state

theorem HeldAs.standsStill (h : m.HeldAs m') (hsound : m.Sound) : m'.Held ∧ m'.Sound :=
  ⟨h.held, hsound.congr h.idler h.selector⟩

/-- The pulley is never homed, so its homing does not fail. -/
def pulleySound : Durable where
  P m := m.pulley.state ≠ .homingFailed
  Slot _ := True
  Place _ := True
  Feed _ := True
  Rate _ := True
  active _ := trivial
  tool _ := trivial
  place _ := trivial
  slowFeed _ := trivial
  loadFeed _ := trivial
  unloadFeed _ := trivial
  others h _ _ hpulley _ _ _ _ _ := hpulley.symm ▸ h
  setAllOff h := h
  setPair h _ _ _ _ := h
  setFilamentLoaded h _ _ _ _ := h
  idlerEngage h _ _ := h
  idlerPartiallyDisengage h _ _ := h
  idlerDisengage h := h
  selectorMoveToSlot h _ _ := h
  pulleyPlanMove _ _ _ _ _ := (by decide : MovableState.moving ≠ .homingFailed)
  pulleyDisable _ := (by decide : MovableState.ready ≠ .homingFailed)
  idlerAxis h _ := h
  selectorAxis h _ := h
  pulleyAxis h _ := h
  selectorFeedrate h _ _ := h
  idlerInvalidateHoming h := h
  selectorInvalidateHoming h := h
  holdIdlerSelector h := h
  resumeIdlerSelector h := h
  planHome {m} h axis := by
    cases axis with
    | pulley =>
        show (Movable.planHome m.pulley (m.globals.stallGuardThreshold .pulley) id).2.state ≠ _
        rw [Movable.planHome]
        dsimp only
        split
        · exact h
        · exact (by decide : MovableState.homeForward ≠ .homingFailed)
    | selector | idler => exact h

end Modules

theorem Pulley.step_ne_homingFailed {p : Pulley} (h : p.state ≠ .homingFailed) :
    p.step.state ≠ .homingFailed := by
  rw [step]
  split
  · exact h
  · dsimp only
    have hchecked : (if p.state = .tmcFailed then p else p.checkTMC).state ≠ .homingFailed := by
      split
      · exact h
      · rw [Movable.checkTMC]
        dsimp only
        split
        · exact (by decide : MovableState.tmcFailed ≠ .homingFailed)
        · exact h
    generalize (if p.state = .tmcFailed then p else p.checkTMC) = p' at hchecked ⊢
    split
    · rw [Movable.performMove]
      split
      · exact (by decide : MovableState.ready ≠ .homingFailed)
      · exact hchecked
    · exact hchecked

namespace Running

variable {δ : Type} {r : Running δ} {nested : Prop} {axis : Axis} {ec : ErrorCode}

/-- The command waits for the user by itself or in its nested unload. -/
def AwaitsUser (nested : Prop) (r : Running δ) : Prop := r.resumed = .errWaitingForUser ∨ nested

/-- What the base class keeps up while a command waits for the user, by itself or in its nested
unload. Then only the pulley can be a failure that is remembered, and it does not recover. -/
structure Stands (nested : Prop) (r : Running δ) : Prop where
  pulley : r.modules.pulley.state ≠ .homingFailed
  unloads : nested → r.resumed = .unloadingFilament ∨ r.resumed = .errInternal
  waits : r.AwaitsUser nested → r.modules.Held ∧ r.modules.Sound
  stuck : r.AwaitsUser nested → r.recovery.remembers →
    r.modules.failed .pulley ∧ r.command.state ≠ .homing
  failing : r.recovery.remembers → r.command.state = .errWaitingForUser → r.modules.Held

/-- A failure has been noticed: it is remembered, or the command has lost its state and waits. -/
def Noticed (r : Running δ) : Prop :=
  r.recovery.remembers ∨ r.command.state = .errWaitingForUser

theorem Noticed.resumed_ne_empty (h : r.Noticed) : r.resumed ≠ .empty := by
  intro hempty
  by_cases hrem : r.recovery.remembers
  · exact hrem ((resumed_of_remembers hrem).symm.trans hempty)
  · rw [resumed_of_not_remembers hrem, h.resolve_left hrem] at hempty
    exact absurd hempty (by decide)

theorem not_remembers_of_resumed_eq_empty (h : r.resumed = .empty) : ¬ r.recovery.remembers :=
  fun hrem => hrem ((resumed_of_remembers hrem).symm.trans h)

/-- What is kept up depends on the state the command goes on in, on what it was found to wait for
and on the modules. -/
theorem Stands.congr {r' : Running δ} (h : r.Stands nested) (hresumed : r'.resumed = r.resumed)
    (hpulley : r'.modules.pulley.state ≠ .homingFailed)
    (hholds : r.AwaitsUser nested → r'.modules.Held ∧ r'.modules.Sound)
    (hstuck : r.AwaitsUser nested → r'.recovery.remembers →
      r'.modules.failed .pulley ∧ r'.command.state ≠ .homing)
    (hfailing : r'.recovery.remembers → r'.command.state = .errWaitingForUser → r'.modules.Held) :
    r'.Stands nested := by
  have hwaits : r'.AwaitsUser nested → r.AwaitsUser nested :=
    Or.imp_left fun hw => hresumed.symm.trans hw
  refine ⟨hpulley, fun hn => ?_, fun hw => hholds (hwaits hw), fun hw => hstuck (hwaits hw),
    hfailing⟩
  rw [hresumed]
  exact h.unloads hn

/-- A command that has lost its state may only find the pulley failed. -/
theorem Stands.enterModuleFailure (h : r.Stands nested) (ec : ErrorCode)
    (hfailed : r.modules.failed axis) (hlost : r.resumed = .empty → r.modules.Sound) :
    (r.enterModuleFailure ec).Stands nested ∧ (r.enterModuleFailure ec).Noticed ∧
      (r.resumed ≠ .empty → (r.enterModuleFailure ec).recovery.remembers) := by
  rw [Running.enterModuleFailure]
  split
  · next hforgot =>
      have hresumed : r.resumed = r.command.state :=
        resumed_of_not_remembers (not_not_intro hforgot)
      have hheld := r.modules.held_holdIdlerSelector
      by_cases hempty : r.command.state = .empty
      · have hnested : ¬ nested := by
          intro hnested
          rcases h.unloads hnested with hstate | hstate <;>
            exact absurd ((hresumed.trans hempty).symm.trans hstate) (by decide)
        have hsound := hlost (hresumed.trans hempty)
        refine ⟨⟨h.pulley, fun hn => absurd hn hnested, fun _ => ⟨hheld, hsound.congr rfl rfl⟩,
          fun _ hrem => absurd hempty hrem, fun _ _ => hheld⟩, .inr rfl, fun hne => ?_⟩
        exact absurd (hresumed.trans hempty) hne
      · refine ⟨h.congr ?_ h.pulley ?_ ?_ (fun _ _ => hheld), .inl hempty, fun _ => hempty⟩
        · exact (if_neg hempty).trans hresumed.symm
        · exact fun hwaits => ⟨hheld, (h.waits hwaits).2.congr rfl rfl⟩
        · intro hwaits _
          have hpulley := (h.waits hwaits).2.failed_eq_pulley hfailed
          subst hpulley
          exact ⟨hfailed, (by decide : ProgressCode.errWaitingForUser ≠ .homing)⟩
  · next hrem => exact ⟨h, .inl hrem, fun _ => hrem⟩

theorem Stands.failAgain (h : r.Stands nested) (ec : ErrorCode) (hnoticed : r.Noticed) :
    (r.failAgain ec).Stands nested ∧ (r.failAgain ec).Noticed ∧
      (r.recovery.remembers → (r.failAgain ec).recovery.remembers) := by
  rw [Running.failAgain]
  split
  · have hheld := r.modules.held_holdIdlerSelector
    refine ⟨h.congr ?_ h.pulley ?_ ?_ (fun _ _ => hheld), .inr rfl, id⟩
    · by_cases hrem : r.recovery.remembers
      · exact (Recovery.resumed_of_remembers hrem).trans (resumed_of_remembers hrem).symm
      · refine (Recovery.resumed_of_not_remembers hrem).trans ?_
        exact (hnoticed.resolve_left hrem).symm.trans (resumed_of_not_remembers hrem).symm
    · exact fun hwaits => ⟨hheld, (h.waits hwaits).2.congr rfl rfl⟩
    · exact fun hwaits hrem =>
        ⟨(h.stuck hwaits hrem).1, (by decide : ProgressCode.errWaitingForUser ≠ .homing)⟩
  · exact ⟨h, hnoticed, id⟩

/-- Only a failed homing is tried again, and then the command was not waiting by itself. -/
theorem Stands.awaitHomingRequest (h : r.Stands nested) (hnoticed : r.Noticed)
    (hfailed : r.modules.failed axis)
    (hcode : withoutAxisBits ec = .homingFailed → axis ≠ .pulley) :
    (r.awaitHomingRequest ec axis).Stands nested ∧ (r.awaitHomingRequest ec axis).Noticed ∧
      (r.recovery.remembers → (r.awaitHomingRequest ec axis).recovery.remembers) := by
  rw [Running.awaitHomingRequest]
  split
  · next hasked =>
      dsimp only
      split
      · have hidle : ¬ r.AwaitsUser nested := fun hwaits =>
          hcode hasked.2 ((h.waits hwaits).2.failed_eq_pulley hfailed)
        have hrem : r.recovery.remembers := by
          by_contra hrem
          exact hidle (.inl ((resumed_of_not_remembers hrem).trans hasked.1))
        refine ⟨h.congr ?_ ?_ (fun hwaits => absurd hwaits hidle)
          (fun hwaits => absurd hwaits hidle) fun _ hstate => ?_, .inl hrem, fun _ => hrem⟩
        · exact (Recovery.resumed_of_remembers hrem).trans (resumed_of_remembers hrem).symm
        · exact Modules.pulleySound.planHome
            (m := r.modules.consumeEvent.2.resumeIdlerSelector) h.pulley axis
        · exact absurd hstate (by decide : ProgressCode.homing ≠ .errWaitingForUser)
      · refine ⟨h.congr rfl h.pulley (fun hwaits => ?_) h.stuck fun hrem hstate => ?_, hnoticed, id⟩
        · obtain ⟨hheld, hsound⟩ := h.waits hwaits
          exact ⟨⟨hheld.idler, hheld.selector⟩, hsound.congr rfl rfl⟩
        · obtain ⟨hidler, hselector⟩ := h.failing hrem hstate
          exact ⟨hidler, hselector⟩
  · exact ⟨h, hnoticed, id⟩

/-- A command that homes a module does not wait. -/
theorem Stands.not_waits_of_homing (h : r.Stands nested) (hstate : r.command.state = .homing) :
    ¬ r.AwaitsUser nested := by
  intro hwaits
  by_cases hrem : r.recovery.remembers
  · exact (h.stuck hwaits hrem).2 hstate
  · have hresumed : r.resumed = .homing := (resumed_of_not_remembers hrem).trans hstate
    rcases hwaits with hwaits | hn
    · exact absurd (hresumed.symm.trans hwaits) (by decide)
    · rcases h.unloads hn with hunloads | hstopped
      · exact absurd (hresumed.symm.trans hunloads) (by decide)
      · exact absurd (hresumed.symm.trans hstopped) (by decide)

/-- A module that has recovered does not bring a waiting command back. -/
theorem Stands.recovered (h : r.Stands nested) (hstate : r.command.state = .homing) :
    (r.recovered axis).Stands nested := by
  have hresumed : (r.recovered axis).resumed = r.recovery.stateBeforeModuleFailed :=
    resumed_of_not_remembers (not_remembers_recovered axis)
  have hidle : ¬ (r.recovered axis).AwaitsUser nested := by
    rintro (hwaits | hn)
    · have hrem : r.recovery.remembers := by
        intro hempty
        rw [hresumed, hempty] at hwaits
        exact absurd hwaits (by decide)
      exact h.not_waits_of_homing hstate
        (.inl ((resumed_of_remembers hrem).trans (hresumed.symm.trans hwaits)))
    · exact h.not_waits_of_homing hstate (.inr hn)
  exact ⟨h.pulley, fun hn => absurd (.inr hn) hidle, fun hwaits => absurd hwaits hidle,
    fun hwaits => absurd hwaits hidle, fun hrem => absurd hrem (not_remembers_recovered axis)⟩

/-- A check that does not make the command wait has changed it only where a module has recovered,
and then brings it back in the state remembered, if any. -/
theorem recovers_waitForOne
    (hgo : (r.waitForOneModuleErrorRecovery (r.modules.checkMovable axis) axis).1 = false) :
    let r' := (r.waitForOneModuleErrorRecovery (r.modules.checkMovable axis) axis).2
    (r'.command = r.command ∨ r.command.state = .homing) ∧
      (r'.resumed = r.resumed ∨ r'.resumed = .empty) := by
  simp only
  rw [waitForOneModuleErrorRecovery] at hgo ⊢
  split
  · next hfailing =>
      rw [if_pos hfailing] at hgo
      cases hgo
  · split
    · split
      · next hstate =>
          split
          · refine ⟨.inr hstate, ?_⟩
            rw [resumed_of_not_remembers (not_remembers_recovered axis)]
            by_cases hrem : r.recovery.remembers
            · exact .inl (resumed_of_remembers hrem).symm
            · exact .inr (not_not.mp hrem)
          · exact ⟨.inl rfl, .inl rfl⟩
      · exact ⟨.inl rfl, .inl rfl⟩
    · exact ⟨.inl rfl, .inl rfl⟩

theorem recovers_waitForModules (hgo : r.waitForModulesErrorRecovery.1 = false) :
    (r.waitForModulesErrorRecovery.2.command = r.command ∨ r.command.state = .homing) ∧
      (r.waitForModulesErrorRecovery.2.resumed = r.resumed ∨
        r.waitForModulesErrorRecovery.2.resumed = .empty) := by
  have hidler := @recovers_waitForOne _ r .idler
  rw [waitForModulesErrorRecovery] at hgo ⊢
  generalize r.waitForOneModuleErrorRecovery (r.modules.checkMovable .idler) .idler = r₁
    at hidler hgo ⊢
  have hselector := @recovers_waitForOne _ r₁.2 .selector
  dsimp only at hgo ⊢
  generalize r₁.2.waitForOneModuleErrorRecovery (r₁.2.modules.checkMovable .selector) .selector = r₂
    at hselector hgo ⊢
  have hpulley := @recovers_waitForOne _ r₂.2 .pulley
  simp only [Bool.or_eq_false_iff] at hgo
  obtain ⟨hcommand₁, hresumed₁⟩ := hidler hgo.1.1
  obtain ⟨hcommand₂, hresumed₂⟩ := hselector hgo.1.2
  obtain ⟨hcommand₃, hresumed₃⟩ := hpulley hgo.2
  refine ⟨?_, ?_⟩
  · rcases hcommand₁ with hcommand₁ | hhoming
    · rw [hcommand₁] at hcommand₂
      rcases hcommand₂ with hcommand₂ | hhoming
      · rw [hcommand₂] at hcommand₃
        exact hcommand₃
      · exact .inr hhoming
    · exact .inr hhoming
  · rcases hresumed₃ with hresumed₃ | hempty
    · rw [hresumed₃]
      rcases hresumed₂ with hresumed₂ | hempty
      · rw [hresumed₂]
        exact hresumed₁
      · exact .inr hempty
    · exact .inr hempty

/-- A check of one module. A command loses its state only where it homes by itself. -/
theorem Stands.waitForOne (h : r.Stands nested) (axis : Axis)
    (hlost : r.resumed = .empty → r.modules.Sound) :
    let r' := (r.waitForOneModuleErrorRecovery (r.modules.checkMovable axis) axis).2
    r'.Stands nested ∧
      ((¬ r.recovery.remembers → r.command.state = .homing → ¬ r.modules.failed axis →
          axis.isRecovering r.recovery.recoveringMovableErrorAxisMask →
          r.modules.homingValid axis → r.modules.Sound) →
        r'.resumed = .empty → r'.modules.Sound) ∧
      (r'.modules.failed axis → axis ≠ .pulley → r'.recovery.remembers) := by
  simp only
  rw [waitForOneModuleErrorRecovery]
  split
  · next hfailing =>
      have hfailed : r.modules.failed axis := by
        simpa using Modules.checkMovable_eq_running.not.mp hfailing
      have hcode : withoutAxisBits (r.modules.checkMovable axis) = .homingFailed →
          axis ≠ .pulley := by
        rintro hcode rfl
        exact h.pulley (homingFailed_of_code hcode)
      generalize r.modules.checkMovable axis = ec at hcode ⊢
      obtain ⟨henter, hnoticed, hremembers⟩ := h.enterModuleFailure ec hfailed hlost
      obtain ⟨hagain, hnoticed, hremembers'⟩ := henter.failAgain ec hnoticed
      obtain ⟨hawait, hnoticed, hremembers''⟩ := hagain.awaitHomingRequest hnoticed
        ((failed_failAgain ec).mpr ((failed_enterModuleFailure ec).mpr hfailed)) hcode
      refine ⟨hawait, fun _ hempty => absurd hempty hnoticed.resumed_ne_empty, fun _ hpulley => ?_⟩
      refine hremembers'' (hremembers' (hremembers fun hempty => ?_))
      exact hpulley ((hlost hempty).failed_eq_pulley hfailed)
  · next hrunning =>
      have hworks := Modules.checkMovable_eq_running.mp (not_not.mp hrunning)
      have hsame : r.Stands nested ∧
          ((¬ r.recovery.remembers → r.command.state = .homing → ¬ r.modules.failed axis →
              axis.isRecovering r.recovery.recoveringMovableErrorAxisMask →
              r.modules.homingValid axis → r.modules.Sound) →
            r.resumed = .empty → r.modules.Sound) ∧
          (r.modules.failed axis → axis ≠ .pulley → r.recovery.remembers) :=
        ⟨h, fun _ => hlost, fun hfailed => absurd hfailed hworks⟩
      split
      · next hrecovering =>
          split
          · next hstate =>
              split
              · next hvalid =>
                  refine ⟨h.recovered hstate, fun hloses hempty => ?_,
                    fun hfailed => absurd hfailed hworks⟩
                  have hresumed : (r.recovered axis).resumed = r.recovery.stateBeforeModuleFailed :=
                    resumed_of_not_remembers (not_remembers_recovered axis)
                  refine hloses (fun hrem => ?_) hstate hworks hrecovering hvalid
                  exact hrem (hresumed.symm.trans hempty)
              · exact hsame
          · exact hsame
      · exact hsame

/-- The idler or the selector is found failed when no failure is remembered and the command has no
state to go on in, or loses it in this very step because it homes by itself while the idler is taken
for one that recovers. -/
def losesFailure (r : Running δ) : Prop :=
  ¬ r.recovery.remembers ∧ ¬ r.modules.Sound ∧
    (r.command.state = .empty ∨
      r.command.state = .homing ∧ ¬ r.modules.failed .idler ∧
        Axis.idler.isRecovering r.recovery.recoveringMovableErrorAxisMask ∧
        r.modules.homingValid .idler)

instance (r : Running δ) : Decidable r.losesFailure :=
  inferInstanceAs (Decidable (¬ r.recovery.stateBeforeModuleFailed ≠ .empty ∧ _))

theorem Stands.waitForModules (h : r.Stands nested) (hloses : ¬ r.losesFailure) :
    r.waitForModulesErrorRecovery.2.Stands nested := by
  have hlost : r.resumed = .empty → r.modules.Sound := by
    intro hempty
    have hrem := not_remembers_of_resumed_eq_empty hempty
    by_contra hsound
    exact hloses ⟨hrem, hsound, .inl ((resumed_of_not_remembers hrem).symm.trans hempty)⟩
  obtain ⟨hidler, hlost₁, hidlerRem⟩ := h.waitForOne .idler hlost
  have hlost₁ := hlost₁ fun hrem hstate hworks hmask hvalid => by
    by_contra hsound
    exact hloses ⟨hrem, hsound, .inr ⟨hstate, hworks, hmask, hvalid⟩⟩
  rw [waitForModulesErrorRecovery]
  generalize r.waitForOneModuleErrorRecovery (r.modules.checkMovable .idler) .idler = r₁
    at hidler hlost₁ hidlerRem ⊢
  obtain ⟨hselector, hlost₂, -⟩ := hidler.waitForOne .selector hlost₁
  have hlost₂ := hlost₂ fun hrem _ hworks _ _ =>
    ⟨fun hfailed => hrem (hidlerRem hfailed (by decide)), hworks⟩
  dsimp only
  generalize r₁.2.waitForOneModuleErrorRecovery (r₁.2.modules.checkMovable .selector) .selector = r₂
    at hselector hlost₂ ⊢
  exact (hselector.waitForOne .pulley hlost₂).1

end Running

section Handlers

variable {δ : Type} {m : Modules}

theorem Command.heldAs_errDisengagingIdler {c : Command δ} (hstate : c.state = .errDisengagingIdler)
    (hwaits : (c.errDisengagingIdler m).1.state = .errWaitingForUser) :
    m.HeldAs (c.errDisengagingIdler m).2 := by
  rw [errDisengagingIdler] at hwaits ⊢
  split
  · exact ⟨Modules.held_holdIdlerSelector _, rfl, rfl⟩
  · next hengaged =>
      rw [if_neg hengaged, hstate] at hwaits
      exact absurd hwaits (by decide)

theorem Modules.Held.heldAs_consumeEvent (h : m.Held) : m.HeldAs m.consumeEvent.2 :=
  ⟨⟨h.idler, h.selector⟩, rfl, rfl⟩

theorem LoadFilament.heldAs_stepInner {c : LoadFilament}
    (hheld : c.state = .errWaitingForUser → m.Held)
    (hwaits : (stepInner c m).2.1.state = .errWaitingForUser) : m.HeldAs (stepInner c m).2.2 := by
  rw [stepInner] at hwaits ⊢
  split
  · grind [goToRetractingFromFinda, Command.goToErrDisengagingIdler]
  · grind [resetLimited, reset2, Command.checkToolIndex, Command.goToErrDisengagingIdler]
  · grind [loadFinishedCorrectly, Command.finishedOK]
  · grind
  · next hstate =>
      rw [hstate] at hwaits
      exact Command.heldAs_errDisengagingIdler hstate hwaits
  · next hstate =>
      rw [hstate] at hwaits
      have hevent := (hheld hstate).heldAs_consumeEvent
      grind [goToRetractingFromFinda, reset2, Command.goToErrDisengagingIdler]
  · grind [Command.unhandledState]

namespace UnloadFilament

/-- Asked to try again, the command resumes the movables and waits again. -/
def staysWaiting (c : UnloadFilament) (m : Modules) : Bool :=
  c.state == .errWaitingForUser && m.consumeEvent.1 == .middle && !m.finda.pressed &&
    m.fsensor.pressed

theorem heldAs_stepInner {c : UnloadFilament} (hheld : c.state = .errWaitingForUser → m.Held)
    (hstays : staysWaiting c m = false)
    (hwaits : (stepInner c m).2.1.state = .errWaitingForUser) : m.HeldAs (stepInner c m).2.2 := by
  rw [stepInner] at hwaits ⊢
  split
  · grind [goToRetractingFromFinda, Command.goToErrDisengagingIdler]
  · grind [unloadFinishedCorrectly, Command.finishedOK, Command.goToErrDisengagingIdler]
  · grind [unloadFinishedCorrectly, Command.finishedOK]
  · next hstate =>
      rw [hstate] at hwaits
      exact Command.heldAs_errDisengagingIdler hstate hwaits
  · next hstate =>
      rw [hstate] at hwaits
      have hevent := (hheld hstate).heldAs_consumeEvent
      have hfinda : m.consumeEvent.2.invalidateHoming.finda = m.finda := rfl
      have hfsensor : m.consumeEvent.2.invalidateHoming.fsensor = m.fsensor := rfl
      grind [staysWaiting, goToRecheckFilamentAgainstFINDA, reset, nothingLoaded,
        Command.goToErrDisengagingIdler]
  · grind [goToRetractingFromFinda, Command.goToErrDisengagingIdler]
  · grind
  · grind [Command.unhandledState]

/-- An unload that is done does not wait. -/
theorem state_of_done {c : UnloadFilament} (h : (stepInner c m).1 = true) :
    (stepInner c m).2.1.state ≠ .errWaitingForUser := by
  rw [stepInner] at h ⊢
  grind [Command.unhandledState]

/-- A reset does not make an unload wait. -/
theorem restarts_ne_waiting : Restarts fun c => c.state ≠ .errWaitingForUser where
  reset {c} m h := by
    rw [reset]
    grind
  reset2 {c} m h := by
    rw [reset2, reset]
    grind

end UnloadFilament

namespace ToolChange

/-- Asked to try again, the command finds nothing to do, or no tool to do it with. -/
def staysWaiting (c : ToolChange) (m : Modules) : Bool :=
  c.state == .errWaitingForUser && m.consumeEvent.1 == .middle && !c.retryFeeds m &&
    (m.activeSlot ≥ Config.toolCount || nothingToDo m.activeSlot m)

theorem reset_ne_waiting {c : ToolChange} {param : UInt8} (htool : param < Config.toolCount)
    (hnothing : nothingToDo param m = false) :
    (reset c param m).2.1.state ≠ .errWaitingForUser := by
  have hvalid : ¬ param ≥ Config.toolCount := UInt8.not_le.mpr htool
  rw [reset, Command.checkToolIndex]
  grind [Command.goToErrDisengagingIdler]

theorem goToFeedingToFinda_ne_waiting (c : ToolChange) (m : Modules) :
    (goToFeedingToFinda c m).1.state ≠ .errWaitingForUser := by
  rw [goToFeedingToFinda]
  grind [Command.goToErrDisengagingIdler]

theorem retry_ne_waiting {c : ToolChange} (hretry : c.retryFeeds m = false →
      m.activeSlot < Config.toolCount ∧ nothingToDo m.activeSlot m = false) :
    (retry c m).1.state ≠ .errWaitingForUser := by
  have hreset (hfeeds : c.retryFeeds m = false) :
      (reset c m.invalidateHoming.activeSlot m.invalidateHoming).2.1.state ≠ .errWaitingForUser :=
    reset_ne_waiting (hretry hfeeds).1 (hretry hfeeds).2
  have hfinda : m.invalidateHoming.finda.pressed = m.finda.pressed := rfl
  rw [retry, hfinda]
  rw [retryFeeds] at hreset
  split
  · next herror => exact hreset (by rw [herror]; rfl)
  · split
    · exact goToFeedingToFinda_ne_waiting c _
    · next hflickers =>
        split
        · next hpressed => exact hreset (by simp [hflickers, hpressed])
        · exact goToFeedingToFinda_ne_waiting c _

theorem heldAs_stepInner {c : ToolChange} (hunl : c.state ≠ .unloadingFilament)
    (hheld : c.state = .errWaitingForUser → m.Held) (hstays : staysWaiting c m = false)
    (hwaits : (stepInner c m).2.1.state = .errWaitingForUser) : m.HeldAs (stepInner c m).2.2 := by
  rw [stepInner] at hwaits ⊢
  split
  · contradiction
  · grind [goToFeedingToBondtech, Command.goToErrDisengagingIdler]
  · grind [toolChangeFinishedCorrectly, Command.finishedOK, Command.goToErrDisengagingIdler]
  · grind
  · next hstate =>
      rw [hstate] at hwaits
      exact Command.heldAs_errDisengagingIdler hstate hwaits
  · next hstate =>
      rw [hstate] at hwaits
      dsimp only at hwaits ⊢
      split
      · next hmiddle =>
          rw [if_pos hmiddle] at hwaits
          refine absurd hwaits (retry_ne_waiting fun hfeeds => ?_)
          have hfeeds : c.retryFeeds m = false := hfeeds
          rw [staysWaiting, hstate, hmiddle, hfeeds] at hstays
          have htool : ¬ m.activeSlot ≥ Config.toolCount ∧ nothingToDo m.activeSlot m = false := by
            simpa using hstays
          exact ⟨UInt8.not_le.mp htool.1, htool.2⟩
      · exact (hheld hstate).heldAs_consumeEvent
  · grind [Command.unhandledState]

end ToolChange

namespace CutFilament

theorem selectFilamentSlot_ne_waiting (c : CutFilament) (m : Modules) :
    (selectFilamentSlot c m).1.state ≠ .errWaitingForUser := by
  rw [selectFilamentSlot]
  grind [moveSelector, Command.goToErrDisengagingIdler]

theorem heldAs_stepInner {c : CutFilament} (hunl : c.state ≠ .unloadingFilament)
    (hheld : c.state = .errWaitingForUser → m.Held) (hcut : c.data.cutSlot < Config.toolCount)
    (hwaits : (stepInner c m).2.1.state = .errWaitingForUser) : m.HeldAs (stepInner c m).2.2 := by
  rw [stepInner] at hwaits ⊢
  split
  · contradiction
  · grind [Command.goToErrDisengagingIdler]
  · grind [Command.goToErrDisengagingIdler]
  · grind [moveSelector, Command.goToErrDisengagingIdler]
  · grind
  · grind
  · grind [moveSelector, Command.goToErrDisengagingIdler]
  · grind
  · grind
  · grind [Command.finishedOK]
  · grind
  · next hstate =>
      rw [hstate] at hwaits
      exact Command.heldAs_errDisengagingIdler hstate hwaits
  · next hstate =>
      rw [hstate] at hwaits
      have hevent := (hheld hstate).heldAs_consumeEvent
      have htool : ¬ c.data.cutSlot ≥ Config.toolCount := UInt8.not_le.mpr hcut
      grind [reset, selectFilamentSlot, moveSelector, Command.checkToolIndex,
        Command.goToErrDisengagingIdler]
  · grind [Command.unhandledState]

end CutFilament

namespace EjectFilament

/-- Asked to try again, the command does not know what to do about its error. -/
def staysWaiting (c : EjectFilament) (m : Modules) : Bool :=
  c.state == .errWaitingForUser && m.consumeEvent.1 == .middle && c.error != .filamentEjected &&
    c.error != .findaFlickers

theorem moveSelectorAside_ne_waiting (c : EjectFilament) (m : Modules) :
    (moveSelectorAside c m).1.state ≠ .errWaitingForUser := by
  rw [moveSelectorAside]
  grind [Command.goToErrDisengagingIdler]

theorem heldAs_stepInner {c : EjectFilament} (hunl : c.state ≠ .unloadingFilament)
    (hheld : c.state = .errWaitingForUser → m.Held) (hstays : staysWaiting c m = false)
    (hwaits : (stepInner c m).2.1.state = .errWaitingForUser) : m.HeldAs (stepInner c m).2.2 := by
  rw [stepInner] at hwaits ⊢
  split
  · contradiction
  · grind
  · grind
  · grind [Command.goToErrDisengagingIdler]
  · next hstate =>
      rw [hstate] at hwaits
      exact Command.heldAs_errDisengagingIdler hstate hwaits
  · next hstate =>
      rw [hstate] at hwaits
      have hevent := (hheld hstate).heldAs_consumeEvent
      grind [staysWaiting, moveSelectorAside, Command.finishedOK, Command.goToErrDisengagingIdler]
  · grind
  · grind [Command.unhandledState]

end EjectFilament

end Handlers

namespace CommandId

/-- The unload nested in a command waits for the user. -/
def NestedWaits (id : CommandId) (c : id.Object) : Prop :=
  ∃ unl ∈ id.nested c, unl.state = .errWaitingForUser

/-- A command that waits for the user, or in which its unload does, will wait again after its
step though it has resumed the movables. -/
def staysWaiting : (id : CommandId) → id.Object → Modules → Bool
  | .unloadFilament, c, m => UnloadFilament.staysWaiting c m
  | .toolChange, c, m =>
      ToolChange.staysWaiting c m ||
        c.state == .unloadingFilament && UnloadFilament.staysWaiting c.data.unl m
  | .cutFilament, c, m => c.state == .unloadingFilament && UnloadFilament.staysWaiting c.data.unl m
  | .ejectFilament, c, m =>
      EjectFilament.staysWaiting c m ||
        c.state == .unloadingFilament && UnloadFilament.staysWaiting c.data.unl m
  | .startUp, _, _ | .noCommand, _, _ | .home, _, _ | .loadFilament, _, _ | .moveSelector, _, _
  | .setMode, _, _ => false

theorem waits_of_staysWaiting {id : CommandId} {c : id.Object} {m : Modules}
    (h : id.staysWaiting c m = true) :
    c.state = .errWaitingForUser ∨ c.state = .unloadingFilament ∧ id.NestedWaits c := by
  have hunload {unl : UnloadFilament} (h : UnloadFilament.staysWaiting unl m = true) :
      unl.state = .errWaitingForUser := by
    simp only [UnloadFilament.staysWaiting, Bool.and_eq_true, beq_iff_eq] at h
    exact h.1.1.1
  cases id with
  | unloadFilament => exact .inl (hunload h)
  | toolChange =>
      simp only [staysWaiting, Bool.or_eq_true, Bool.and_eq_true, beq_iff_eq] at h
      rcases h with hown | ⟨hunloads, hstays⟩
      · simp only [ToolChange.staysWaiting, Bool.and_eq_true, beq_iff_eq] at hown
        exact .inl hown.1.1.1
      · exact .inr ⟨hunloads, _, rfl, hunload hstays⟩
  | cutFilament =>
      simp only [staysWaiting, Bool.and_eq_true, beq_iff_eq] at h
      exact .inr ⟨h.1, _, rfl, hunload h.2⟩
  | ejectFilament =>
      simp only [staysWaiting, Bool.or_eq_true, Bool.and_eq_true, beq_iff_eq] at h
      rcases h with hown | ⟨hunloads, hstays⟩
      · simp only [EjectFilament.staysWaiting, Bool.and_eq_true, beq_iff_eq] at hown
        exact .inl hown.1.1.1
      · exact .inr ⟨hunloads, _, rfl, hunload hstays⟩
  | startUp | noCommand | home | loadFilament | moveSelector | setMode => cases h

/-- The slot a cut is tried again with is a tool. -/
def KeepsTool : (id : CommandId) → id.Object → Prop
  | .cutFilament, c => c.data.cutSlot < Config.toolCount
  | .startUp, _ | .noCommand, _ | .ejectFilament, _ | .home, _ | .loadFilament, _
  | .moveSelector, _ | .setMode, _ | .toolChange, _ | .unloadFilament, _ => True

variable {id : CommandId} {c c' : id.Object} {m : Modules}

theorem KeepsTool.congr (h : id.KeepsTool c) (hdata : c'.data = c.data) : id.KeepsTool c' := by
  cases id with
  | cutFilament =>
      show c'.data.cutSlot < Config.toolCount
      rw [hdata]
      exact h
  | startUp | noCommand | ejectFilament | home | loadFilament | moveSelector | setMode
  | toolChange | unloadFilament => trivial

theorem keepsTool_reset (h : id.KeepsTool c) (param : UInt8) :
    id.KeepsTool (id.reset c param m).2.1 := by
  cases id with
  | cutFilament =>
      show (CutFilament.reset c param m).2.1.data.cutSlot < Config.toolCount
      rcases CutFilament.cutSlot_reset (m := m) c param with ⟨hsame, -⟩ | hcut
      · exact hsame ▸ h
      · exact hcut
  | startUp | noCommand | ejectFilament | home | loadFilament | moveSelector | setMode
  | toolChange | unloadFilament => trivial

theorem keepsTool_stepInner (h : id.KeepsTool c) : id.KeepsTool (id.stepInner c m).2.1 := by
  cases id with
  | cutFilament =>
      show (CutFilament.stepInner c m).2.1.data.cutSlot < Config.toolCount
      rcases CutFilament.cutSlot_stepInner (m := m) c with hsame | hcut
      · exact hsame ▸ h
      · exact hcut
  | startUp | noCommand | ejectFilament | home | loadFilament | moveSelector | setMode
  | toolChange | unloadFilament => trivial

/-- A start does not make a command wait. -/
theorem reset_ne_waiting (hid : id ≠ .startUp) (h : c.state ≠ .errWaitingForUser) (param : UInt8) :
    (id.reset c param m).2.1.state ≠ .errWaitingForUser := by
  cases id with
  | startUp => exact absurd rfl hid
  | noCommand => exact h
  | setMode => exact (by decide : ProgressCode.ok ≠ .errWaitingForUser)
  | home => exact (by decide : ProgressCode.homing ≠ .errWaitingForUser)
  | cutFilament =>
      show (CutFilament.reset c param m).2.1.state ≠ _
      have hselects := CutFilament.selectFilamentSlot_ne_waiting
      rw [CutFilament.reset, Command.checkToolIndex]
      grind
  | ejectFilament =>
      show (EjectFilament.reset c param m).2.1.state ≠ _
      have hmoves := EjectFilament.moveSelectorAside_ne_waiting
      rw [EjectFilament.reset, Command.checkToolIndex]
      grind
  | loadFilament =>
      show (LoadFilament.reset c param m).2.1.state ≠ _
      rw [LoadFilament.reset, Command.checkToolIndex]
      grind [LoadFilament.reset2, Command.goToErrDisengagingIdler]
  | moveSelector =>
      show (MoveSelector.reset c param m).2.1.state ≠ _
      rw [MoveSelector.reset]
      grind
  | toolChange =>
      show (ToolChange.reset c param m).2.1.state ≠ _
      rw [ToolChange.reset, Command.checkToolIndex]
      grind [Command.goToErrDisengagingIdler]
  | unloadFilament => exact UnloadFilament.restarts_ne_waiting.reset m h

theorem NestedWaits.congr (hdata : c'.data = c.data) : id.NestedWaits c' ↔ id.NestedWaits c := by
  rw [NestedWaits, NestedWaits, nested_congr hdata]

theorem not_nestedWaits (h : ∀ unl ∈ id.nested c, unl.state ≠ .errWaitingForUser) :
    ¬ id.NestedWaits c :=
  fun ⟨unl, hunl, hstate⟩ => h unl hunl hstate

theorem ne_waiting_of_not_nestedWaits (h : ¬ id.NestedWaits c) :
    ∀ unl ∈ id.nested c, unl.state ≠ .errWaitingForUser :=
  fun unl hunl hstate => h ⟨unl, hunl, hstate⟩

theorem waits_of_shownState (h : id.shownState c = .errWaitingForUser) :
    c.state = .errWaitingForUser ∨ id.NestedWaits c := by
  cases id with
  | cutFilament =>
      change CutFilament.shownState c = _ at h
      rw [CutFilament.shownState] at h
      split at h
      · exact .inr ⟨_, rfl, h⟩
      · exact .inl h
  | ejectFilament =>
      change EjectFilament.shownState c = _ at h
      rw [EjectFilament.shownState] at h
      split at h
      · exact .inr ⟨_, rfl, h⟩
      · exact .inl h
  | toolChange =>
      change ToolChange.shownState c = _ at h
      rw [ToolChange.shownState] at h
      split at h
      · exact .inr ⟨_, rfl, h⟩
      · next hstate =>
          rw [hstate] at h
          split at h <;> exact absurd h (by decide)
      · exact .inl h
  | startUp | noCommand | home | loadFilament | moveSelector | setMode | unloadFilament =>
      exact .inl h

/-- After its step a command waits with the movables on hold, and an unload waits only in a command
that runs it. -/
structure WaitsHeld (id : CommandId) (m : Modules) (c' : id.Object) (m' : Modules) : Prop where
  unloads : id.NestedWaits c' → c'.state = .unloadingFilament
  held : c'.state = .errWaitingForUser ∨ id.NestedWaits c' → m.HeldAs m'

theorem waitsHeld_of_idle {m' : Modules}
    (hidle : ∀ unl ∈ id.nested c', unl.state ≠ .errWaitingForUser)
    (hheld : c'.state = .errWaitingForUser → m.HeldAs m') : id.WaitsHeld m c' m' := by
  have hidle := not_nestedWaits hidle
  refine ⟨fun hn => absurd hn hidle, ?_⟩
  rintro (hwaits | hn)
  · exact hheld hwaits
  · exact absurd hn hidle

theorem waitsHeld_of_unloading {unl : UnloadFilament} (hstate : c'.state = .unloadingFilament)
    (hnested : id.nested c' = some (UnloadFilament.stepInner unl m).2.1)
    (hheld : unl.state = .errWaitingForUser → m.Held)
    (hstays : UnloadFilament.staysWaiting unl m = false) :
    id.WaitsHeld m c' (UnloadFilament.stepInner unl m).2.2 := by
  refine ⟨fun _ => hstate, ?_⟩
  rintro (hwaits | ⟨_, hunl, hwaits⟩)
  · exact absurd (hstate.symm.trans hwaits) (by decide)
  · rw [hnested] at hunl
    cases hunl
    exact UnloadFilament.heldAs_stepInner hheld hstays hwaits

theorem waitsHeld_toolChange {c : ToolChange}
    (hunloads : c.data.unl.state = .errWaitingForUser → c.state = .unloadingFilament)
    (hheld : c.state = .errWaitingForUser ∨ c.data.unl.state = .errWaitingForUser → m.Held)
    (hstays : CommandId.toolChange.staysWaiting c m = false) :
    CommandId.toolChange.WaitsHeld m (ToolChange.stepInner c m).2.1
      (ToolChange.stepInner c m).2.2 := by
  rw [staysWaiting, Bool.or_eq_false_iff] at hstays
  by_cases hstate : c.state = .unloadingFilament
  · have hstays : UnloadFilament.staysWaiting c.data.unl m = false := by
      simpa [hstate] using hstays.2
    rw [ToolChange.stepInner, hstate]
    dsimp only
    split
    · next hdone =>
        refine waitsHeld_of_idle ?_ fun hwaits =>
          absurd hwaits (ToolChange.goToFeedingToFinda_ne_waiting _ _)
        rintro _ ⟨⟩
        rw [ToolChange.goToFeedingToFinda_unl]
        exact UnloadFilament.state_of_done hdone
    · exact waitsHeld_of_unloading rfl rfl (fun h => hheld (.inr h)) hstays
  · refine waitsHeld_of_idle ?_ fun hwaits =>
      ToolChange.heldAs_stepInner hstate (fun h => hheld (.inl h)) hstays.1 hwaits
    rintro _ ⟨⟩
    exact ToolChange.restart_preserves UnloadFilament.restarts_ne_waiting
      (fun h => hstate (hunloads h)) hstate

theorem waitsHeld_cutFilament {c : CutFilament} (hcut : c.data.cutSlot < Config.toolCount)
    (hunloads : c.data.unl.state = .errWaitingForUser → c.state = .unloadingFilament)
    (hheld : c.state = .errWaitingForUser ∨ c.data.unl.state = .errWaitingForUser → m.Held)
    (hstays : CommandId.cutFilament.staysWaiting c m = false) :
    CommandId.cutFilament.WaitsHeld m (CutFilament.stepInner c m).2.1
      (CutFilament.stepInner c m).2.2 := by
  rw [staysWaiting] at hstays
  by_cases hstate : c.state = .unloadingFilament
  · have hstays : UnloadFilament.staysWaiting c.data.unl m = false := by
      simpa [hstate] using hstays
    rw [CutFilament.stepInner, hstate]
    dsimp only
    split
    · next hdone =>
        refine waitsHeld_of_idle ?_ fun hwaits =>
          absurd hwaits (CutFilament.selectFilamentSlot_ne_waiting _ _)
        rintro _ ⟨⟩
        rw [CutFilament.selectFilamentSlot_unl]
        exact UnloadFilament.state_of_done hdone
    · exact waitsHeld_of_unloading rfl rfl (fun h => hheld (.inr h)) hstays
  · refine waitsHeld_of_idle ?_ fun hwaits =>
      CutFilament.heldAs_stepInner hstate (fun h => hheld (.inl h)) hcut hwaits
    rintro _ ⟨⟩
    exact CutFilament.restart_preserves UnloadFilament.restarts_ne_waiting
      (fun h => hstate (hunloads h)) hstate

theorem waitsHeld_ejectFilament {c : EjectFilament}
    (hunloads : c.data.unl.state = .errWaitingForUser → c.state = .unloadingFilament)
    (hheld : c.state = .errWaitingForUser ∨ c.data.unl.state = .errWaitingForUser → m.Held)
    (hstays : CommandId.ejectFilament.staysWaiting c m = false) :
    CommandId.ejectFilament.WaitsHeld m (EjectFilament.stepInner c m).2.1
      (EjectFilament.stepInner c m).2.2 := by
  rw [staysWaiting, Bool.or_eq_false_iff] at hstays
  by_cases hstate : c.state = .unloadingFilament
  · have hstays : UnloadFilament.staysWaiting c.data.unl m = false := by
      simpa [hstate] using hstays.2
    rw [EjectFilament.stepInner, hstate]
    dsimp only
    split
    · next hdone =>
        refine waitsHeld_of_idle ?_ fun hwaits =>
          absurd hwaits (EjectFilament.moveSelectorAside_ne_waiting _ _)
        rintro _ ⟨⟩
        rw [EjectFilament.moveSelectorAside_unl]
        exact UnloadFilament.state_of_done hdone
    · exact waitsHeld_of_unloading rfl rfl (fun h => hheld (.inr h)) hstays
  · refine waitsHeld_of_idle ?_ fun hwaits =>
      EjectFilament.heldAs_stepInner hstate (fun h => hheld (.inl h)) hstays.1 hwaits
    rintro _ ⟨⟩
    rw [EjectFilament.stepInner_unl hstate]
    exact fun h => hstate (hunloads h)

/-- A step of a command that is not the start-up. -/
theorem waitsHeld_stepInner (hid : id ≠ .startUp) (htool : id.KeepsTool c)
    (hunloads : id.NestedWaits c → c.state = .unloadingFilament)
    (hheld : c.state = .errWaitingForUser ∨ id.NestedWaits c → m.Held)
    (hstays : id.staysWaiting c m = false) :
    id.WaitsHeld m (id.stepInner c m).2.1 (id.stepInner c m).2.2 := by
  cases id with
  | startUp => exact absurd rfl hid
  | toolChange =>
      exact waitsHeld_toolChange (fun h => hunloads ⟨_, rfl, h⟩)
        (fun h => hheld (h.imp_right fun h => ⟨_, rfl, h⟩)) hstays
  | cutFilament =>
      exact waitsHeld_cutFilament htool (fun h => hunloads ⟨_, rfl, h⟩)
        (fun h => hheld (h.imp_right fun h => ⟨_, rfl, h⟩)) hstays
  | ejectFilament =>
      exact waitsHeld_ejectFilament (fun h => hunloads ⟨_, rfl, h⟩)
        (fun h => hheld (h.imp_right fun h => ⟨_, rfl, h⟩)) hstays
  | unloadFilament =>
      exact waitsHeld_of_idle (fun _ hunl => absurd hunl (Option.not_mem_none _))
        (UnloadFilament.heldAs_stepInner (fun h => hheld (.inl h)) hstays)
  | loadFilament =>
      exact waitsHeld_of_idle (fun _ hunl => absurd hunl (Option.not_mem_none _))
        (LoadFilament.heldAs_stepInner fun h => hheld (.inl h))
  | noCommand | setMode =>
      exact waitsHeld_of_idle (fun _ hunl => absurd hunl (Option.not_mem_none _))
        fun h => ⟨hheld (.inl h), rfl, rfl⟩
  | home =>
      refine waitsHeld_of_idle (fun _ hunl => absurd hunl (Option.not_mem_none _)) fun hwaits => ?_
      have hne : (Home.stepInner c m).2.1.state ≠ .errWaitingForUser := by
        rw [Home.stepInner]
        grind [Command.finishedOK, Command.unhandledState]
      exact absurd hwaits hne
  | moveSelector =>
      refine waitsHeld_of_idle (fun _ hunl => absurd hunl (Option.not_mem_none _)) fun hwaits => ?_
      have hne : (MoveSelector.stepInner c m).2.1.state ≠ .errWaitingForUser := by
        rw [MoveSelector.stepInner]
        grind [Command.finishedOK, Command.unhandledState]
      exact absurd hwaits hne

end CommandId

namespace Running

variable {id : CommandId} {r : Running id.Data}

theorem keepsTool_step (h : id.KeepsTool r.command) :
    id.KeepsTool (r.step id.stepInner).2.command := by
  have hwaited := h.congr (carries_waitForModules (r := r)).data
  rw [Running.step]
  dsimp only
  split
  · exact hwaited
  · exact CommandId.keepsTool_stepInner hwaited

/-- A step after which the command waits without the hold, or has lost what it would take to
keep it. -/
def leavesHold (r : Running id.Data) : Prop :=
  r.losesFailure ∨
    id.staysWaiting r.command r.modules = true ∧ r.modules.Sound ∧ ¬ r.modules.failed .pulley

instance (r : Running id.Data) : Decidable r.leavesHold := inferInstanceAs (Decidable (_ ∨ _))

/-- The command goes on waiting in the state it was found in. -/
theorem Stands.staysWaiting_waitForModules (h : r.Stands (id.NestedWaits r.command))
    (hleaves : ¬ r.leavesHold) (hgo : r.waitForModulesErrorRecovery.1 = false)
    (hrem : ¬ r.waitForModulesErrorRecovery.2.recovery.remembers) :
    id.staysWaiting r.waitForModulesErrorRecovery.2.command
      r.waitForModulesErrorRecovery.2.modules = false := by
  obtain ⟨hmodules, hworks⟩ := goes_waitForModules hgo
  have hdata := (carries_waitForModules (r := r)).data
  obtain ⟨hcommand, hresumed⟩ := recovers_waitForModules hgo
  rw [resumed_of_not_remembers hrem] at hresumed
  by_contra hstays
  rw [Bool.not_eq_false] at hstays
  rcases hcommand with hcommand | hhoming
  · rw [hcommand, hmodules] at hstays
    exact hleaves (.inr ⟨hstays, Modules.sound_of_works hworks, hworks .pulley⟩)
  · rcases CommandId.waits_of_staysWaiting hstays with hwaits | ⟨hunloads, hnested⟩
    · rw [hwaits] at hresumed
      exact h.not_waits_of_homing hhoming (.inl (hresumed.resolve_right (by decide)).symm)
    · exact h.not_waits_of_homing hhoming (.inr ((CommandId.NestedWaits.congr hdata).mp hnested))

theorem stands_step (hid : id ≠ .startUp) (h : r.Stands (id.NestedWaits r.command))
    (hblocked : r.Blocked) (htool : id.KeepsTool r.command) (hleaves : ¬ r.leavesHold) :
    (r.step id.stepInner).2.Stands (id.NestedWaits (r.step id.stepInner).2.command) := by
  have hwaited := h.waitForModules fun hloses => hleaves (.inl hloses)
  have hdata := (carries_waitForModules (r := r)).data
  have hquiet := hblocked.waitForModules.2
  have hgoes := @goes_waitForModules _ r
  have hstays := h.staysWaiting_waitForModules hleaves
  rw [← propext (CommandId.NestedWaits.congr hdata)] at hwaited
  have htool := htool.congr hdata
  rw [Running.step]
  generalize r.waitForModulesErrorRecovery = w at hwaited hquiet hgoes hstays htool ⊢
  dsimp only
  split
  · exact hwaited
  · next hgo =>
      rw [not_or, Bool.not_eq_true] at hgo
      obtain ⟨hmodules, hworks⟩ := hgoes hgo.1
      have hrem := (hquiet hgo.1).resolve_right hgo.2
      have hresumed := resumed_of_not_remembers hrem
      have hsound : w.2.modules.Sound := hmodules.symm ▸ Modules.sound_of_works hworks
      have hstep := CommandId.waitsHeld_stepInner hid htool
        (fun hn => (hresumed ▸ hwaited.unloads hn).resolve_right hgo.2)
        (fun hwaits => (hwaited.waits (hwaits.imp_left hresumed.trans)).1) (hstays hgo.1 hrem)
      refine ⟨?_, fun hn => .inl ?_, fun hwaits => ?_, fun _ hrem' => absurd hrem' hrem,
        fun hrem' => absurd hrem' hrem⟩
      · exact id.holds_stepInner (D := Modules.pulleySound) hwaited.pulley (by
          cases id <;> simp [CommandId.StepsWithin, Modules.pulleySound])
      · exact (Recovery.resumed_of_not_remembers hrem).trans (hstep.unloads hn)
      · have hown := hwaits.imp_left (Recovery.resumed_of_not_remembers hrem).symm.trans
        exact (hstep.held hown).standsStill hsound

end Running

end MmuFirmware
