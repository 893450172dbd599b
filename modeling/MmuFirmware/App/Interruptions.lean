import MmuFirmware.App.Exclusion
import MmuFirmware.Logic.Resumption

/-!
Recovery from failed modules in the main loop. Between two steps of a command the modules
are left alone, so a command held up by modules that fail one after the other resumes where
it was. Where two modules have failed, the first one recovered already counts as all.
-/
namespace MmuFirmware

namespace Movable

variable {ε : Type} (m : Movable ε)

theorem leftAlone_checkTMC : m.LeftAlone (if m.state = .tmcFailed then m else m.checkTMC) := by
  refine ⟨m.checkUnlessFailed_failed, fun hvalid => .inl ?_⟩
  split
  · exact hvalid
  · rw [checkTMC]
    dsimp only
    split <;> exact hvalid

variable {m}

theorem leftAlone_performMove (hstate : m.state = .moving) (finishMove : Movable ε → Movable ε)
    (hfinish : ∀ m, (finishMove m).homingValid = m.homingValid) :
    m.LeftAlone (m.performMove finishMove) := by
  rw [performMove]
  split
  · refine ⟨?_, fun hvalid => .inl ((hfinish _).trans hvalid)⟩
    rintro (hfailed | hfailed) <;> cases hstate.symm.trans hfailed
  · exact .refl m

theorem leftAlone_performHomeForward (hstate : m.state = .homeForward)
    (allowed : Movable ε → Bool → Bool) (plan : Movable ε → Movable ε)
    (hplan : ∀ m, (plan m).homingValid = m.homingValid) :
    m.LeftAlone (m.performHomeForward allowed plan) := by
  have hworks : ¬ m.failed := by
    rintro (hfailed | hfailed) <;> cases hstate.symm.trans hfailed
  refine ⟨fun hfailed => absurd hfailed hworks, fun hvalid => ?_⟩
  rw [performHomeForward]
  dsimp only
  split
  · split
    · exact .inl ((hplan _).trans hvalid)
    · exact .inl hvalid
  · split
    · exact .inr (.inr rfl)
    · exact .inl hvalid

theorem leftAlone_performHomeBack (hstate : m.state = .homeBack) (g : Globals)
    (allowed : Movable ε → Bool → Bool) (finish : Movable ε → Bool × Movable ε) :
    m.LeftAlone (m.performHomeBack g allowed finish) := by
  have hworks : ¬ m.failed := by
    rintro (hfailed | hfailed) <;> cases hstate.symm.trans hfailed
  refine ⟨fun hfailed => absurd hfailed hworks, fun hvalid => ?_⟩
  rw [performHomeBack]
  dsimp only
  split
  · split
    · have hfinished : ∀ r : Bool × Movable ε,
          (if r.1 then { r.2 with homingValid := true } else r.2.homeFailed).homingValid = true ∨
            (if r.1 then { r.2 with homingValid := true } else r.2.homeFailed).failed := by
        intro r
        split
        · exact .inl rfl
        · exact .inr (.inr rfl)
      exact hfinished _
    · exact .inl hvalid
  · split
    · exact .inr (.inr rfl)
    · exact .inl hvalid

end Movable

theorem Idler.leftAlone_step (i : Idler) (g : Globals) : i.LeftAlone (i.step g) := by
  rw [step]
  split
  · exact .refl i
  · dsimp only
    have hchecked := i.leftAlone_checkTMC
    generalize (if i.state = .tmcFailed then i else i.checkTMC) = i' at hchecked ⊢
    refine hchecked.trans ?_
    split
    · next hstate => exact Movable.leftAlone_performMove hstate _ fun _ => rfl
    · next hstate => exact Movable.leftAlone_performHomeForward hstate _ _ fun _ => rfl
    · next hstate => exact Movable.leftAlone_performHomeBack hstate _ _ _
    · next hstate =>
        split
        · next hinvalid =>
            refine ⟨?_, fun hvalid => absurd (hvalid.symm.trans hinvalid.1) (by decide)⟩
            rintro (hfailed | hfailed) <;> cases hstate.symm.trans hfailed
        · exact .refl i'
    · exact .refl i'

theorem Selector.leftAlone_step (s : Selector) (g : Globals) (finda idlerHomingValid : Bool) :
    s.LeftAlone (s.step g finda idlerHomingValid) := by
  rw [step]
  split
  · exact .refl s
  · dsimp only
    have hchecked := s.leftAlone_checkTMC
    generalize (if s.state = .tmcFailed then s else s.checkTMC) = s' at hchecked ⊢
    refine hchecked.trans ?_
    split
    · next hstate => exact Movable.leftAlone_performMove hstate _ fun _ => rfl
    · next hstate =>
        split
        · refine ⟨?_, .inl⟩
          rintro (hfailed | hfailed) <;> cases hstate.symm.trans hfailed
        · exact .refl s'
    · next hstate => exact Movable.leftAlone_performHomeForward hstate _ _ fun _ => rfl
    · next hstate => exact Movable.leftAlone_performHomeBack hstate _ _ _
    · next hstate =>
        split
        · next hinvalid =>
            refine ⟨?_, fun hvalid => absurd (hvalid.symm.trans hinvalid.1) (by decide)⟩
            rintro (hfailed | hfailed) <;> cases hstate.symm.trans hfailed
        · exact .refl s'
    · exact .refl s'

theorem Pulley.leftAlone_step (p : Pulley) : p.LeftAlone p.step := by
  rw [step]
  split
  · exact .refl p
  · dsimp only
    have hchecked := p.leftAlone_checkTMC
    generalize (if p.state = .tmcFailed then p else p.checkTMC) = p' at hchecked ⊢
    refine hchecked.trans ?_
    split
    · next hstate => exact Movable.leftAlone_performMove hstate _ fun _ => rfl
    · exact .refl p'

namespace Modules

variable (m : Modules)

theorem LeftAlone.refl : m.LeftAlone m := ⟨.refl _, .refl _, .refl _⟩

theorem LeftAlone.trans {m m' m'' : Modules} (h : m.LeftAlone m') (h' : m'.LeftAlone m'') :
    m.LeftAlone m'' :=
  ⟨h.1.trans h'.1, h.2.1.trans h'.2.1, h.2.2.trans h'.2.2⟩

theorem leftAlone_stepMovables (findaPin : Bool) : m.LeftAlone (m.stepMovables findaPin) :=
  ⟨Pulley.leftAlone_step _, Selector.leftAlone_step _ _ _ _, Idler.leftAlone_step _ _⟩

/-- What touches no more of an axis than its motor. -/
theorem leftAlone_motors {m m' : Modules} {pulley selector idler : AxisData}
    (hpulley : m'.pulley = { m.pulley with axis := pulley })
    (hselector : m'.selector = { m.selector with axis := selector })
    (hidler : m'.idler = { m.idler with axis := idler }) : m.LeftAlone m' := by
  rw [LeftAlone, hpulley, hselector, hidler]
  exact ⟨Movable.leftAlone_of_eq rfl rfl, Movable.leftAlone_of_eq rfl rfl,
    Movable.leftAlone_of_eq rfl rfl⟩

end Modules

namespace World

variable (w : World)

theorem leftAlone_deliverPanic : w.modules.LeftAlone w.deliverPanic.modules := by
  rw [deliverPanic]
  split
  · exact Modules.leftAlone_motors rfl rfl rfl
  · exact .refl _

theorem leftAlone_stepModules (i : LoopInput) : w.modules.LeftAlone (w.stepModules i).modules := by
  rw [stepModules]
  refine Modules.LeftAlone.trans ?_ (leftAlone_deliverPanic _)
  have hinputs : w.modules.LeftAlone (w.modules.stepInputs i.buttonsADC) :=
    Modules.leftAlone_motors rfl rfl rfl
  dsimp only
  split
  · exact hinputs.trans (Modules.leftAlone_stepMovables _ _)
  · exact hinputs

theorem leftAlone_interrupt (i : Interrupts) : w.modules.LeftAlone (w.interrupt i).modules :=
  Modules.leftAlone_motors rfl rfl rfl

theorem leftAlone_runtimeHWChecks (vccADC : UInt16) :
    w.modules.LeftAlone (w.runtimeHWChecks vccADC).modules := by
  rw [runtimeHWChecks]
  split
  · exact Modules.leftAlone_motors rfl rfl rfl
  · exact .refl _

theorem leftAlone_beforeMessages (i : LoopInput) :
    w.modules.LeftAlone (w.beforeMessages i).modules := by
  rw [beforeMessages]
  exact (((leftAlone_interrupt w _).trans (leftAlone_stepModules _ i)).trans
    (leftAlone_runtimeHWChecks _ _)).trans (leftAlone_interrupt _ _)

variable {w}

theorem ChecksManually.leftAlone {w' : World} (h : w.ChecksManually w' none) :
    w.modules.LeftAlone w'.modules := by
  cases h
  exact Modules.leftAlone_motors rfl rfl rfl

theorem Serves.leftAlone {w' : World} {rq : RequestMsg} (h : w.Serves rq w' none)
    (hwrite : rq.code ≠ .write) : w.modules.LeftAlone w'.modules := by
  cases h with
  | quiet => exact Modules.leftAlone_motors rfl rfl rfl
  | reset =>
      rw [processReset]
      split <;> exact Modules.leftAlone_motors rfl rfl rfl
  | write hcode => exact absurd hcode hwrite

/-- From the step of the command to the next one nothing is asked of the modules, unless a
command is started or a register written. -/
theorem leftAlone_beforeCommand (i : LoopInput) (hstarts : (w.report i).starts = [])
    (hwrite : ∀ rq, (w.report i).request = some rq → rq.code ≠ .write) :
    w.modules.LeftAlone (w.beforeCommand i).modules := by
  simp only [LoopReport.starts, List.append_eq_nil_iff, Option.toList_eq_nil_iff] at hstarts
  have hchecks := w.startManually_checks i
  rw [show (w.startManually i).1 = none from hstarts.1] at hchecks
  have hread : w.modules.LeftAlone (w.readMessages i).2.modules :=
    (w.leftAlone_beforeMessages i).trans hchecks.leftAlone
  have hserves := w.serve_serves i
  rw [show (w.serve i).started = none from hstarts.2] at hserves
  have hserve : (w.readMessages i).2.modules.LeftAlone (w.serve i).world.modules := by
    cases hcompleted : (w.readMessages i).1 with
    | true =>
        refine hserves.leftAlone (hwrite _ ?_)
        rw [report, if_pos hcompleted]
    | false =>
        rw [serve, hcompleted]
        exact .refl _
  exact (hread.trans hserve).trans (leftAlone_interrupt _ _)

/-- The current command as its step finds it. -/
def running (w : World) : Running w.currentCommand.Data where
  command := w.current.command
  recovery := w.current.recovery
  modules := w.modules

/-- In the iteration the command is stepped as the last step has left it, and it is held up. -/
def heldUp (w : World) (i : LoopInput) : Bool :=
  (w.beforeCommand i).commands = w.commands ∧
    (w.beforeCommand i).running.waitForModulesErrorRecovery.1 = true

def heldUpThrough : World → List LoopInput → Bool
  | _, [] => true
  | w, i :: inputs => w.heldUp i && heldUpThrough (w.loop i).1 inputs

end World

/-- A command held up by modules that fail one after the other goes on, when the checks let it
pass, as it was when the first of them failed; the modules that have failed are homed and
nothing of the recovery is left. -/
theorem interrupted_command_resumes {δ : Type} {r r' : Running δ} {passes : List (Running δ)}
    (hstate : r.command.state ≠ .empty)
    (hbefore : r.recovery.stateBeforeModuleFailed = .empty)
    (hmask : r.recovery.recoveringMovableErrorAxisMask = 0) (hwaits : r.Waits passes r')
    (p : Running δ) (hcommand : p.command = r'.command) (hrecovery : p.recovery = r'.recovery)
    (hmodules : r'.modules.LeftAlone p.modules)
    (hgo : p.waitForModulesErrorRecovery.1 = false)
    (halone : ∀ q ∈ p :: passes, q.FailsAlone) :
    p.waitForModulesErrorRecovery.2.command = r.command ∧
      p.waitForModulesErrorRecovery.2.recovery.stateBeforeModuleFailed = .empty ∧
      p.waitForModulesErrorRecovery.2.recovery.recoveringMovableErrorAxisMask = 0 ∧
      ∀ axis, (∃ q ∈ p :: passes, q.modules.failed axis) →
        p.waitForModulesErrorRecovery.2.modules.homingValid axis := by
  rw [List.forall_mem_cons] at halone
  have hinterrupted := hwaits.interruption ⟨rfl, hbefore, hmask⟩ hstate halone.2
  have hp : p = { r' with modules := p.modules } := by
    rw [← hcommand, ← hrecovery]
  have hpass := (hinterrupted.leftAlone hmodules).waitForModules hstate (hp ▸ halone.1)
  rw [← hp, hgo] at hpass
  obtain ⟨-, hover, hhomed⟩ := hpass.resolve_left fun hheld => Bool.false_ne_true hheld.1
  refine ⟨hover.command, hover.state, hover.mask, ?_⟩
  rintro axis ⟨q, hq, hfailed⟩
  apply hhomed axis
  rcases List.mem_cons.mp hq with rfl | hq
  · exact .inr hfailed
  · exact .inl ⟨q, hq, hfailed⟩

section OneFailure


instance {δ : Type} (r : Running δ) (axis : Axis) : Decidable (r.Settled axis) :=
  inferInstanceAs (Decidable (_ ∧ _))

theorem Running.failsAlone_of_settled {δ : Type} (r : Running δ) (axis : Axis)
    (h : ∀ other, other ≠ axis → r.Settled other) : r.FailsAlone := by
  intro axis' other hother hfailed
  have haxis : axis' = axis := by
    by_contra hne
    exact (h axis' hne).1 hfailed
  subst haxis
  exact ⟨(h other hother).1, fun hrecovering => absurd hrecovering (h other hother).2⟩

/-- Home finds the idler failed and the middle button pressed. -/
def idlerFailed : Running Unit where
  command := { state := .homing, error := .running, data := () }
  recovery := {}
  modules :=
    { ({} : BootInput).modules with
      idler := { Idler.powerOn with state := .homingFailed }
      userInput := UserInput.processMessage {} 1 }

/-- The idler has homed. -/
def idlerHomed : Running Unit :=
  let r := idlerFailed.waitForModulesErrorRecovery.2
  let idler := { r.modules.idler with state := .moving, homingValid := true }
  { r with modules := { r.modules with idler } }

theorem interrupted_command_resumes_home :
    idlerHomed.waitForModulesErrorRecovery.2.command = idlerFailed.command ∧
      idlerHomed.modules.homingValid .idler := by
  have hresumes := interrupted_command_resumes (r := idlerFailed) (by decide) rfl rfl
    (.pass .start idlerFailed.modules (.refl _) (by decide +kernel)) idlerHomed rfl rfl
    ⟨.refl _, .refl _, by decide +kernel, by decide +kernel⟩ (by decide +kernel) ?_
  · exact ⟨hresumes.1, by decide +kernel⟩
  · intro q hq
    refine q.failsAlone_of_settled .idler fun other hother => ?_
    rcases List.mem_cons.mp hq with rfl | hq
    · cases other <;> first | exact absurd rfl hother | decide +kernel
    · rw [List.mem_singleton.mp hq]
      cases other <;> first | exact absurd rfl hother | decide +kernel

end OneFailure

section TwoFailures

/-- Home is requested, then both axes reach the end of their way without a stall. -/
def homeUntilBothFail : List LoopInput :=
  [idlerStalls false, idlerStalls false, idlerMoveDone, (idleInput false).withRequest .home 0,
    idleInput false]

def bothRunOut : LoopInput :=
  let out : AxisInput := { pulses := [(100000, false), (100000, false), (100000, false)] }
  { beforeModules := { elapsedMs := 1000, selector := out, idler := out } }

/-- The middle button pressed twice homes the idler and the selector; the idler is done. -/
def homeBothOnRequest : List LoopInput :=
  let middle := (idleInput false).withRequest .button 1
  [bothRunOut, middle, middle, middle, idleInput false, idlerStalls false, idlerStalls false,
    idlerMoveDone, selectorStalls]

/-- When the selector is homed as well, the state the command was in has been lost. -/
theorem home_lost_after_both_failed :
    ¬ ∀ (b : BootInput) (inputs later : List LoopInput) (i : LoopInput),
      (b.run inputs).current.recovery = {} → (b.run inputs).heldUpThrough later →
      let w := b.run (inputs ++ later)
      (w.beforeCommand i).commands = w.commands →
      (w.beforeCommand i).running.waitForModulesErrorRecovery.1 = false →
      (w.beforeCommand i).running.waitForModulesErrorRecovery.2.command.state =
        (b.run inputs).topLevelState := by
  intro h
  have hlost := h {} homeUntilBothFail homeBothOnRequest selectorStalls
  revert hlost
  decide +kernel

end TwoFailures

end MmuFirmware
