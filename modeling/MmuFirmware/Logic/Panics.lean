import MmuFirmware.Logic.Recovery
import MmuFirmware.Modules.OnHold

/-!
A firmware panic is for good. The base class goes on looking after a module that fails, and the
user may have it homed again; what the command then goes on with is the panic. Only a panic that
comes while a module is being homed again can be forgotten, and only one of these.
-/
namespace MmuFirmware

namespace Recovery

/-- The failure remembered has come after the panic. -/
structure AfterPanic (rec : Recovery) : Prop where
  state : rec.stateBeforeModuleFailed = .errInternal
  error : rec.errorBeforeModuleFailed ≠ .ok

theorem AfterPanic.remembers {rec : Recovery} (h : rec.AfterPanic) : rec.remembers := by
  rw [Recovery.remembers, h.state]
  decide

end Recovery

namespace Running

variable {δ : Type}

/-- Stopped by a panic, or looking after a module that has failed since. -/
inductive Stopped (r : Running δ) : Prop
  | panicked (hstate : r.command.state = .errInternal) (herror : r.command.error ≠ .ok)
      (hfinal : ¬ r.recovery.remembers ∨ r.recovery.AfterPanic ∨
        r.recovery.recoveringMovableErrorAxisMask = 0)
  | waiting (hstate : r.command.state = .errWaitingForUser) (herror : r.command.error ≠ .ok)
      (hafter : r.recovery.AfterPanic) (hfailed : ∃ axis, r.modules.failed axis)
      (hheld : r.modules.idler.onHold = true)
  | homing (hstate : r.command.state = .homing) (herror : r.command.error ≠ .ok)
      (hafter : r.recovery.AfterPanic)
      (hrecovers : ∃ axis : Axis, axis.isRecovering r.recovery.recoveringMovableErrorAxisMask)

namespace Stopped

variable {r : Running δ} {axis : Axis} {ec : ErrorCode}

theorem state_cases (h : r.Stopped) :
    r.command.state = .errInternal ∨ r.command.state = .errWaitingForUser ∨
      r.command.state = .homing := by
  cases h with
  | panicked hstate => exact .inl hstate
  | waiting hstate => exact .inr (.inl hstate)
  | homing hstate => exact .inr (.inr hstate)

theorem error_ne_ok (h : r.Stopped) : r.command.error ≠ .ok := by
  cases h <;> assumption

/-- Another panic does not change what the base class remembers. -/
theorem final (h : r.Stopped) :
    ¬ r.recovery.remembers ∨ r.recovery.AfterPanic ∨
      r.recovery.recoveringMovableErrorAxisMask = 0 := by
  cases h with
  | panicked _ _ hfinal => exact hfinal
  | waiting _ _ hafter => exact .inr (.inl hafter)
  | homing _ _ hafter => exact .inr (.inl hafter)

theorem blocked (h : r.Stopped) : r.Blocked := by
  intro _
  cases h with
  | panicked hstate => exact .inl hstate
  | waiting hstate _ _ hfailed => exact .inr (.inl ⟨hstate, hfailed⟩)
  | homing hstate _ _ hrecovers => exact .inr (.inr ⟨hstate, hrecovers⟩)

/-- What happens to the modules meanwhile does not matter, as long as an idler on hold stays so
and what has failed then stays failed. -/
theorem modules (h : r.Stopped) {m : Modules}
    (hkeeps : r.modules.idler.onHold = true →
      m.idler.onHold = true ∧ ∀ axis, r.modules.failed axis → m.failed axis) :
    Stopped { r with modules := m } := by
  cases h with
  | panicked hstate herror hfinal => exact .panicked hstate herror hfinal
  | waiting hstate herror hafter hsome hheld =>
      obtain ⟨axis, hsome⟩ := hsome
      obtain ⟨hstays, hfailed⟩ := hkeeps hheld
      exact .waiting hstate herror hafter ⟨axis, hfailed axis hsome⟩ hstays
  | homing hstate herror hafter hrecovers => exact .homing hstate herror hafter hrecovers

theorem enterModuleFailure (h : r.Stopped) (hfailed : r.modules.failed axis) (hec : ec ≠ .ok) :
    (r.enterModuleFailure ec).Stopped ∧ (r.enterModuleFailure ec).recovery.remembers := by
  have hstill := (failed_enterModuleFailure ec).mpr hfailed
  rw [Running.enterModuleFailure] at hstill ⊢
  by_cases hempty : r.recovery.stateBeforeModuleFailed = .empty
  · rw [if_pos hempty] at hstill ⊢
    have hnone : ¬ r.recovery.AfterPanic := fun hafter => hafter.remembers hempty
    cases h with
    | panicked hstate herror =>
        have hafter : Recovery.AfterPanic
            { r.recovery with
              stateBeforeModuleFailed := r.command.state
              errorBeforeModuleFailed := r.command.error } := ⟨hstate, herror⟩
        exact ⟨.waiting rfl hec hafter ⟨axis, hstill⟩ rfl, hafter.remembers⟩
    | waiting _ _ hafter => exact absurd hafter hnone
    | homing _ _ hafter => exact absurd hafter hnone
  · rw [if_neg hempty]
    exact ⟨h, hempty⟩

theorem failAgain (h : r.Stopped) (hrem : r.recovery.remembers) (hfailed : r.modules.failed axis)
    (hec : ec ≠ .ok) : (r.failAgain ec).Stopped := by
  have hstill := (failed_failAgain ec).mpr hfailed
  rw [Running.failAgain] at hstill ⊢
  split
  · next hmask =>
      rw [if_pos hmask] at hstill
      have hafter := (h.final.resolve_left (not_not_intro hrem)).resolve_right hmask
      exact .waiting rfl hec hafter ⟨axis, hstill⟩ rfl
  · exact h

theorem awaitHomingRequest (h : r.Stopped) : (r.awaitHomingRequest ec axis).Stopped := by
  rw [Running.awaitHomingRequest]
  split
  · next hwaits =>
      cases h with
      | waiting hstate herror hafter hfailed hheld =>
          dsimp only
          split
          · have hrunning : ErrorCode.running ≠ .ok := by decide
            exact .homing rfl hrunning ⟨hafter.state, hafter.error⟩ ⟨axis, axis.isRecovering_or _⟩
          · obtain ⟨failing, hfailing⟩ := hfailed
            exact .waiting hstate herror hafter
              ⟨failing, by cases failing <;> exact hfailing⟩ hheld
      | panicked hstate => exact absurd (hstate.symm.trans hwaits.1) (by decide)
      | homing hstate => exact absurd (hstate.symm.trans hwaits.1) (by decide)
  · exact h

/-- What has recovered goes on in the panic. -/
theorem recovered (h : r.Stopped) (hstate : r.command.state = .homing) :
    (r.recovered axis).Stopped := by
  cases h with
  | homing _ _ hafter =>
      exact .panicked hafter.state hafter.error (.inl (not_remembers_recovered axis))
  | panicked hstate' => exact absurd (hstate'.symm.trans hstate) (by decide)
  | waiting hstate' => exact absurd (hstate'.symm.trans hstate) (by decide)

theorem waitForOne (h : r.Stopped) (axis : Axis) :
    (r.waitForOneModuleErrorRecovery (r.modules.checkMovable axis) axis).2.Stopped := by
  rw [waitForOneModuleErrorRecovery]
  split
  · next hfailing =>
      have hfailed : r.modules.failed axis := by
        simpa using Modules.checkMovable_eq_running.not.mp hfailing
      have hec := r.modules.checkMovable_ne_ok axis
      obtain ⟨hentered, hrem⟩ := h.enterModuleFailure hfailed hec
      have hagain := hentered.failAgain hrem ((failed_enterModuleFailure _).mpr hfailed) hec
      exact hagain.awaitHomingRequest
  · split
    · split
      · next hstate =>
          split
          · exact h.recovered hstate
          · exact h
      · exact h
    · exact h

theorem waitForModules (h : r.Stopped) : r.waitForModulesErrorRecovery.2.Stopped :=
  ((h.waitForOne .idler).waitForOne .selector).waitForOne .pulley

/-- A stopped command is never stepped itself: whatever it would do, the base class has the step
to itself. -/
theorem step_eq (h : r.Stopped) (stepInner : Command δ → Modules → Bool × Command δ × Modules) :
    r.step stepInner = (true, r.waitForModulesErrorRecovery.2) := by
  have hstopped := h.waitForModules
  obtain ⟨-, hquiet⟩ := h.blocked.waitForModules
  rw [Running.step]
  generalize r.waitForModulesErrorRecovery = w at hstopped hquiet ⊢
  dsimp only
  rw [if_pos]
  by_cases hwaits : w.1 = true
  · exact .inl hwaits
  · right
    rcases hquiet (Bool.not_eq_true _ ▸ hwaits) with hnone | hstate
    · cases hstopped with
      | panicked hstate => exact hstate
      | waiting _ _ hafter => exact absurd hafter.remembers hnone
      | homing _ _ hafter => exact absurd hafter.remembers hnone
    · exact hstate

end Stopped

section Pulley

variable {r : Running δ} {axis : Axis}

theorem pulley_awaitHomingRequest (ec : ErrorCode) :
    (r.awaitHomingRequest ec axis).modules.pulley.axis.blocks = r.modules.pulley.axis.blocks := by
  rw [awaitHomingRequest]
  split
  · dsimp only
    split
    · cases axis with
      | idler | selector => rfl
      | pulley =>
          simp only [Modules.planHome, Movable.planHome]
          split
          · rfl
          · exact blocks_initAxis _
    · rfl
  · rfl

/-- The base class homes a failed module, which for the pulley is no move. -/
theorem pulley_waitForOne (ec : ErrorCode) :
    (r.waitForOneModuleErrorRecovery ec axis).2.modules.pulley.axis.blocks =
      r.modules.pulley.axis.blocks := by
  have henter : (r.enterModuleFailure ec).modules.pulley.axis.blocks =
      r.modules.pulley.axis.blocks := by
    rw [enterModuleFailure]
    split <;> rfl
  have hagain : ((r.enterModuleFailure ec).failAgain ec).modules.pulley.axis.blocks =
      (r.enterModuleFailure ec).modules.pulley.axis.blocks := by
    rw [failAgain]
    split <;> rfl
  rw [waitForOneModuleErrorRecovery]
  split
  · exact (pulley_awaitHomingRequest ec).trans (hagain.trans henter)
  · split
    · split
      · split <;> rfl
      · rfl
    · rfl

theorem pulley_waitForModules :
    r.waitForModulesErrorRecovery.2.modules.pulley.axis.blocks = r.modules.pulley.axis.blocks :=
  (pulley_waitForOne _).trans ((pulley_waitForOne _).trans (pulley_waitForOne _))

end Pulley

end Running

end MmuFirmware
