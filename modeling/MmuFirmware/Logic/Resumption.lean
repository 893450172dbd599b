import MmuFirmware.Logic.Recovery

/-!
A command held up by failed modules. As long as the modules fail one after the other, the
command goes on exactly where it was when the first of them failed, and nothing of the
recovery is left.
-/
namespace MmuFirmware

namespace Movable

variable {ε : Type}

/-- Nothing is asked of the movable: a failure stays, and so does a valid homing unless the
movable fails. -/
structure LeftAlone (m m' : Movable ε) : Prop where
  failed : m.failed → m'.failed
  homingValid : m.homingValid = true → m'.homingValid = true ∨ m'.failed

theorem LeftAlone.refl (m : Movable ε) : m.LeftAlone m := ⟨id, .inl⟩

theorem LeftAlone.trans {m m' m'' : Movable ε} (h : m.LeftAlone m') (h' : m'.LeftAlone m'') :
    m.LeftAlone m'' := by
  refine ⟨fun hfailed => h'.failed (h.failed hfailed), fun hvalid => ?_⟩
  rcases h.homingValid hvalid with hvalid | hfailed
  · exact h'.homingValid hvalid
  · exact .inr (h'.failed hfailed)

theorem leftAlone_of_eq {m m' : Movable ε} (hstate : m'.state = m.state)
    (hvalid : m'.homingValid = m.homingValid) : m.LeftAlone m' := by
  refine ⟨?_, fun h => .inl (hvalid.trans h)⟩
  rw [failed, failed, hstate]
  exact id

end Movable

namespace Axis

/-- The order of the checks in `WaitForModulesErrorRecovery`. -/
def checkedBefore : Axis → Axis → Bool
  | .idler, .selector | .idler, .pulley | .selector, .pulley => true
  | _, _ => false

theorem not_checkedBefore {axis other : Axis} (h : other.checkedBefore axis) :
    ¬ axis.checkedBefore other := by
  cases axis <;> cases other <;> revert h <;> decide

theorem isRecovering_zero (axis : Axis) : axis.isRecovering 0 = false := by
  cases axis <;> decide

theorem isRecovering_recoveryMask {axis axis' : Axis} :
    axis'.isRecovering axis.recoveryMask = true ↔ axis' = axis := by
  cases axis <;> cases axis' <;> decide

theorem recoveryMask_and_not (axis : Axis) : axis.recoveryMask &&& ~~~axis.recoveryMask = 0 := by
  cases axis <;> decide

end Axis

namespace Modules

def LeftAlone (m m' : Modules) : Prop :=
  m.pulley.LeftAlone m'.pulley ∧ m.selector.LeftAlone m'.selector ∧ m.idler.LeftAlone m'.idler

theorem LeftAlone.failed {m m' : Modules} (h : m.LeftAlone m') {axis : Axis}
    (hfailed : m.failed axis) : m'.failed axis := by
  cases axis with
  | pulley => exact h.1.failed hfailed
  | selector => exact h.2.1.failed hfailed
  | idler => exact h.2.2.failed hfailed

theorem LeftAlone.homingValid {m m' : Modules} (h : m.LeftAlone m') {axis : Axis}
    (hvalid : m.homingValid axis = true) : m'.homingValid axis = true ∨ m'.failed axis := by
  cases axis with
  | pulley => exact h.1.homingValid hvalid
  | selector => exact h.2.1.homingValid hvalid
  | idler => exact h.2.2.homingValid hvalid

/-- The other modules have neither failed nor recovered. -/
def SameBut (axis : Axis) (m m' : Modules) : Prop :=
  ∀ other, other ≠ axis →
    (m'.failed other ↔ m.failed other) ∧ m'.homingValid other = m.homingValid other

theorem SameBut.refl (axis : Axis) (m : Modules) : m.SameBut axis m := fun _ _ => ⟨.rfl, rfl⟩

theorem SameBut.trans {axis : Axis} {m m' m'' : Modules} (h : SameBut axis m m')
    (h' : SameBut axis m' m'') : SameBut axis m m'' := fun other hother =>
  ⟨(h' other hother).1.trans (h other hother).1, (h' other hother).2.trans (h other hother).2⟩

theorem sameBut_holdIdlerSelector (axis : Axis) (m : Modules) :
    m.SameBut axis m.holdIdlerSelector := by
  intro other _
  cases other <;> exact ⟨.rfl, rfl⟩

theorem sameBut_consumeEvent (axis : Axis) (m : Modules) :
    m.SameBut axis m.consumeEvent.2 := by
  intro other _
  cases other <;> exact ⟨.rfl, rfl⟩

theorem sameBut_planHome (axis : Axis) (m : Modules) :
    m.SameBut axis (m.resumeIdlerSelector.planHome axis) := by
  intro other hother
  cases axis <;> cases other <;> first | exact absurd rfl hother | exact ⟨.rfl, rfl⟩

end Modules

namespace Running

variable {δ : Type} (r : Running δ)

/-- `CheckMovable` for one module and what follows from it. -/
def check (axis : Axis) : Bool × Running δ :=
  r.waitForOneModuleErrorRecovery (r.modules.checkMovable axis) axis

/-- The command as it was when the first module failed. -/
structure Undisturbed (c : Command δ) : Prop where
  command : r.command = c
  state : r.recovery.stateBeforeModuleFailed = .empty
  mask : r.recovery.recoveringMovableErrorAxisMask = 0

/-- One module has failed and waits for the user, or has been told to home. -/
structure HeldUp (c : Command δ) (axis : Axis) : Prop where
  command : { r.command with state := c.state, error := c.error } = c
  state : r.recovery.stateBeforeModuleFailed = c.state
  error : r.recovery.errorBeforeModuleFailed = c.error
  waits :
    r.command.state = .errWaitingForUser ∧ r.modules.failed axis ∧
        (r.recovery.recoveringMovableErrorAxisMask = 0 ∨
          r.recovery.recoveringMovableErrorAxisMask = axis.recoveryMask) ∨
      r.command.state = .homing ∧ r.recovery.recoveringMovableErrorAxisMask = axis.recoveryMask

/-- A module is found failed only where no other has failed, and none is still being
recovered by the time of its check. -/
def FailsAlone : Prop :=
  ∀ axis other, other ≠ axis → r.modules.failed axis →
    ¬ r.modules.failed other ∧
      (other.isRecovering r.recovery.recoveringMovableErrorAxisMask →
        other.checkedBefore axis ∧ r.command.state = .homing ∧ r.modules.homingValid other)

/-- The checks find nothing to do for the module. -/
def Settled (axis : Axis) : Prop :=
  ¬ r.modules.failed axis ∧ ¬ axis.isRecovering r.recovery.recoveringMovableErrorAxisMask

variable {r} {axis : Axis} {c : Command δ}

section Check

theorem Settled.check (h : r.Settled axis) : r.check axis = (false, r) := by
  rw [Running.check, waitForOneModuleErrorRecovery, if_neg, if_neg h.2]
  rw [not_not]
  exact Modules.checkMovable_eq_running.mpr h.1

theorem waitForModules_eq_checks :
    r.waitForModulesErrorRecovery =
      ((r.check .idler).1 || ((r.check .idler).2.check .selector).1 ||
          (((r.check .idler).2.check .selector).2.check .pulley).1,
        (((r.check .idler).2.check .selector).2.check .pulley).2) := rfl

/-- Where one module needs attention, only its check matters. -/
theorem waitForModules_eq_check (hbefore : ∀ other, other ≠ axis → r.Settled other)
    (hafter : ∀ other, other ≠ axis → (r.check axis).2.Settled other) :
    r.waitForModulesErrorRecovery = r.check axis := by
  rw [waitForModules_eq_checks]
  cases axis with
  | idler => simp [(hafter .selector (by decide)).check, (hafter .pulley (by decide)).check]
  | selector => simp [(hbefore .idler (by decide)).check, (hafter .pulley (by decide)).check]
  | pulley => simp [(hbefore .idler (by decide)).check, (hbefore .selector (by decide)).check]

theorem waitForModules_of_settled (h : ∀ axis, r.Settled axis) :
    r.waitForModulesErrorRecovery = (false, r) := by
  have hcheck := (h .idler).check
  have heq : r.waitForModulesErrorRecovery = r.check .idler := by
    refine waitForModules_eq_check (fun other _ => h other) fun other _ => ?_
    rw [hcheck]
    exact h other
  rw [heq, hcheck]

/-- A module checked without waiting, and nothing to do for those before it. -/
theorem waitForModules_of_check {r' : Running δ} (hcheck : r.check axis = (false, r'))
    (hsettled : r'.Settled axis)
    (hbefore : ∀ other : Axis, other.checkedBefore axis → r.Settled other ∧ r'.Settled other) :
    r.waitForModulesErrorRecovery = r'.waitForModulesErrorRecovery := by
  rw [waitForModules_eq_checks, waitForModules_eq_checks]
  cases axis with
  | idler => simp [hcheck, hsettled.check]
  | selector =>
      obtain ⟨hidler, hidler'⟩ := hbefore .idler rfl
      simp [hidler.check, hidler'.check, hcheck, hsettled.check]
  | pulley =>
      obtain ⟨hidler, hidler'⟩ := hbefore .idler rfl
      obtain ⟨hselector, hselector'⟩ := hbefore .selector rfl
      simp [hidler.check, hidler'.check, hselector.check, hselector'.check, hcheck, hsettled.check]

theorem check_of_failed (h : r.modules.failed axis) :
    r.check axis =
      (true, ((r.enterModuleFailure (r.modules.checkMovable axis)).failAgain
        (r.modules.checkMovable axis)).awaitHomingRequest (r.modules.checkMovable axis) axis) := by
  rw [Running.check, waitForOneModuleErrorRecovery, if_pos]
  exact fun hrunning => Modules.checkMovable_eq_running.mp hrunning h

theorem sameBut_enterModuleFailure (axis : Axis) (ec : ErrorCode) :
    r.modules.SameBut axis (r.enterModuleFailure ec).modules := by
  rw [enterModuleFailure]
  split
  · exact Modules.sameBut_holdIdlerSelector axis r.modules
  · exact .refl axis _

theorem sameBut_failAgain (axis : Axis) (ec : ErrorCode) :
    r.modules.SameBut axis (r.failAgain ec).modules := by
  rw [failAgain]
  split
  · exact Modules.sameBut_holdIdlerSelector axis r.modules
  · exact .refl axis _

theorem sameBut_awaitHomingRequest (axis : Axis) (ec : ErrorCode) :
    r.modules.SameBut axis (r.awaitHomingRequest ec axis).modules := by
  rw [awaitHomingRequest]
  split
  · dsimp only
    split
    · exact (Modules.sameBut_consumeEvent axis r.modules).trans
        (Modules.sameBut_planHome axis _)
    · exact Modules.sameBut_consumeEvent axis r.modules
  · exact .refl axis _

theorem sameBut_check_of_failed (h : r.modules.failed axis) :
    r.modules.SameBut axis (r.check axis).2.modules := by
  rw [check_of_failed h]
  exact ((sameBut_enterModuleFailure axis _).trans (sameBut_failAgain axis _)).trans
    (sameBut_awaitHomingRequest axis _)

end Check

section HeldUp

theorem HeldUp.not_recovering (h : r.HeldUp c axis) {other : Axis} (hother : other ≠ axis) :
    ¬ other.isRecovering r.recovery.recoveringMovableErrorAxisMask := by
  have hzero : ¬ other.isRecovering 0 := by simp [Axis.isRecovering_zero]
  have hbit : ¬ other.isRecovering axis.recoveryMask :=
    fun h => hother (Axis.isRecovering_recoveryMask.mp h)
  rcases h.waits with ⟨-, -, hmask | hmask⟩ | ⟨-, hmask⟩
  · rwa [hmask]
  · rwa [hmask]
  · rwa [hmask]

theorem Undisturbed.not_recovering (h : r.Undisturbed c) (other : Axis) :
    ¬ other.isRecovering r.recovery.recoveringMovableErrorAxisMask := by
  rw [h.mask, Axis.isRecovering_zero]
  decide

theorem Undisturbed.enterModuleFailure (h : r.Undisturbed c) (hfailed : r.modules.failed axis)
    (ec : ErrorCode) : (r.enterModuleFailure ec).HeldUp c axis := by
  have hstill : (r.enterModuleFailure ec).modules.failed axis :=
    (failed_enterModuleFailure ec).mpr hfailed
  rw [Running.enterModuleFailure, if_pos h.state] at hstill ⊢
  obtain ⟨rfl, -, hmask⟩ := h
  exact ⟨rfl, rfl, rfl, .inl ⟨rfl, hstill, .inl hmask⟩⟩

theorem HeldUp.enterModuleFailure (h : r.HeldUp c axis) (hc : c.state ≠ .empty) (ec : ErrorCode) :
    r.enterModuleFailure ec = r := by
  rw [Running.enterModuleFailure, if_neg]
  rwa [h.state]

theorem HeldUp.failAgain (h : r.HeldUp c axis) (hfailed : r.modules.failed axis)
    (ec : ErrorCode) : (r.failAgain ec).HeldUp c axis := by
  have hstill : (r.failAgain ec).modules.failed axis := (failed_failAgain ec).mpr hfailed
  rw [Running.failAgain] at hstill ⊢
  split
  · next hmask =>
      rw [if_pos hmask] at hstill
      refine ⟨h.command, h.state, h.error, .inl ⟨rfl, hstill, .inr ?_⟩⟩
      rcases h.waits with ⟨-, -, hzero | hbit⟩ | ⟨-, hbit⟩
      · exact absurd hzero hmask
      · exact hbit
      · exact hbit
  · exact h

theorem HeldUp.awaitHomingRequest (h : r.HeldUp c axis) (ec : ErrorCode) :
    (r.awaitHomingRequest ec axis).HeldUp c axis := by
  rw [Running.awaitHomingRequest]
  split
  · next hwaits =>
      dsimp only
      split
      · refine ⟨h.command, h.state, h.error, .inr ⟨rfl, ?_⟩⟩
        have hmask := (h.waits.resolve_right fun hhoming =>
          absurd (hwaits.1.symm.trans hhoming.1) (by decide)).2.2
        rcases hmask with hmask | hmask
        · rw [hmask]
          cases axis <;> rfl
        · rw [hmask]
          cases axis <;> rfl
      · refine ⟨h.command, h.state, h.error, ?_⟩
        rcases h.waits with ⟨hstate, hfailed, hmask⟩ | hhoming
        · refine .inl ⟨hstate, ?_, hmask⟩
          cases axis <;> exact hfailed
        · exact .inr hhoming
  · exact h

/-- The check of a failed module holds the command up, whether for the first time or again. -/
theorem heldUp_check_of_failed (h : r.Undisturbed c ∨ r.HeldUp c axis) (hc : c.state ≠ .empty)
    (hfailed : r.modules.failed axis) : (r.check axis).2.HeldUp c axis := by
  have henter : (r.enterModuleFailure (r.modules.checkMovable axis)).HeldUp c axis := by
    rcases h with h | h
    · exact h.enterModuleFailure hfailed _
    · rwa [h.enterModuleFailure hc]
  rw [check_of_failed hfailed]
  exact (henter.failAgain ((failed_enterModuleFailure _).mpr hfailed) _).awaitHomingRequest _

theorem waitForModules_of_failed (h : r.Undisturbed c ∨ r.HeldUp c axis) (hc : c.state ≠ .empty)
    (hfailed : r.modules.failed axis) (hothers : ∀ other, other ≠ axis → ¬ r.modules.failed other) :
    r.waitForModulesErrorRecovery.1 = true ∧
      r.waitForModulesErrorRecovery.2.HeldUp c axis ∧
      r.modules.SameBut axis r.waitForModulesErrorRecovery.2.modules := by
  have hheld := heldUp_check_of_failed h hc hfailed
  have hsame := sameBut_check_of_failed hfailed
  have heq : r.waitForModulesErrorRecovery = r.check axis := by
    refine waitForModules_eq_check (fun other hother => ⟨hothers other hother, ?_⟩)
      fun other hother => ⟨fun hother' => hothers other hother ?_, hheld.not_recovering hother⟩
    · rcases h with h | h
      · exact h.not_recovering other
      · exact h.not_recovering hother
    · exact (hsame other hother).1.mp hother'
  rw [heq]
  exact ⟨by rw [check_of_failed hfailed], hheld, hsame⟩

/-- A module told to home holds the command up until its homing is valid. -/
theorem HeldUp.check_of_not_failed (h : r.HeldUp c axis) (hfailed : ¬ r.modules.failed axis) :
    r.check axis = if r.modules.homingValid axis then (false, r.recovered axis) else (true, r) := by
  obtain ⟨hstate, hmask⟩ := h.waits.resolve_left fun hwaits => hfailed hwaits.2.1
  rw [Running.check, waitForOneModuleErrorRecovery, if_neg, if_pos, if_pos hstate]
  · rw [hmask]
    exact Axis.isRecovering_recoveryMask.mpr rfl
  · exact not_not.mpr (Modules.checkMovable_eq_running.mpr hfailed)

theorem HeldUp.recovered (h : r.HeldUp c axis) (hfailed : ¬ r.modules.failed axis) :
    (r.recovered axis).Undisturbed c := by
  obtain ⟨-, hmask⟩ := h.waits.resolve_left fun hwaits => hfailed hwaits.2.1
  refine ⟨?_, rfl, ?_⟩
  · have hcommand := h.command
    rw [← h.state, ← h.error] at hcommand
    exact hcommand
  · show r.recovery.recoveringMovableErrorAxisMask &&& ~~~axis.recoveryMask = 0
    rw [hmask, Axis.recoveryMask_and_not]

end HeldUp

section Passes

/-- Where the command stands between two passes over the modules; those of `seen` have been
found failed before. -/
inductive Interruption (r : Running δ) (c : Command δ) (seen : Axis → Prop) : Prop
  | undisturbed (h : r.Undisturbed c)
      (hhomed : ∀ other, seen other → r.modules.homingValid other ∨ r.modules.failed other)
  | heldUp (axis : Axis) (h : r.HeldUp c axis)
      (hhomed : ∀ other, seen other → other ≠ axis →
        r.modules.homingValid other ∨ r.modules.failed other)

theorem HeldUp.leftAlone (h : r.HeldUp c axis) {m : Modules} (hm : r.modules.LeftAlone m) :
    ({ r with modules := m } : Running δ).HeldUp c axis := by
  refine ⟨h.command, h.state, h.error, ?_⟩
  rcases h.waits with ⟨hstate, hfailed, hmask⟩ | hhoming
  · exact .inl ⟨hstate, hm.failed hfailed, hmask⟩
  · exact .inr hhoming

variable {seen : Axis → Prop}

theorem Interruption.leftAlone (h : r.Interruption c seen) {m : Modules}
    (hm : r.modules.LeftAlone m) :
    ({ r with modules := m } : Running δ).Interruption c fun axis => seen axis ∨ m.failed axis := by
  have hkeeps : ∀ {other}, r.modules.homingValid other ∨ r.modules.failed other →
      m.homingValid other ∨ m.failed other := by
    rintro other (hvalid | hfailed)
    · exact hm.homingValid hvalid
    · exact .inr (hm.failed hfailed)
  cases h with
  | undisturbed h hhomed =>
      refine .undisturbed ⟨h.command, h.state, h.mask⟩ ?_
      rintro other (hseen | hfailed)
      · exact hkeeps (hhomed other hseen)
      · exact .inr hfailed
  | heldUp axis h hhomed =>
      refine .heldUp axis (h.leftAlone hm) ?_
      rintro other (hseen | hfailed) hother
      · exact hkeeps (hhomed other hseen hother)
      · exact .inr hfailed

/-- A pass that finds just one module failed. -/
theorem Interruption.waitForModules_of_failed (h : r.Undisturbed c ∨ r.HeldUp c axis)
    (hhomed : ∀ other, seen other → other ≠ axis →
      r.modules.homingValid other ∨ r.modules.failed other)
    (hc : c.state ≠ .empty) (hfailed : r.modules.failed axis)
    (hothers : ∀ other, other ≠ axis → ¬ r.modules.failed other) :
    r.waitForModulesErrorRecovery.1 = true ∧
      r.waitForModulesErrorRecovery.2.Interruption c seen := by
  obtain ⟨hwaits, hheld, hsame⟩ := Running.waitForModules_of_failed h hc hfailed hothers
  refine ⟨hwaits, .heldUp axis hheld fun other hseen hother => .inl ?_⟩
  rw [(hsame other hother).2]
  exact (hhomed other hseen hother).resolve_right (hothers other hother)

/-- A pass that begins with no recovery pending. -/
theorem Undisturbed.waitForModules (h : r.Undisturbed c) (hc : c.state ≠ .empty)
    (halone : ∀ axis other, other ≠ axis → r.modules.failed axis → ¬ r.modules.failed other)
    (hhomed : ∀ other, seen other → r.modules.homingValid other ∨ r.modules.failed other) :
    r.waitForModulesErrorRecovery.1 = true ∧
        r.waitForModulesErrorRecovery.2.Interruption c seen ∨
      r.waitForModulesErrorRecovery.1 = false ∧ r.waitForModulesErrorRecovery.2.Undisturbed c ∧
        ∀ other, seen other → r.waitForModulesErrorRecovery.2.modules.homingValid other := by
  by_cases hany : ∃ axis, r.modules.failed axis
  · obtain ⟨axis, hfailed⟩ := hany
    exact .inl (Interruption.waitForModules_of_failed (.inl h) (fun other hseen _ => hhomed other hseen)
      hc hfailed fun other hother => halone axis other hother hfailed)
  · rw [not_exists] at hany
    rw [waitForModules_of_settled fun axis => ⟨hany axis, h.not_recovering axis⟩]
    exact .inr ⟨rfl, h, fun other hseen => (hhomed other hseen).resolve_right (hany other)⟩

/-- What one pass does: the command is held up, or it goes on as it was with every module
homed that has failed. -/
theorem Interruption.waitForModules (h : r.Interruption c seen) (hc : c.state ≠ .empty)
    (halone : r.FailsAlone) :
    r.waitForModulesErrorRecovery.1 = true ∧
        r.waitForModulesErrorRecovery.2.Interruption c seen ∨
      r.waitForModulesErrorRecovery.1 = false ∧ r.waitForModulesErrorRecovery.2.Undisturbed c ∧
        ∀ other, seen other → r.waitForModulesErrorRecovery.2.modules.homingValid other := by
  have hfails : ∀ axis other, other ≠ axis → r.modules.failed axis → ¬ r.modules.failed other :=
    fun axis other hother hfailed => (halone axis other hother hfailed).1
  cases h with
  | undisturbed h hhomed => exact h.waitForModules hc hfails hhomed
  | heldUp axis h hhomed =>
      by_cases hfailed : r.modules.failed axis
      · exact .inl (Interruption.waitForModules_of_failed (.inr h) hhomed hc hfailed
          fun other hother => hfails axis other hother hfailed)
      · have hrecovering : axis.isRecovering r.recovery.recoveringMovableErrorAxisMask := by
          rw [(h.waits.resolve_left fun hwaits => hfailed hwaits.2.1).2]
          exact Axis.isRecovering_recoveryMask.mpr rfl
        have hcheck := h.check_of_not_failed hfailed
        split at hcheck
        · next hvalid =>
            -- the rest of the pass is one with no recovery pending
            have hover := h.recovered hfailed
            rw [waitForModules_of_check hcheck ⟨hfailed, hover.not_recovering axis⟩ fun other hother => ?_]
            · refine hover.waitForModules hc hfails fun other hseen => ?_
              by_cases hother : other = axis
              · exact .inl (hother ▸ hvalid)
              · exact hhomed other hseen hother
            · have hne : other ≠ axis := by
                rintro rfl
                cases other <;> cases hother
              have hworks : ¬ r.modules.failed other := by
                intro hother'
                have hearlier := ((halone other axis hne.symm hother').2 hrecovering).1
                exact Axis.not_checkedBefore hother hearlier
              exact ⟨⟨hworks, h.not_recovering hne⟩, ⟨hworks, hover.not_recovering other⟩⟩
        · next hinvalid =>
            have hworks : ∀ other, ¬ r.modules.failed other := by
              intro other hother'
              by_cases hother : other = axis
              · exact hfailed (hother ▸ hother')
              · exact hinvalid ((halone other axis (Ne.symm hother) hother').2 hrecovering).2.2
            have hsettled : ∀ other, other ≠ axis → r.Settled other := fun other hother =>
              ⟨hworks other, h.not_recovering hother⟩
            rw [waitForModules_eq_check hsettled (by rwa [hcheck]), hcheck]
            exact .inl ⟨rfl, .heldUp axis h hhomed⟩

/-- The command is held up by passes over the modules, with whatever the modules, the buttons
and the printer do in between; the states in which the passes began are kept, the latest
first. -/
inductive Waits (r : Running δ) : List (Running δ) → Running δ → Prop
  | start : Waits r [] r
  | pass {passes : List (Running δ)} {r' : Running δ} (h : Waits r passes r') (m : Modules)
      (hm : r'.modules.LeftAlone m)
      (hwaits : ({ r' with modules := m } : Running δ).waitForModulesErrorRecovery.1 = true) :
      Waits r ({ r' with modules := m } :: passes)
        ({ r' with modules := m } : Running δ).waitForModulesErrorRecovery.2

theorem Interruption.congr (h : r.Interruption c seen) {seen' : Axis → Prop}
    (hseen : ∀ axis, seen' axis → seen axis) : r.Interruption c seen' := by
  cases h with
  | undisturbed h hhomed => exact .undisturbed h fun other hother => hhomed other (hseen other hother)
  | heldUp axis h hhomed =>
      exact .heldUp axis h fun other hother => hhomed other (hseen other hother)

theorem Waits.interruption {passes : List (Running δ)} {r' : Running δ} (h : r.Waits passes r')
    (hstart : r.Undisturbed c) (hc : c.state ≠ .empty) (halone : ∀ p ∈ passes, p.FailsAlone) :
    r'.Interruption c fun axis => ∃ p ∈ passes, p.modules.failed axis := by
  induction h with
  | start => exact .undisturbed hstart (by simp)
  | pass _ m hm hwaits ih =>
      rw [List.forall_mem_cons] at halone
      have hpass := ((ih halone.2).leftAlone hm).waitForModules hc halone.1
      rw [hwaits] at hpass
      refine (hpass.resolve_right fun hgo => Bool.false_ne_true hgo.1.symm).2.congr ?_
      intro axis hany
      rcases hany with ⟨p, hp, hfailed⟩
      rcases List.mem_cons.mp hp with rfl | hp
      · exact .inr hfailed
      · exact .inl ⟨p, hp, hfailed⟩

end Passes

end Running

end MmuFirmware
