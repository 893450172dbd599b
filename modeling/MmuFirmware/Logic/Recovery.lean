import MmuFirmware.Logic.CommandBase
import MmuFirmware.Modules.Frame
import Mathlib.Logic.Basic

/-!
What the base class does about failed modules. As long as it remembers a failure the
command itself is not stepped; when the module has recovered the command goes on in the
state it was in, with its own data.
-/
namespace MmuFirmware

section ErrorCodes

theorem addErrorAxisBit_and (ec : ErrorCode) (axis : Axis) :
    addErrorAxisBit ec axis &&& axis.errorBit = axis.errorBit := by
  rw [addErrorAxisBit, ← UInt16.toBitVec_inj]
  ext i
  simpa using fun hbit => Or.inr hbit

theorem addErrorAxisBit_ne {v : ErrorCode} {axis : Axis} (h : v &&& axis.errorBit = 0)
    (ec : ErrorCode) : addErrorAxisBit ec axis ≠ v := by
  rintro rfl
  rw [addErrorAxisBit_and] at h
  cases axis <;> exact absurd h (by decide)

theorem checkMovable_eq_running {ε : Type} {m : Movable ε} {axis : Axis} :
    checkMovable m axis = .running ↔ ¬ m.failed := by
  have hne : ∀ ec, addErrorAxisBit ec axis ≠ .running :=
    addErrorAxisBit_ne (by cases axis <;> decide)
  rw [checkMovable, Movable.failed]
  cases m.state <;> simp [hne]

/-- A code without the axis' bit is never reported. -/
theorem checkMovable_ne {ε : Type} (m : Movable ε) {axis : Axis} {v : ErrorCode}
    (hbit : v &&& axis.errorBit = 0) (hv : v ≠ .running) : checkMovable m axis ≠ v := by
  rw [checkMovable]
  split
  · exact addErrorAxisBit_ne hbit _
  · exact addErrorAxisBit_ne hbit _
  · exact hv.symm

/-- The code of a failed homing is reported for nothing else. -/
theorem homingFailed_of_code {ε : Type} {m : Movable ε} {axis : Axis}
    (h : withoutAxisBits (checkMovable m axis) = .homingFailed) : m.state = .homingFailed := by
  rw [checkMovable] at h
  split at h
  · generalize m.tmcErrorFlags = ef at h
    obtain ⟨resetFlag, uvCp, s2g, otpw, ot⟩ := ef
    cases axis <;> cases resetFlag <;> cases uvCp <;> cases s2g <;> cases otpw <;> cases ot <;>
      exact absurd h (by decide)
  · next hstate => exact hstate
  · exact absurd h (by decide)

theorem Modules.checkMovable_eq_running {m : Modules} {axis : Axis} :
    m.checkMovable axis = .running ↔ ¬ m.failed axis := by
  cases axis <;> exact MmuFirmware.checkMovable_eq_running

theorem Modules.checkMovable_ne (m : Modules) {axis : Axis} {v : ErrorCode}
    (hbit : v &&& axis.errorBit = 0) (hv : v ≠ .running) : m.checkMovable axis ≠ v := by
  cases axis <;> exact MmuFirmware.checkMovable_ne _ hbit hv

theorem Modules.checkMovable_ne_ok (m : Modules) (axis : Axis) : m.checkMovable axis ≠ .ok :=
  m.checkMovable_ne (by cases axis <;> decide) (by decide)

end ErrorCodes

namespace Recovery

variable (rec : Recovery) (state : ProgressCode) (m : Modules)

def remembers : Prop := rec.stateBeforeModuleFailed ≠ .empty

/-- As long as a failure is remembered the command waits for the module, homes it, or has
been stopped by a panic. -/
def Blocked : Prop :=
  rec.remembers →
    state = .errInternal ∨ (state = .errWaitingForUser ∧ ∃ axis, m.failed axis) ∨
      (state = .homing ∧ ∃ axis : Axis, axis.isRecovering rec.recoveringMovableErrorAxisMask)

/-- The state the command goes on in when its module has recovered. -/
def resumed : ProgressCode :=
  if rec.stateBeforeModuleFailed = .empty then state else rec.stateBeforeModuleFailed

variable {rec state m}

theorem resumed_of_remembers (h : rec.remembers) :
    rec.resumed state = rec.stateBeforeModuleFailed := if_neg h

theorem resumed_of_not_remembers (h : ¬ rec.remembers) : rec.resumed state = state :=
  if_pos (not_not.mp h)

theorem Blocked.of_not_remembers (h : ¬ rec.remembers) : rec.Blocked state m :=
  fun hrem => absurd hrem h

theorem Blocked.proceeds (h : rec.Blocked state m) {m' : Modules} (hm : m.Proceeds m') :
    rec.Blocked state m' := by
  intro hrem
  rcases h hrem with h | ⟨hstate, axis, hfailed⟩ | h
  · exact .inl h
  · exact .inr (.inl ⟨hstate, axis, hm.failed axis hfailed⟩)
  · exact .inr (.inr h)

theorem Blocked.not_remembers (h : rec.Blocked state m) (hinternal : state ≠ .errInternal)
    (hwaiting : state ≠ .errWaitingForUser) (hhoming : state ≠ .homing) : ¬ rec.remembers := by
  intro hrem
  rcases h hrem with h | ⟨h, -⟩ | ⟨h, -⟩
  · exact hinternal h
  · exact hwaiting h
  · exact hhoming h

end Recovery

theorem Axis.isRecovering_or (axis : Axis) (mask : UInt8) :
    axis.isRecovering (mask ||| axis.recoveryMask) := by
  have hbit : (mask ||| axis.recoveryMask) &&& axis.recoveryMask = axis.recoveryMask := by
    rw [← UInt8.toBitVec_inj]
    ext i
    simpa using fun hbit => Or.inr hbit
  rw [isRecovering, hbit]
  cases axis <;> decide

namespace Running

variable {δ : Type} {r : Running δ} {axis : Axis} {ec : ErrorCode}

def Blocked (r : Running δ) : Prop := r.recovery.Blocked r.command.state r.modules

def resumed (r : Running δ) : ProgressCode := r.recovery.resumed r.command.state

/-- The command in the state it goes on in. -/
def goesOnAs (r : Running δ) : Command δ := { r.command with state := r.resumed }

section Goes

/-- A check that does not make the command wait has found the axis in order. -/
theorem goes_waitForOne
    (h : (r.waitForOneModuleErrorRecovery (r.modules.checkMovable axis) axis).1 = false) :
    (r.waitForOneModuleErrorRecovery (r.modules.checkMovable axis) axis).2.modules = r.modules ∧
      ¬ r.modules.failed axis := by
  rw [waitForOneModuleErrorRecovery] at h ⊢
  split
  · next hfailing =>
      rw [if_pos hfailing] at h
      cases h
  · next hrunning =>
      refine ⟨?_, Modules.checkMovable_eq_running.mp (not_not.mp hrunning)⟩
      split
      · split
        · split <;> rfl
        · rfl
      · rfl

theorem goes_waitForModules (h : r.waitForModulesErrorRecovery.1 = false) :
    r.waitForModulesErrorRecovery.2.modules = r.modules ∧ ∀ axis, ¬ r.modules.failed axis := by
  have hidler := @goes_waitForOne _ r .idler
  rw [waitForModulesErrorRecovery] at h ⊢
  generalize r.waitForOneModuleErrorRecovery (r.modules.checkMovable .idler) .idler = r₁
    at hidler h ⊢
  have hselector := @goes_waitForOne _ r₁.2 .selector
  dsimp only at h ⊢
  generalize r₁.2.waitForOneModuleErrorRecovery (r₁.2.modules.checkMovable .selector) .selector = r₂
    at hselector h ⊢
  have hpulley := @goes_waitForOne _ r₂.2 .pulley
  simp only [Bool.or_eq_false_iff] at h
  obtain ⟨hmodules₁, hworks₁⟩ := hidler h.1.1
  obtain ⟨hmodules₂, hworks₂⟩ := hselector h.1.2
  obtain ⟨hmodules₃, hworks₃⟩ := hpulley h.2
  rw [hmodules₁] at hworks₂
  rw [hmodules₂, hmodules₁] at hworks₃
  refine ⟨hmodules₃.trans (hmodules₂.trans hmodules₁), fun axis => ?_⟩
  cases axis with
  | idler => exact hworks₁
  | selector => exact hworks₂
  | pulley => exact hworks₃

end Goes

section Blocked

theorem failed_enterModuleFailure (ec : ErrorCode) :
    (r.enterModuleFailure ec).modules.failed axis ↔ r.modules.failed axis := by
  rw [enterModuleFailure]
  split
  · cases axis <;> rfl
  · rfl

theorem failed_failAgain (ec : ErrorCode) :
    (r.failAgain ec).modules.failed axis ↔ r.modules.failed axis := by
  rw [failAgain]
  split
  · cases axis <;> rfl
  · rfl

theorem Blocked.enterModuleFailure (h : r.Blocked) (hfailed : r.modules.failed axis) :
    (r.enterModuleFailure ec).Blocked := by
  have hstill := (failed_enterModuleFailure ec).mpr hfailed
  rw [Running.enterModuleFailure] at hstill ⊢
  split
  · next hempty =>
      rw [if_pos hempty] at hstill
      exact fun _ => .inr (.inl ⟨rfl, axis, hstill⟩)
  · exact h

theorem Blocked.failAgain (h : r.Blocked) (hfailed : r.modules.failed axis) :
    (r.failAgain ec).Blocked := by
  have hstill := (failed_failAgain ec).mpr hfailed
  rw [Running.failAgain] at hstill ⊢
  split
  · next hmask =>
      rw [if_pos hmask] at hstill
      exact fun _ => .inr (.inl ⟨rfl, axis, hstill⟩)
  · exact h

theorem Blocked.awaitHomingRequest (h : r.Blocked) :
    (r.awaitHomingRequest ec axis).Blocked := by
  rw [Running.awaitHomingRequest]
  split
  · dsimp only
    split
    · exact fun _ => .inr (.inr ⟨rfl, axis, axis.isRecovering_or _⟩)
    · exact h
  · exact h

theorem not_remembers_recovered (axis : Axis) : ¬ (r.recovered axis).recovery.remembers :=
  not_not.mpr rfl

/-- A check that does not make the command wait finds the axis in order, or recovered. -/
theorem Blocked.waitForOne (h : r.Blocked) (axis : Axis) :
    (r.waitForOneModuleErrorRecovery (r.modules.checkMovable axis) axis).2.Blocked ∧
      ((r.waitForOneModuleErrorRecovery (r.modules.checkMovable axis) axis).1 = false →
        ¬ (r.waitForOneModuleErrorRecovery
          (r.modules.checkMovable axis) axis).2.recovery.remembers ∨
        (r.waitForOneModuleErrorRecovery (r.modules.checkMovable axis) axis).2 = r ∧
          ¬ r.modules.failed axis ∧
          ¬ (r.command.state = .homing ∧
            axis.isRecovering r.recovery.recoveringMovableErrorAxisMask)) := by
  rw [waitForOneModuleErrorRecovery]
  split
  · next hfailing =>
      have hfailed : r.modules.failed axis := by
        simpa using Modules.checkMovable_eq_running.not.mp hfailing
      refine ⟨?_, by simp⟩
      exact ((h.enterModuleFailure hfailed).failAgain
        ((failed_enterModuleFailure _).mpr hfailed)).awaitHomingRequest
  · next hrunning =>
      have hworks := Modules.checkMovable_eq_running.mp (not_not.mp hrunning)
      split
      · split
        · split
          · exact ⟨.of_not_remembers (not_remembers_recovered axis),
              fun _ => .inl (not_remembers_recovered axis)⟩
          · exact ⟨h, by simp⟩
        · next hstate => exact ⟨h, fun _ => .inr ⟨rfl, hworks, fun hboth => hstate hboth.1⟩⟩
      · next hmask => exact ⟨h, fun _ => .inr ⟨rfl, hworks, fun hboth => hmask hboth.2⟩⟩

/-- The command itself is stepped only when no failure is remembered. -/
theorem Blocked.waitForModules (h : r.Blocked) :
    r.waitForModulesErrorRecovery.2.Blocked ∧
      (r.waitForModulesErrorRecovery.1 = false →
        ¬ r.waitForModulesErrorRecovery.2.recovery.remembers ∨
          r.waitForModulesErrorRecovery.2.command.state = .errInternal) := by
  obtain ⟨hidler, hidlerQuiet⟩ := h.waitForOne .idler
  rw [waitForModulesErrorRecovery]
  generalize r.waitForOneModuleErrorRecovery (r.modules.checkMovable .idler) .idler = r₁
    at hidler hidlerQuiet ⊢
  obtain ⟨hselector, hselectorQuiet⟩ := hidler.waitForOne .selector
  dsimp only
  generalize r₁.2.waitForOneModuleErrorRecovery (r₁.2.modules.checkMovable .selector) .selector = r₂
    at hselector hselectorQuiet ⊢
  obtain ⟨hpulley, hpulleyQuiet⟩ := hselector.waitForOne .pulley
  generalize r₂.2.waitForOneModuleErrorRecovery (r₂.2.modules.checkMovable .pulley) .pulley = r₃
    at hpulley hpulleyQuiet ⊢
  refine ⟨hpulley, ?_⟩
  intro hquiet
  simp only [Bool.or_eq_false_iff] at hquiet
  -- a failure still remembered has been remembered all the way, and no axis asks for it
  by_cases hrem : r₃.2.recovery.remembers
  · obtain ⟨heq₃, hworks₃, hrecovered₃⟩ := (hpulleyQuiet hquiet.2).resolve_left (not_not.mpr hrem)
    rw [heq₃] at hrem
    obtain ⟨heq₂, hworks₂, hrecovered₂⟩ :=
      (hselectorQuiet hquiet.1.2).resolve_left (not_not.mpr hrem)
    rw [heq₂] at hrem hworks₃ hrecovered₃
    obtain ⟨heq₁, hworks₁, hrecovered₁⟩ :=
      (hidlerQuiet hquiet.1.1).resolve_left (not_not.mpr hrem)
    rw [heq₁] at hrem hworks₂ hworks₃ hrecovered₂ hrecovered₃
    right
    rw [heq₃, heq₂, heq₁]
    rcases h hrem with hinternal | ⟨-, axis, hfailed⟩ | ⟨hstate, axis, hmask⟩
    · exact hinternal
    · cases axis <;> contradiction
    · cases axis with
      | pulley => exact absurd ⟨hstate, hmask⟩ hrecovered₃
      | selector => exact absurd ⟨hstate, hmask⟩ hrecovered₂
      | idler => exact absurd ⟨hstate, hmask⟩ hrecovered₁
  · exact .inl hrem

end Blocked

section Resumes

/-- The base class has kept what the command is about: its data, the state it goes on in
and what it has reached so far. -/
structure Resumes (r r' : Running δ) : Prop where
  data : r'.command.data = r.command.data
  resumed : r'.resumed = r.resumed
  modules : r.modules.Keeps r'.modules

theorem Resumes.refl (r : Running δ) : r.Resumes r := ⟨rfl, rfl, .refl _⟩

theorem keeps_holdIdlerSelector (m : Modules) : m.Keeps m.holdIdlerSelector :=
  ⟨rfl, rfl, .refl _⟩

theorem keeps_consumeEvent (m : Modules) : m.Keeps m.consumeEvent.2 := ⟨rfl, rfl, .refl _⟩

theorem keeps_planHome (m : Modules) (axis : Axis) :
    m.Keeps (m.resumeIdlerSelector.planHome axis) := by
  cases axis with
  | idler =>
      refine ⟨rfl, rfl, ?_⟩
      simpa [Modules.planHome, Movable.resume] using IdlerEngagement.Finishes.refl m.idler.ext
  | pulley | selector => exact ⟨rfl, rfl, .refl _⟩

/-- After a failure has been noticed it is remembered. -/
theorem resumes_enterModuleFailure (ec : ErrorCode) (hstate : r.resumed ≠ .empty) :
    r.Resumes (r.enterModuleFailure ec) ∧ (r.enterModuleFailure ec).recovery.remembers := by
  rw [enterModuleFailure]
  split
  · next hempty =>
      rw [resumed, Recovery.resumed, if_pos hempty] at hstate
      refine ⟨⟨rfl, ?_, keeps_holdIdlerSelector _⟩, hstate⟩
      rw [resumed, resumed, Recovery.resumed, Recovery.resumed, if_pos hempty, if_neg hstate]
  · next hrem => exact ⟨.refl r, hrem⟩

theorem resumes_failAgain (ec : ErrorCode) (hrem : r.recovery.remembers) :
    r.Resumes (r.failAgain ec) ∧ (r.failAgain ec).recovery.remembers := by
  rw [failAgain]
  split
  · refine ⟨⟨rfl, ?_, keeps_holdIdlerSelector _⟩, hrem⟩
    rw [resumed, resumed, Recovery.resumed_of_remembers hrem, Recovery.resumed_of_remembers hrem]
  · exact ⟨.refl r, hrem⟩

theorem resumes_awaitHomingRequest (hrem : r.recovery.remembers) :
    r.Resumes (r.awaitHomingRequest ec axis) := by
  have hresumed : ∀ {r' : Running δ},
      r'.recovery.stateBeforeModuleFailed = r.recovery.stateBeforeModuleFailed →
        r'.resumed = r.resumed := by
    intro r' heq
    rw [resumed, resumed, Recovery.resumed, Recovery.resumed, heq, if_neg hrem, if_neg hrem]
  rw [awaitHomingRequest]
  split
  · dsimp only
    split
    · exact ⟨rfl, hresumed rfl, (keeps_consumeEvent r.modules).trans (keeps_planHome _ axis)⟩
    · exact ⟨rfl, hresumed rfl, keeps_consumeEvent r.modules⟩
  · exact .refl r

end Resumes

section Carries

/-- States in which a command does nothing by itself. The base class may exchange them where
it has forgotten which one to go on in. -/
def Adrift (state : ProgressCode) : Prop :=
  state = .empty ∨ state = .homing ∨ state = .errWaitingForUser

/-- As `Resumes`, in any state. -/
structure Carries (r r' : Running δ) : Prop where
  data : r'.command.data = r.command.data
  resumed : r'.resumed = r.resumed ∨ Adrift r.resumed ∧ Adrift r'.resumed
  modules : r.modules.Keeps r'.modules

theorem Carries.refl (r : Running δ) : r.Carries r := ⟨rfl, .inl rfl, .refl _⟩

theorem Carries.trans {r' r'' : Running δ} (h : r.Carries r') (h' : r'.Carries r'') :
    r.Carries r'' := by
  refine ⟨h'.data.trans h.data, ?_, h.modules.trans h'.modules⟩
  rcases h.resumed with heq | hadrift
  · rw [← heq]
    exact h'.resumed
  · rcases h'.resumed with heq' | hadrift'
    · rw [heq']
      exact .inr hadrift
    · exact .inr ⟨hadrift.1, hadrift'.2⟩

theorem resumed_of_remembers (h : r.recovery.remembers) :
    r.resumed = r.recovery.stateBeforeModuleFailed := Recovery.resumed_of_remembers h

theorem resumed_of_not_remembers (h : ¬ r.recovery.remembers) : r.resumed = r.command.state :=
  Recovery.resumed_of_not_remembers h

/-- Only from the empty state a failure is not remembered. -/
theorem carries_enterModuleFailure (ec : ErrorCode) :
    r.Carries (r.enterModuleFailure ec) ∧
      ((r.enterModuleFailure ec).recovery.remembers ∨
        (r.enterModuleFailure ec).command.state = .errWaitingForUser) := by
  by_cases hstate : r.resumed = .empty
  · rw [enterModuleFailure]
    split
    · refine ⟨⟨rfl, .inr ⟨.inl hstate, .inr (.inr ?_)⟩, keeps_holdIdlerSelector _⟩, .inr rfl⟩
      next hempty =>
        rw [resumed_of_not_remembers (not_not_intro hempty)] at hstate
        exact resumed_of_not_remembers (not_not_intro hstate)
    · next hrem => exact ⟨.refl r, .inl hrem⟩
  · obtain ⟨henter, hrem⟩ := resumes_enterModuleFailure (r := r) ec hstate
    exact ⟨⟨henter.data, .inl henter.resumed, henter.modules⟩, .inl hrem⟩

theorem carries_failAgain (ec : ErrorCode)
    (hnoticed : r.recovery.remembers ∨ r.command.state = .errWaitingForUser) :
    r.Carries (r.failAgain ec) := by
  by_cases hrem : r.recovery.remembers
  · obtain ⟨hagain, -⟩ := resumes_failAgain (r := r) ec hrem
    exact ⟨hagain.data, .inl hagain.resumed, hagain.modules⟩
  · have hstate := hnoticed.resolve_left hrem
    rw [failAgain]
    split
    · refine ⟨rfl, .inl ?_, keeps_holdIdlerSelector _⟩
      rw [resumed_of_not_remembers hrem, hstate]
      exact resumed_of_not_remembers hrem
    · exact .refl r

theorem carries_awaitHomingRequest : r.Carries (r.awaitHomingRequest ec axis) := by
  by_cases hrem : r.recovery.remembers
  · have hawait : r.Resumes (r.awaitHomingRequest ec axis) := resumes_awaitHomingRequest hrem
    exact ⟨hawait.data, .inl hawait.resumed, hawait.modules⟩
  · rw [awaitHomingRequest]
    split
    · next hwaits =>
        have hresumed := (resumed_of_not_remembers hrem).trans hwaits.1
        dsimp only
        split
        · refine ⟨rfl, .inr ⟨.inr (.inr hresumed), .inr (.inl ?_)⟩,
            (keeps_consumeEvent r.modules).trans (keeps_planHome _ axis)⟩
          exact resumed_of_not_remembers hrem
        · refine ⟨rfl, .inl ?_, keeps_consumeEvent r.modules⟩
          rw [resumed_of_not_remembers hrem]
          exact resumed_of_not_remembers hrem
    · exact .refl r

theorem carries_recovered (hstate : r.command.state = .homing) : r.Carries (r.recovered axis) := by
  have hrecovered : (r.recovered axis).resumed = r.recovery.stateBeforeModuleFailed :=
    resumed_of_not_remembers (not_remembers_recovered axis)
  by_cases hrem : r.recovery.remembers
  · exact ⟨rfl, .inl (hrecovered.trans (resumed_of_remembers hrem).symm), .refl _⟩
  · refine ⟨rfl, .inr ⟨.inr (.inl ?_), .inl ?_⟩, .refl _⟩
    · exact (resumed_of_not_remembers hrem).trans hstate
    · exact hrecovered.trans (not_not.mp hrem)

theorem carries_waitForOne (ec : ErrorCode) (axis : Axis) :
    r.Carries (r.waitForOneModuleErrorRecovery ec axis).2 := by
  rw [waitForOneModuleErrorRecovery]
  split
  · obtain ⟨henter, hnoticed⟩ := carries_enterModuleFailure (r := r) ec
    exact (henter.trans (carries_failAgain ec hnoticed)).trans carries_awaitHomingRequest
  · split
    · split
      · next hhere =>
          split
          · exact carries_recovered hhere
          · exact .refl r
      · exact .refl r
    · exact .refl r

theorem carries_waitForModules : r.Carries r.waitForModulesErrorRecovery.2 :=
  ((carries_waitForOne _ _).trans (carries_waitForOne _ _)).trans (carries_waitForOne _ _)

end Carries

section Step

variable {stepInner : Command δ → Modules → Bool × Command δ × Modules}

theorem Blocked.step (h : r.Blocked) : (r.step stepInner).2.Blocked := by
  obtain ⟨hblocked, hquiet⟩ := h.waitForModules
  rw [Running.step]
  generalize r.waitForModulesErrorRecovery = w at hblocked hquiet ⊢
  dsimp only
  split
  · exact hblocked
  · next hgo =>
      rw [not_or, Bool.not_eq_true] at hgo
      exact .of_not_remembers ((hquiet hgo.1).resolve_right hgo.2)

end Step

end Running

end MmuFirmware
