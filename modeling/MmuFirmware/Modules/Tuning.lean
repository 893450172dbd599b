import MmuFirmware.Modules.Transitions

/-!
What no call of a movable changes about its axis: the acceleration and the run current are those
set from outside, and a StallGuard filter that has something to count goes on having it.
-/
namespace MmuFirmware

namespace AxisData

/-- The StallGuard filter has something to count. -/
def Armed (a : AxisData) : Prop := a.sgFilterThreshold ≠ 0

structure Tuned (a a' : AxisData) : Prop where
  acceleration : a'.acceleration = a.acceleration
  iRun : a'.iRun = a.iRun
  armed : a.Armed → a'.Armed

variable {a a' a'' : AxisData}

theorem Tuned.refl (a : AxisData) : a.Tuned a := ⟨rfl, rfl, id⟩

theorem Tuned.trans (h : a.Tuned a') (h' : a'.Tuned a'') : a.Tuned a'' :=
  ⟨h'.acceleration.trans h.acceleration, h'.iRun.trans h.iRun,
    fun harmed => h'.armed (h.armed harmed)⟩

theorem Tuned.setEnabled (h : a.Tuned a') (enabled : Bool) : a.Tuned (a'.setEnabled enabled) := by
  rw [AxisData.setEnabled]
  split <;> exact ⟨h.acceleration, h.iRun, h.armed⟩

theorem Tuned.disable (h : a.Tuned a') : a.Tuned a'.disable := by
  have hqueue : a.Tuned a'.needsQueueEmpty := ⟨h.acceleration, h.iRun, h.armed⟩
  exact hqueue.setEnabled false

theorem Tuned.initAxis (h : a.Tuned a') : a.Tuned a'.initAxis.2 := by
  have hdisable := h.disable
  rw [AxisData.initAxis, AxisData.initDriver]
  dsimp only
  split <;> exact ⟨hdisable.acceleration, hdisable.iRun, fun _ => Nat.succ_ne_zero 1⟩

theorem armed_initAxis (a : AxisData) : a.initAxis.2.Armed := by
  rw [AxisData.initAxis, AxisData.initDriver]
  dsimp only
  split <;> exact Nat.succ_ne_zero 1

theorem Tuned.checkForErrors (h : a.Tuned a') : a.Tuned a'.checkForErrors.2 := by
  rw [AxisData.checkForErrors]
  split
  · exact ⟨h.acceleration, h.iRun, h.armed⟩
  · exact h

theorem Tuned.planMoveTo (h : a.Tuned a') (pos : Int) (feedRate endRate : Nat) :
    a.Tuned (a'.planMoveTo pos feedRate endRate) := by
  have hplan (blocks : List Block) (position : Int) (topRate : Nat) :
      a.Tuned { a' with blocks, position, topRate } :=
    ⟨h.acceleration, h.iRun, h.armed⟩
  rw [AxisData.planMoveTo]
  split
  · exact ⟨h.acceleration, h.iRun, h.armed⟩
  · split <;> exact (hplan _ _ _).setEnabled true

theorem Tuned.sampleDiag (h : a.Tuned a') (diag : Bool) : a.Tuned (a'.sampleDiag diag) := by
  rw [AxisData.sampleDiag]
  split
  · exact h
  · split
    · exact ⟨h.acceleration, h.iRun, h.armed⟩
    · split
      · exact ⟨h.acceleration, h.iRun, h.armed⟩
      · exact h

theorem Tuned.pulse (h : a.Tuned a') (n : Nat) (diag : Bool) : a.Tuned (a'.pulse n diag) := by
  have hblocks (blocks : List Block) : a.Tuned { a' with blocks } :=
    ⟨h.acceleration, h.iRun, h.armed⟩
  rw [AxisData.pulse]
  split
  · exact h
  · exact (hblocks _).sampleDiag diag

theorem Tuned.tick (h : a.Tuned a') (i : AxisInput) : a.Tuned (a'.tick i) := by
  rw [AxisData.tick]
  have hread : a.Tuned { a' with registers := i.registers } :=
    ⟨h.acceleration, h.iRun, h.armed⟩
  generalize ({ a' with registers := i.registers } : AxisData) = a' at hread
  induction i.pulses generalizing a' with
  | nil => exact hread
  | cons p pulses ih => exact ih _ (hread.pulse p.1 p.2)

/-- What is done to an axis behind its movable's back, apart from the two calls that tune it. -/
theorem tuned_run (a : AxisData) {c : AxisCall} (hiRun : ∀ iRun, c ≠ .setIRun iRun)
    (hacceleration : ∀ acceleration, c ≠ .setAcceleration acceleration) : a.Tuned (c.run a) := by
  cases c with
  | tick i => exact (Tuned.refl a).tick i
  | disable => exact (Tuned.refl a).disable
  | initAxis => exact (Tuned.refl a).initAxis
  | setIRun iRun => exact absurd rfl (hiRun iRun)
  | setAcceleration acceleration => exact absurd rfl (hacceleration acceleration)
  | abortPlannedMoves | clearQueueFull | setMode => exact ⟨rfl, rfl, id⟩

theorem Armed.run (h : a.Armed) (c : AxisCall) : (c.run a).Armed := by
  cases c with
  | setIRun | setAcceleration => exact h
  | tick i => exact ((Tuned.refl a).tick i).armed h
  | disable => exact (Tuned.refl a).disable.armed h
  | initAxis => exact armed_initAxis a
  | abortPlannedMoves | clearQueueFull | setMode => exact h

end AxisData

namespace Movable

variable {ε : Type} {a : AxisData} {m : Movable ε}

/-- A function of movables leaves the tuning of the axis alone. -/
def LeavesTuned (f : Movable ε → Movable ε) : Prop := ∀ m : Movable ε, m.axis.Tuned (f m).axis

theorem tuned_planHome (h : a.Tuned m.axis) (sgThrs : UInt8) {plan : Movable ε → Movable ε}
    (hplan : LeavesTuned plan) : a.Tuned (m.planHome sgThrs plan).2.axis := by
  rw [planHome]
  dsimp only
  split
  · exact h
  · have hthreshold : a.Tuned { m.axis with sgThrs } := ⟨h.acceleration, h.iRun, h.armed⟩
    have hinit := hthreshold.initAxis
    refine AxisData.Tuned.trans ?_ (hplan _)
    exact ⟨hinit.acceleration, hinit.iRun, hinit.armed⟩

theorem tuned_initMovement (h : a.Tuned m.axis) {prepare : Movable ε → Movable ε}
    (hprepare : LeavesTuned prepare) : a.Tuned (m.initMovement prepare).2.axis := by
  have hinit := h.initAxis
  rw [initMovement]
  generalize m.axis.initAxis = r at hinit ⊢
  obtain ⟨ok, axis⟩ := r
  cases ok with
  | true => exact hinit.trans (hprepare { m with axis })
  | false => exact hinit

theorem tuned_homeFailed (h : a.Tuned m.axis) : a.Tuned m.homeFailed.axis := h.disable

theorem tuned_performMove (h : a.Tuned m.axis) {finishMove : Movable ε → Movable ε}
    (hfinish : LeavesTuned finishMove) : a.Tuned (m.performMove finishMove).axis := by
  rw [performMove]
  split
  · exact h.trans (hfinish { m with currentSlot := m.plannedSlot })
  · exact h

theorem tuned_performHomeForward (h : a.Tuned m.axis)
    (stallGuardAllowed : Movable ε → Bool → Bool) {planHomingMoveBack : Movable ε → Movable ε}
    (hplan : LeavesTuned planHomingMoveBack) :
    a.Tuned (m.performHomeForward stallGuardAllowed planHomingMoveBack).axis := by
  rw [performHomeForward]
  split
  · dsimp only
    split
    · refine AxisData.Tuned.trans ?_ (hplan _)
      exact ⟨h.acceleration, h.iRun, h.armed⟩
    · exact ⟨h.acceleration, h.iRun, h.armed⟩
  · split
    · exact tuned_homeFailed h
    · exact h

theorem tuned_performHomeBack (h : a.Tuned m.axis) (g : Globals)
    (stallGuardAllowed : Movable ε → Bool → Bool) {finish : Movable ε → Bool × Movable ε}
    (hfinish : ∀ m : Movable ε, m.axis.Tuned (finish m).2.axis) :
    a.Tuned (m.performHomeBack g stallGuardAllowed finish).axis := by
  rw [performHomeBack]
  split
  · dsimp only
    split
    · generalize hm' : ({ m with axis := _ } : Movable ε) = m'
      have hreset : a.Tuned m'.axis := by
        rw [← hm']
        exact ⟨h.acceleration, h.iRun, h.armed⟩
      have hdone := hreset.trans (hfinish m')
      split
      · exact hdone
      · exact tuned_homeFailed hdone
    · exact ⟨h.acceleration, h.iRun, h.armed⟩
  · split
    · exact tuned_homeFailed h
    · exact h

/-- The driver is asked for errors unless it has reported one already. -/
theorem tuned_checkUnlessFailed (m : Movable ε) :
    m.axis.Tuned (if m.state = .tmcFailed then m else m.checkTMC).axis := by
  split
  · exact .refl _
  · have hcheck := (AxisData.Tuned.refl m.axis).checkForErrors
    rw [checkTMC]
    generalize m.axis.checkForErrors = checked at hcheck ⊢
    obtain ⟨failed, axis⟩ := checked
    cases failed with
    | true => exact ⟨hcheck.acceleration, hcheck.iRun, hcheck.armed⟩
    | false => exact hcheck

theorem tuned_holdOn (m : Movable ε) : m.axis.Tuned m.holdOn.axis :=
  AxisData.Tuned.disable ⟨rfl, rfl, id⟩

end Movable

namespace Idler

variable {a : AxisData} {i : Idler}

theorem tuned_prepareMove (g : Globals) : Movable.LeavesTuned (prepareMoveToPlannedSlot g) :=
  fun i => (AxisData.Tuned.refl i.axis).planMoveTo _ _ _

theorem tuned_planHomingMoveForward (g : Globals) :
    Movable.LeavesTuned (planHomingMoveForward g) := by
  intro m
  have hposition (x : Int) : m.axis.Tuned (m.axis.setPosition x) := ⟨rfl, rfl, id⟩
  exact (hposition _).planMoveTo _ _ _

theorem tuned_planHomingMoveBack (g : Globals) : Movable.LeavesTuned (planHomingMoveBack g) := by
  intro m
  have hposition (x : Int) : m.axis.Tuned (m.axis.setPosition x) := ⟨rfl, rfl, id⟩
  exact (hposition _).planMoveTo _ _ _

theorem tuned_finishHoming (g : Globals) (i : Idler) :
    i.axis.Tuned (finishHomingAndPlanMoveToParkPos g i).2.axis := by
  have hposition : i.axis.Tuned (i.axis.setPosition 0) := ⟨rfl, rfl, id⟩
  rw [finishHomingAndPlanMoveToParkPos]
  dsimp only
  split
  · exact .refl _
  · split <;> exact Movable.tuned_initMovement hposition (tuned_prepareMove g)

theorem tuned_planHome (h : a.Tuned i.axis) (g : Globals) : a.Tuned (Idler.planHome i g).2.axis :=
  Movable.tuned_planHome h _ (tuned_planHomingMoveForward g)

theorem tuned_planMoveInner (i : Idler) (g : Globals) (slot : UInt8)
    (plannedOp : IdlerOperation) : i.axis.Tuned (i.planMoveInner g slot plannedOp).2.axis := by
  have hsame := AxisData.Tuned.refl i.axis
  rw [planMoveInner]
  split
  · exact hsame
  · dsimp only
    split
    · exact hsame
    · split
      · refine tuned_planHome ?_ g
        exact hsame
      · split
        · exact hsame
        · exact hsame.planMoveTo _ _ _

theorem tuned_step (i : Idler) (g : Globals) : i.axis.Tuned (i.step g).axis := by
  rw [step]
  split
  · exact .refl _
  · dsimp only
    have hcheck := Movable.tuned_checkUnlessFailed i
    generalize (if i.state = .tmcFailed then i else i.checkTMC) = i' at hcheck ⊢
    split
    · exact Movable.tuned_performMove hcheck fun _ => .refl _
    · exact Movable.tuned_performHomeForward hcheck _ (tuned_planHomingMoveBack g)
    · exact Movable.tuned_performHomeBack hcheck g _ (tuned_finishHoming g)
    · split
      · exact tuned_planHome hcheck g
      · exact hcheck
    · exact hcheck

theorem tuned_init (i : Idler) (g : Globals) : i.axis.Tuned (Idler.init i g).axis := by
  rw [init]
  split
  · exact tuned_planHome (.refl _) g
  · exact ⟨rfl, rfl, id⟩

theorem armed_call (h : i.axis.Armed) (g : Globals) (c : IdlerCall) :
    (i.call (g, c)).1.axis.Armed := by
  cases c with
  | engage | partiallyDisengage | disengage => exact (tuned_planMoveInner i g _ _).armed h
  | planHome => exact (tuned_planHome (.refl _) g).armed h
  | holdOn => exact (Movable.tuned_holdOn i).armed h
  | resume | invalidateHoming => exact h
  | step => exact (tuned_step i g).armed h
  | init => exact (tuned_init i g).armed h
  | axis c => exact h.run c

/-- Only the selector waits before it homes. -/
theorem ne_plannedHome_call (h : i.state ≠ .plannedHome) (g : Globals) (c : IdlerCall) :
    (i.call (g, c)).1.state ≠ .plannedHome := by
  cases changes_call i g c with
  | runs hsame | records hsame => exact hsame.state ▸ h
  | aborts _ hsame | holds _ hsame | resumes _ hsame =>
      rw [hsame]
      exact h
  | invalidates hstate => exact hstate ▸ h
  | plansHome hstate | setsOut _ _ _ hstate | driverFails hstate | homingFails hstate =>
      exact hstate.state ▸ nofun
  | arrives _ _ _ hstate | startsHoming _ _ _ _ hstate | turnsBack _ hstate =>
      exact hstate.state ▸ nofun
  | homes _ _ _ _ _ _ _ hmoves =>
      rcases hmoves with ⟨-, hstate, -⟩ | ⟨hstate, -⟩ <;> exact hstate.state ▸ nofun

end Idler

namespace Selector

variable {a : AxisData} {s : Selector}

theorem tuned_prepareMove (g : Globals) : Movable.LeavesTuned (prepareMoveToPlannedSlot g) :=
  fun s => (AxisData.Tuned.refl s.axis).planMoveTo _ _ _

theorem tuned_planHomingMoveBack (g : Globals) : Movable.LeavesTuned (planHomingMoveBack g) := by
  intro m
  have hposition (x : Int) : m.axis.Tuned (m.axis.setPosition x) := ⟨rfl, rfl, id⟩
  exact (hposition _).planMoveTo _ _ _

theorem tuned_finishHoming (g : Globals) (s : Selector) :
    s.axis.Tuned (finishHomingAndPlanMoveToParkPos g s).2.axis := by
  have hposition (x : Int) : s.axis.Tuned (s.axis.setPosition x) := ⟨rfl, rfl, id⟩
  rw [finishHomingAndPlanMoveToParkPos]
  dsimp only
  split
  · exact .refl _
  · split <;> exact Movable.tuned_initMovement (hposition _) (tuned_prepareMove g)

theorem tuned_planHome (h : a.Tuned s.axis) (g : Globals) :
    a.Tuned (Selector.planHome s g).2.axis :=
  Movable.tuned_planHome h _ fun _ => .refl _

theorem tuned_moveToSlot (s : Selector) (g : Globals) (finda : Bool) (slot : UInt8) :
    s.axis.Tuned (s.moveToSlot g finda slot).2.axis := by
  have hsame := AxisData.Tuned.refl s.axis
  rw [moveToSlot]
  split
  · exact hsame
  · dsimp only
    split
    · exact hsame
    · split
      · exact hsame
      · split
        · exact hsame
        · split
          · refine tuned_planHome ?_ g
            exact hsame
          · exact hsame.planMoveTo _ _ _

theorem tuned_step (s : Selector) (g : Globals) (finda idlerHomingValid : Bool) :
    s.axis.Tuned (s.step g finda idlerHomingValid).axis := by
  rw [step]
  split
  · exact .refl _
  · dsimp only
    have hcheck := Movable.tuned_checkUnlessFailed s
    generalize (if s.state = .tmcFailed then s else s.checkTMC) = s' at hcheck ⊢
    split
    · exact Movable.tuned_performMove hcheck fun s => (AxisData.Tuned.refl s.axis).disable
    · split
      · exact hcheck.planMoveTo _ _ _
      · exact hcheck
    · exact Movable.tuned_performHomeForward hcheck _ (tuned_planHomingMoveBack g)
    · exact Movable.tuned_performHomeBack hcheck g _ (tuned_finishHoming g)
    · split
      · exact tuned_planHome hcheck g
      · exact hcheck
    · exact hcheck

theorem tuned_init (s : Selector) (g : Globals) (finda : Bool) :
    s.axis.Tuned (Selector.init s g finda).axis := by
  rw [init]
  split
  · exact tuned_planHome (.refl _) g
  · exact ⟨rfl, rfl, id⟩

theorem armed_call (h : s.axis.Armed) (e : Surroundings) (c : SelectorCall) :
    (s.call (e, c)).1.axis.Armed := by
  cases c with
  | moveToSlot slot => exact (tuned_moveToSlot s _ _ slot).armed h
  | planHome => exact (tuned_planHome (.refl _) _).armed h
  | holdOn => exact (Movable.tuned_holdOn s).armed h
  | resume | invalidateHoming => exact h
  | step => exact (tuned_step s _ _ _).armed h
  | init => exact (tuned_init s _ _).armed h
  | axis c => exact h.run c

end Selector

namespace Pulley

theorem tuned_planMove (p : Pulley) (delta : Int) (feed endRate : UInt16) :
    p.axis.Tuned (p.planMove delta feed endRate).axis :=
  (AxisData.Tuned.refl p.axis).planMoveTo _ _ _

theorem tuned_step (p : Pulley) : p.axis.Tuned p.step.axis := by
  rw [step]
  split
  · exact .refl _
  · dsimp only
    have hcheck := Movable.tuned_checkUnlessFailed p
    generalize (if p.state = .tmcFailed then p else p.checkTMC) = p' at hcheck ⊢
    split
    · exact Movable.tuned_performMove hcheck fun _ => .refl _
    · exact hcheck

end Pulley

end MmuFirmware
