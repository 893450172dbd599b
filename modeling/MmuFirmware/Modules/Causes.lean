import MmuFirmware.Modules.Plans

/-!
What is on record of the errors of the drivers. A driver that has failed has a flag set, unless
its registers did not tell a cause when the error was found, or it did not start again when
there was no error on record. Which of the two has ever happened is not forgotten.
-/
namespace MmuFirmware

theorem testBits_or (register a b : UInt32) :
    testBits register (a ||| b) = (testBits register a || testBits register b) := by
  have hdistrib : register &&& (a ||| b) = register &&& a ||| register &&& b := by
    rw [← UInt32.toBitVec_inj]
    exact BitVec.and_or_distrib_left
  rw [Bool.eq_iff_iff, Bool.or_eq_true, testBits, testBits, testBits, bne_iff_ne, bne_iff_ne,
    bne_iff_ne, hdistrib, ne_eq, UInt32.or_eq_zero_iff, not_and_or]

namespace AxisData

variable {a : AxisData}

/-- The flags tell a cause where the registers do. -/
theorem any_checkForErrors (h : a.checkForErrors.1 = true) :
    a.checkForErrors.2.errorFlags.any = a.tellsCause := by
  have hdriver : testBits a.registers.drvStatus 0x1e000000 =
      (testBits a.registers.drvStatus 0x18000000 || testBits a.registers.drvStatus 0x04000000 ||
        testBits a.registers.drvStatus 0x02000000) := by
    rw [← testBits_or, ← testBits_or]
    rfl
  rw [checkForErrors] at h ⊢
  split at h
  · next hinitialized =>
      rw [if_pos hinitialized, tellsCause, hdriver, TMCErrorFlags.any]
      dsimp only
      generalize testBits a.registers.gstat 0x1 = reset
      grind
  · cases h

end AxisData

namespace Movable

variable {ε : Type} {known : Bool} {m m' : Movable ε}

/-- A failed driver has a cause on record, up to a failure without one; whether there has been
one before is known. -/
structure Attributed (known : Bool) (m : Movable ε) : Prop where
  lasts : known = true → m.causeless = true
  onRecord : m.causeless = true ∨ m.state ≠ .tmcFailed ∨ m.tmcErrorFlags.any = true

namespace Attributed

theorem congr (h : m.Attributed known) (hstate : m'.state = m.state ∨ m'.state ≠ .tmcFailed)
    (hflags : m'.tmcErrorFlags = m.tmcErrorFlags) (hcauseless : m'.causeless = m.causeless) :
    m'.Attributed known := by
  refine ⟨fun hknown => hcauseless.trans (h.lasts hknown), ?_⟩
  rw [hcauseless, hflags]
  obtain hsame | hother := hstate
  · rw [hsame]
    exact h.onRecord
  · exact .inr (.inl hother)

section Base

variable (h : m.Attributed known)
include h

theorem setState {s : MovableState} (hs : s ≠ .tmcFailed) : (m.setState s).Attributed known :=
  h.congr (.inr hs) rfl rfl

theorem withAxis (axis : AxisData) : Attributed known { m with axis } := h.congr (.inl rfl) rfl rfl

theorem invalidateHoming : m.invalidateHoming.Attributed known := h.congr (.inl rfl) rfl rfl

theorem holdOn : m.holdOn.Attributed known := h.congr (.inl rfl) rfl rfl

theorem resume : m.resume.Attributed known := h.congr (.inl rfl) rfl rfl

theorem homeFailed : m.homeFailed.Attributed known :=
  h.congr (.inr (by decide : MovableState.homingFailed ≠ .tmcFailed)) rfl rfl

theorem checkTMC : m.checkTMC.Attributed known := by
  rw [Movable.checkTMC]
  dsimp only
  split
  · next hfailed =>
      refine ⟨fun hknown => ?_, ?_⟩
      · show (m.causeless || !m.axis.tellsCause) = true
        rw [h.lasts hknown]
        rfl
      · show (m.causeless || !m.axis.tellsCause) = true ∨
          MovableState.tmcFailed ≠ .tmcFailed ∨ m.axis.checkForErrors.2.errorFlags.any = true
        rw [AxisData.any_checkForErrors hfailed]
        cases m.axis.tellsCause with
        | true => exact .inr (.inr rfl)
        | false => exact .inl (Bool.or_true _)
  · exact h.withAxis _

theorem checkUnlessFailed :
    (if m.state = .tmcFailed then m else m.checkTMC).Attributed known := by
  split
  · exact h
  · exact h.checkTMC

theorem planHome (sgThrs : UInt8) {plan : Movable ε → Movable ε}
    (hplan : ∀ m, m.Attributed known → (plan m).Attributed known) :
    (m.planHome sgThrs plan).2.Attributed known := by
  rw [Movable.planHome]
  dsimp only
  split
  · exact h.invalidateHoming
  · exact hplan _ (h.congr (.inr (by decide : MovableState.homeForward ≠ .tmcFailed)) rfl rfl)

theorem initMovementNoReinitAxis {prepare : Movable ε → Movable ε}
    (hprepare : ∀ m, m.Attributed known → (prepare m).Attributed known) :
    (m.initMovementNoReinitAxis prepare).2.Attributed known :=
  (hprepare _ h).setState (by decide)

theorem initMovement {prepare : Movable ε → Movable ε}
    (hprepare : ∀ m, m.Attributed known → (prepare m).Attributed known) :
    (m.initMovement prepare).2.Attributed known := by
  rw [Movable.initMovement]
  dsimp only
  split
  · exact (h.withAxis _).initMovementNoReinitAxis hprepare
  · refine ⟨fun hknown => ?_, ?_⟩
    · show (m.causeless || !m.tmcErrorFlags.any) = true
      rw [h.lasts hknown]
      rfl
    · show (m.causeless || !m.tmcErrorFlags.any) = true ∨
        MovableState.tmcFailed ≠ .tmcFailed ∨ m.tmcErrorFlags.any = true
      cases m.tmcErrorFlags.any with
      | true => exact .inr (.inr rfl)
      | false => exact .inl (Bool.or_true _)

theorem performMove {finish : Movable ε → Movable ε}
    (hfinish : ∀ m, m.Attributed known → (finish m).Attributed known) :
    (m.performMove finish).Attributed known := by
  rw [Movable.performMove]
  split
  · refine Attributed.setState (hfinish _ ?_) (by decide)
    exact h.congr (.inl rfl) rfl rfl
  · exact h

theorem performHomeForward {allowed : Movable ε → Bool → Bool} {plan : Movable ε → Movable ε}
    (hplan : ∀ m, m.Attributed known → (plan m).Attributed known) :
    (m.performHomeForward allowed plan).Attributed known := by
  rw [Movable.performHomeForward]
  dsimp only
  split
  · split
    · have hplanned := hplan _ ((h.withAxis m.axis.stallGuardReset).withAxis
        m.axis.stallGuardReset.abortPlannedMoves)
      exact hplanned.setState (by decide)
    · exact h.withAxis _
  · split
    · exact h.homeFailed
    · exact h

theorem performHomeBack (g : Globals) {allowed : Movable ε → Bool → Bool}
    {finish : Movable ε → Bool × Movable ε}
    (hfinish : ∀ m, m.Attributed known → (finish m).2.Attributed known) :
    (m.performHomeBack g allowed finish).Attributed known := by
  rw [Movable.performHomeBack]
  dsimp only
  split
  · split
    · generalize (if g.stealthMode = true then MotorMode.stealth else .normal) = mode
      have hfinished := hfinish _
        (h.withAxis (m.axis.stallGuardReset.abortPlannedMoves.setMode mode))
      split
      · exact hfinished.congr (.inl rfl) rfl rfl
      · exact hfinished.homeFailed
    · exact h.withAxis _
  · split
    · exact h.homeFailed
    · exact h

end Base

end Attributed
end Movable

section Movables

open Movable (Attributed)

variable {known : Bool} (g : Globals)

namespace Idler

variable {i : Idler} (h : Attributed known i)
include h

theorem attributed_prepareMove : Attributed known (prepareMoveToPlannedSlot g i) :=
  h.congr (.inl rfl) rfl rfl

theorem attributed_planHome : Attributed known (Idler.planHome i g).2 :=
  h.planHome _ fun _ h => h.congr (.inl rfl) rfl rfl

theorem attributed_finishHoming :
    Attributed known (finishHomingAndPlanMoveToParkPos g i).2 := by
  rw [finishHomingAndPlanMoveToParkPos]
  dsimp only
  split
  · exact h
  · refine Attributed.initMovement ?_ fun _ h => attributed_prepareMove g h
    split <;> exact h.congr (.inl rfl) rfl rfl

theorem attributed_planMoveInner (slot : UInt8) (plannedOp : IdlerOperation) :
    Attributed known (i.planMoveInner g slot plannedOp).2 := by
  have hplanned (ext : IdlerEngagement) : Attributed known { i with plannedSlot := slot, ext } :=
    h.congr (.inl rfl) rfl rfl
  rw [Idler.planMoveInner]
  dsimp only
  split
  · exact h
  · split
    · exact hplanned _
    · split
      · exact attributed_planHome g (hplanned _)
      · split
        · exact hplanned _
        · exact (hplanned _).initMovementNoReinitAxis fun _ h => attributed_prepareMove g h

theorem attributed_step : Attributed known (i.step g) := by
  rw [Idler.step]
  split
  · exact h
  · dsimp only
    have hchecked := h.checkUnlessFailed
    generalize (if i.state = .tmcFailed then i else i.checkTMC) = i' at hchecked ⊢
    split
    · exact hchecked.performMove fun _ h => h.congr (.inl rfl) rfl rfl
    · exact hchecked.performHomeForward fun _ h => h.congr (.inl rfl) rfl rfl
    · exact hchecked.performHomeBack g fun _ h => attributed_finishHoming g h
    · split
      · exact attributed_planHome g hchecked
      · exact hchecked
    · exact hchecked

theorem attributed_init : Attributed known (i.init g) := by
  rw [Idler.init]
  split
  · exact attributed_planHome g h
  · exact h.congr (.inl rfl) rfl rfl

end Idler

namespace Selector

variable {s : Selector} (h : Attributed known s)
include h

theorem attributed_prepareMove : Attributed known (prepareMoveToPlannedSlot g s) :=
  h.congr (.inl rfl) rfl rfl

theorem attributed_planHome : Attributed known (Selector.planHome s g).2 :=
  h.planHome _ fun _ h => h.setState (by decide)

theorem attributed_finishHoming :
    Attributed known (finishHomingAndPlanMoveToParkPos g s).2 := by
  rw [finishHomingAndPlanMoveToParkPos]
  dsimp only
  split
  · exact h
  · refine Attributed.initMovement ?_ fun _ h => attributed_prepareMove g h
    split <;> exact h.congr (.inl rfl) rfl rfl

theorem attributed_moveToSlot (finda : Bool) (slot : UInt8) :
    Attributed known (s.moveToSlot g finda slot).2 := by
  have hplanned : Attributed known { s with plannedSlot := slot } := h.congr (.inl rfl) rfl rfl
  rw [Selector.moveToSlot]
  dsimp only
  split
  · exact h
  · split
    · exact hplanned
    · split
      · exact hplanned
      · split
        · exact hplanned
        · split
          · exact attributed_planHome g hplanned
          · exact hplanned.initMovementNoReinitAxis fun _ h => attributed_prepareMove g h

theorem attributed_step (finda idlerHomingValid : Bool) :
    Attributed known (s.step g finda idlerHomingValid) := by
  rw [Selector.step]
  split
  · exact h
  · dsimp only
    have hchecked := h.checkUnlessFailed
    generalize (if s.state = .tmcFailed then s else s.checkTMC) = s' at hchecked ⊢
    split
    · exact hchecked.performMove fun _ h => h.congr (.inl rfl) rfl rfl
    · split
      · exact (hchecked.setState (by decide)).withAxis _
      · exact hchecked
    · exact hchecked.performHomeForward fun _ h => h.congr (.inl rfl) rfl rfl
    · exact hchecked.performHomeBack g fun _ h => attributed_finishHoming g h
    · split
      · exact attributed_planHome g hchecked
      · exact hchecked
    · exact hchecked

theorem attributed_init (finda : Bool) : Attributed known (s.init g finda) := by
  rw [Selector.init]
  split
  · exact attributed_planHome g h
  · exact h.congr (.inl rfl) rfl rfl

end Selector

namespace Pulley

variable {p : Pulley} (h : Attributed known p)
include h

theorem attributed_step : Attributed known (Pulley.step p) := by
  rw [Pulley.step]
  split
  · exact h
  · dsimp only
    have hchecked := h.checkUnlessFailed
    generalize (if p.state = .tmcFailed then p else p.checkTMC) = p' at hchecked ⊢
    split
    · exact hchecked.performMove fun _ h => h
    · exact hchecked

end Pulley

end Movables

end MmuFirmware
