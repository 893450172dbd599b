import MmuFirmware.Modules.Frame
import MmuFirmware.Modules.Transitions

/-!
What the idler says of itself. `Engaged()` tells what the last finished move was for, and goes on
telling so while the idler moves to another slot or homes. `Slot()` is the slot planned last once
the idler has come to rest.
-/
namespace MmuFirmware

namespace Idler

variable {i i' : Idler} {slot : UInt8}

/-- Ready, engaged and at the slot. -/
structure EngagedOn (i : Idler) (slot : UInt8) : Prop where
  ready : i.isIn .ready = true
  engaged : i.engaged = true
  slot : i.slot = slot

instance (i : Idler) (slot : UInt8) : Decidable (i.EngagedOn slot) :=
  decidable_of_iff (i.isIn .ready = true ∧ i.engaged = true ∧ i.slot = slot)
    ⟨fun h => ⟨h.1, h.2.1, h.2.2⟩, fun h => ⟨h.ready, h.engaged, h.slot⟩⟩

/-- A move or a homing is under way. -/
def inMotion (i : Idler) : Bool :=
  i.state == .moving || i.state == .homeForward || i.state == .homeBack

/-- At rest the idler is at the slot planned last. Its homing is never put off. -/
structure Settled (i : Idler) : Prop where
  arrived : i.state = .ready → i.currentSlot = i.plannedSlot
  state : i.state ≠ .plannedHome

theorem settled_of_enters {s : MovableState} (h : Movable.Enters s i) (hready : s ≠ .ready)
    (hhome : s ≠ .plannedHome) : i.Settled :=
  ⟨fun hstate => absurd (h.state.symm.trans hstate) hready, fun hstate =>
    hhome (h.state.symm.trans hstate)⟩

/-- What changes neither the state nor the slots. -/
theorem Settled.congr (h : i.Settled) (hstate : i'.state = i.state)
    (hcurrent : i'.currentSlot = i.currentSlot) (hplanned : i'.plannedSlot = i.plannedSlot) :
    i'.Settled := by
  refine ⟨fun hready => ?_, fun hhome => h.state (hstate.symm.trans hhome)⟩
  rw [hcurrent, hplanned]
  exact h.arrived (hstate.symm.trans hready)

/-- An idler that says it is engaged, is not held and has not failed, is engaged on the slot if and
only if no motion is under way and that slot was planned last. -/
theorem Settled.engagedOn_iff (h : i.Settled) (hengaged : i.engaged = true)
    (hhold : i.onHold = false) (hworks : ¬ i.failed) :
    i.EngagedOn slot ↔ i.inMotion = false ∧ i.plannedSlot = slot := by
  constructor
  · rintro ⟨hready, -, hslot⟩
    have hstate : i.state = .ready := by
      rw [Movable.isIn, Bool.and_eq_true, beq_iff_eq] at hready
      exact hready.1
    refine ⟨?_, (h.arrived hstate).symm.trans hslot⟩
    rw [inMotion, hstate]
    rfl
  · rintro ⟨hmotion, hslot⟩
    have hstate : i.state = .ready := by
      have hhome := h.state
      rw [Movable.failed] at hworks
      rw [inMotion] at hmotion
      cases hstate : i.state <;> simp_all
    refine ⟨?_, hengaged, (h.arrived hstate).trans hslot⟩
    rw [Movable.isIn, hstate, hhold]
    rfl

section Calls

variable (g : Globals)

theorem settled_planHome (h : i.onHold = true → i.Settled) : (Idler.planHome i g).2.Settled := by
  rw [Idler.planHome, Movable.planHome]
  dsimp only
  split
  · next hhold => exact (h hhold).congr rfl rfl rfl
  · exact settled_of_enters (s := .homeForward) ⟨rfl, rfl⟩ (by decide) (by decide)

theorem settled_planMoveInner (h : i.Settled) (slot : UInt8) (plannedOp : IdlerOperation) :
    (i.planMoveInner g slot plannedOp).2.Settled := by
  rw [planMoveInner]
  split
  · exact h
  · next hfree =>
      rw [not_or, Bool.not_eq_true] at hfree
      dsimp only
      split
      · next hback =>
          rw [Movable.isIn, Bool.and_eq_true, beq_iff_eq] at hback
          exact ⟨fun hready => absurd (hback.1.symm.trans hready) (by decide), h.state⟩
      · split
        · exact settled_planHome g fun hhold => absurd hhold hfree.2
        · split
          · next hthere => exact ⟨fun _ => hthere.2, h.state⟩
          · exact settled_of_enters (s := .moving) ⟨rfl, rfl⟩ (by decide) (by decide)

theorem settled_homeFailed (i : Idler) : Settled i.homeFailed :=
  settled_of_enters (s := .homingFailed) ⟨rfl, rfl⟩ (by decide) (by decide)

/-- A homing ends with a move, unless the driver fails. -/
theorem settled_finishHoming (h : i.Settled) :
    (finishHomingAndPlanMoveToParkPos g i).2.Settled := by
  rw [finishHomingAndPlanMoveToParkPos]
  split
  · exact h
  · dsimp only
    generalize (if i.ext.plannedMove = .disengage then _ else _ : Idler) = i'
    rw [Movable.initMovement]
    dsimp only
    split
    · exact settled_of_enters (s := .moving) ⟨rfl, rfl⟩ (by decide) (by decide)
    · exact settled_of_enters (s := .tmcFailed) ⟨rfl, rfl⟩ (by decide) (by decide)

theorem settled_performMove (h : i.Settled) : Settled (i.performMove finishMove) := by
  rw [Movable.performMove]
  split
  · exact ⟨fun _ => rfl, (by decide : MovableState.ready ≠ .plannedHome)⟩
  · exact h

theorem settled_performHomeForward (h : i.Settled) :
    Settled (i.performHomeForward stallGuardAllowed (planHomingMoveBack g)) := by
  rw [Movable.performHomeForward]
  dsimp only
  split
  · split
    · exact settled_of_enters (s := .homeBack) ⟨rfl, rfl⟩ (by decide) (by decide)
    · exact h.congr rfl rfl rfl
  · split
    · exact settled_homeFailed i
    · exact h

theorem settled_performHomeBack (h : i.Settled) :
    Settled (i.performHomeBack g stallGuardAllowed (finishHomingAndPlanMoveToParkPos g)) := by
  rw [Movable.performHomeBack]
  dsimp only
  split
  · split
    · generalize (if g.stealthMode then MotorMode.stealth else .normal) = mode
      have hstalled : Settled
          { i with axis := i.axis.stallGuardReset.abortPlannedMoves.setMode mode } :=
        h.congr rfl rfl rfl
      split
      · exact (settled_finishHoming g hstalled).congr rfl rfl rfl
      · exact settled_homeFailed _
    · exact h.congr rfl rfl rfl
  · split
    · exact settled_homeFailed i
    · exact h

theorem settled_step (h : i.Settled) : (i.step g).Settled := by
  rw [step]
  split
  · exact h
  · next hhold =>
      dsimp only
      have hchecked : (if i.state = .tmcFailed then i else i.checkTMC).Settled := by
        rcases i.checkUnlessFailed_cases with ⟨flags, heq, -⟩ | ⟨henters, -, -, heq⟩
        · rw [heq]
          exact h.congr rfl rfl rfl
        · rw [heq]
          exact settled_of_enters henters (by decide) (by decide)
      generalize (if i.state = .tmcFailed then i else i.checkTMC) = i' at hchecked ⊢
      split
      · exact settled_performMove hchecked
      · exact settled_performHomeForward g hchecked
      · exact settled_performHomeBack g hchecked
      · split
        · exact settled_planHome g fun _ => hchecked
        · exact hchecked
      · exact hchecked

theorem settled_init (h : i.Settled) : (Idler.init i g).Settled := by
  rw [Idler.init]
  split
  · exact settled_planHome g fun _ => h
  · exact h.congr rfl rfl rfl

theorem settled_call (h : i.Settled) (input : Globals × IdlerCall) : (i.call input).1.Settled := by
  obtain ⟨g, c⟩ := input
  cases c with
  | engage slot => exact settled_planMoveInner g h slot .engage
  | partiallyDisengage slot => exact settled_planMoveInner g h slot .intermediate
  | disengage => exact settled_planMoveInner g h idleSlotIndex .disengage
  | planHome => exact settled_planHome g fun _ => h
  | step => exact settled_step g h
  | init => exact settled_init g h
  | holdOn | resume | invalidateHoming | axis => exact h.congr rfl rfl rfl

end Calls

end Idler

end MmuFirmware
