import MmuFirmware.Modules.SlotMoves

/-!
A selector that is on its way to a slot, or there. As long as nothing else is planned for it, it
gets there, over a homing if need be; where it has been homed and its queue is empty, all it has
left to do is to notice that it has arrived.
-/
namespace MmuFirmware

/-- A movable gets on hold by a call that takes its planned moves away. -/
theorem Movable.Changes.onHold {ε : Type} {k : Kind ε} {o : Occasion} {m m' : Movable ε}
    (h : m.Changes k o m') (hcut : ¬ o.cut) (hhold : m'.onHold = true) : m.onHold = true := by
  have henters {s : MovableState} (hstate : m'.Enters s) : m.onHold = true :=
    absurd (hstate.onHold.symm.trans hhold) (by decide)
  cases h with
  | runs hsame | records hsame => exact hsame.onHold.symm.trans hhold
  | aborts hmay | holds hmay => exact absurd hmay hcut
  | resumes _ heq =>
      subst heq
      cases hhold
  | invalidates _ hsame => exact hsame.symm.trans hhold
  | plansHome hstate | driverFails hstate | homingFails hstate => exact henters hstate
  | setsOut _ _ _ hstate | arrives _ _ _ hstate => exact henters hstate
  | startsHoming _ _ _ _ hstate => exact henters hstate
  | turnsBack _ hstate => exact henters hstate
  | homes _ _ _ _ _ _ _ hmoves =>
      rcases hmoves with ⟨-, hstate, -⟩ | ⟨hstate, -⟩
      · exact henters hstate
      · exact henters hstate

namespace Selector

theorem onHold_step {s : Selector} {g : Globals} {finda idlerHomingValid : Bool}
    (h : (s.step g finda idlerHomingValid).onHold = true) : s.onHold = true := by
  have hchanges : s.Changes kind
      (s.occasion ⟨g, finda, idlerHomingValid⟩ .step) (s.step g finda idlerHomingValid) :=
    changes_call s ⟨g, finda, idlerHomingValid⟩ .step
  exact hchanges.onHold (by simp [occasion]) h

/-- What is known of the selector's place while it is on its way to a slot. -/
def Heads (s : Selector) (slot : UInt8) : Prop :=
  match s.state with
  | .ready => if s.homingValid then s.currentSlot = slot else s.plannedSlot = slot
  | .tmcFailed => True
  | _ => s.plannedSlot = slot

/-- At the slot, or arriving there, or stopped for good by its driver. -/
def Parked (s : Selector) (slot : UInt8) : Prop :=
  s.state = .tmcFailed ∨
    s.homingValid = true ∧
      (s.state = .ready ∧ s.currentSlot = slot ∨
        s.state = .moving ∧ s.plannedSlot = slot ∧ s.axis.blocks = [])

/-- Homed, and at a slot or on the way to one. -/
def settled (s : Selector) : Bool := s.homingValid && (s.isIn .ready || s.isIn .moving)

/-- A request to go to the slot changes nothing: it is refused, or the selector is there. -/
def stays (s : Selector) (finda : Bool) (slot : UInt8) : Bool :=
  s.isIn .moving ||
    ((s.state == .ready && s.homingValid || s.state == .tmcFailed) &&
      (finda || s.currentSlot == slot && s.homingValid))

variable {s s' : Selector} {slot : UInt8}

theorem Heads.congr (h : s.Heads slot) (hstate : s'.state = s.state)
    (hvalid : s'.homingValid = s.homingValid) (hcurrent : s'.currentSlot = s.currentSlot)
    (hplanned : s'.plannedSlot = s.plannedSlot) : s'.Heads slot := by
  rw [Heads, hstate, hvalid, hcurrent, hplanned]
  exact h

theorem heads_of_planned (hstate : s.state ≠ .ready) (hplanned : s.plannedSlot = slot) :
    s.Heads slot := by
  rw [Heads]
  split
  · next hready => exact absurd hready hstate
  · trivial
  · exact hplanned

theorem heads_of_invalid (hvalid : s.homingValid = false) (hplanned : s.plannedSlot = slot) :
    s.Heads slot := by
  rw [Heads, hvalid]
  split
  · exact hplanned
  · trivial
  · exact hplanned

theorem Heads.planned (h : s.Heads slot) (hready : s.state ≠ .ready) (htmc : s.state ≠ .tmcFailed) :
    s.plannedSlot = slot := by
  rw [Heads] at h
  split at h
  · next hstate => exact absurd hstate hready
  · next hstate => exact absurd hstate htmc
  · exact h

theorem Heads.arrived (h : s.Heads slot) (hready : s.state = .ready) (hvalid : s.homingValid) :
    s.currentSlot = slot := by
  rwa [Heads, hready, hvalid, if_pos rfl] at h

theorem Parked.congr (h : s.Parked slot) (hstate : s'.state = s.state)
    (hvalid : s'.homingValid = s.homingValid) (hcurrent : s'.currentSlot = s.currentSlot)
    (hplanned : s'.plannedSlot = s.plannedSlot)
    (hblocks : s.axis.blocks = [] → s'.axis.blocks = []) : s'.Parked slot := by
  rw [Parked, hstate, hvalid, hcurrent, hplanned]
  exact h.imp_right (And.imp_right (Or.imp_right (And.imp_right (And.imp_right hblocks))))

/-- All the way to the slot has been gone. -/
theorem Heads.parked (h : s.Heads slot) (hsettled : s.settled) (hqueue : s.axis.queueEmpty) :
    s.Parked slot := by
  rw [settled, Bool.and_eq_true, Bool.or_eq_true] at hsettled
  refine .inr ⟨hsettled.1, ?_⟩
  rcases hsettled.2 with hin | hin
  · have hready := (Movable.isIn_iff.mp hin).state
    exact .inl ⟨hready, h.arrived hready hsettled.1⟩
  · have hmoving := (Movable.isIn_iff.mp hin).state
    refine .inr ⟨hmoving, h.planned ?_ ?_, List.isEmpty_iff.mp hqueue⟩
    · rw [hmoving]
      decide
    · rw [hmoving]
      decide

theorem onHold_of_settled (hsettled : s.settled) : s.onHold = false := by
  rw [settled, Bool.and_eq_true, Bool.or_eq_true] at hsettled
  rcases hsettled.2 with hin | hin
  · exact (Movable.isIn_iff.mp hin).onHold
  · exact (Movable.isIn_iff.mp hin).onHold

section Step

variable (g : Globals)

theorem plannedSlot_planHome : (Selector.planHome s g).2.plannedSlot = s.plannedSlot := by
  rw [Selector.planHome, Movable.planHome]
  dsimp only
  split <;> rfl

theorem homingValid_planHome : (Selector.planHome s g).2.homingValid = false := by
  rw [Selector.planHome, Movable.planHome]
  dsimp only
  split <;> rfl

theorem heads_planHome (hplanned : s.plannedSlot = slot) : (Selector.planHome s g).2.Heads slot :=
  heads_of_invalid (homingValid_planHome g) ((plannedSlot_planHome g).trans hplanned)

theorem plannedSlot_finishHoming (h : s.plannedSlot ≤ Config.toolCount) :
    (finishHomingAndPlanMoveToParkPos g s).2.plannedSlot = s.plannedSlot := by
  have hinit (s : Selector) :
      (s.initMovement (prepareMoveToPlannedSlot g)).2.plannedSlot = s.plannedSlot := by
    simp only [Movable.initMovement, Movable.initMovementNoReinitAxis]
    split <;> rfl
  rw [finishHomingAndPlanMoveToParkPos]
  dsimp only
  split
  · rfl
  · rw [hinit, if_neg (UInt8.not_lt.mpr h)]

theorem state_finishHoming (h : s.state ≠ .ready) :
    (finishHomingAndPlanMoveToParkPos g s).2.state ≠ .ready := by
  have hinit (s : Selector) : (s.initMovement (prepareMoveToPlannedSlot g)).2.state ≠ .ready := by
    simp only [Movable.initMovement, Movable.initMovementNoReinitAxis]
    split
    · exact show MovableState.moving ≠ .ready by decide
    · exact show MovableState.tmcFailed ≠ .ready by decide
  rw [finishHomingAndPlanMoveToParkPos]
  dsimp only
  split
  · exact h
  · exact hinit _

theorem heads_performHomeBack (hstate : s.state = .homeBack) (hplanned : s.plannedSlot = slot)
    (hslot : slot ≤ Config.toolCount) :
    Selector.Heads
      (Movable.performHomeBack s g stallGuardAllowed (finishHomingAndPlanMoveToParkPos g)) slot := by
  have hready : s.state ≠ .ready := by
    rw [hstate]
    decide
  have hfailed : MovableState.homingFailed ≠ .ready := by decide
  rw [Movable.performHomeBack]
  dsimp only
  split
  · split
    · generalize (if g.stealthMode = true then MotorMode.stealth else .normal) = mode
      have hfinished :
          (finishHomingAndPlanMoveToParkPos g
            { s with axis := s.axis.stallGuardReset.abortPlannedMoves.setMode mode }).2.plannedSlot =
              slot :=
        (plannedSlot_finishHoming g (hplanned ▸ hslot)).trans hplanned
      split
      · exact heads_of_planned (state_finishHoming g hready) hfinished
      · exact heads_of_planned hfailed hfinished
    · exact heads_of_planned hready hplanned
  · split
    · exact heads_of_planned hfailed hplanned
    · exact heads_of_planned hready hplanned

theorem checkTMC_cases (s : Selector) :
    s.checkTMC.state = .tmcFailed ∨
      ∃ axis : AxisData, s.checkTMC = { s with axis } ∧ axis.blocks = s.axis.blocks := by
  rw [Movable.checkTMC]
  dsimp only
  split
  · exact .inl rfl
  · refine .inr ⟨_, rfl, ?_⟩
    rw [AxisData.checkForErrors]
    split <;> rfl

theorem Heads.checkTMC (h : s.Heads slot) : Selector.Heads s.checkTMC slot := by
  rcases s.checkTMC_cases with hfailed | ⟨axis, heq, -⟩
  · rw [Heads, hfailed]
    trivial
  · rw [heq]
    exact h.congr rfl rfl rfl rfl

theorem Parked.checkTMC (h : s.Parked slot) : Selector.Parked s.checkTMC slot := by
  rcases s.checkTMC_cases with hfailed | ⟨axis, heq, hblocks⟩
  · exact .inl hfailed
  · rw [heq]
    exact h.congr rfl rfl rfl rfl hblocks.trans

/-- The selector gets where it is heading for. -/
theorem Heads.step (h : s.Heads slot) (hslot : slot ≤ Config.toolCount)
    (finda idlerHomingValid : Bool) : (s.step g finda idlerHomingValid).Heads slot := by
  rw [Selector.step]
  split
  · exact h
  · dsimp only
    have hchecked : Selector.Heads (if s.state = .tmcFailed then s else s.checkTMC) slot := by
      split
      · exact h
      · exact h.checkTMC
    generalize (if s.state = .tmcFailed then s else s.checkTMC) = s' at hchecked ⊢
    have hplanned {state : MovableState} (hstate : s'.state = state) (hready : state ≠ .ready)
        (htmc : state ≠ .tmcFailed) : s'.plannedSlot = slot :=
      hchecked.planned (by rwa [hstate]) (by rwa [hstate])
    split
    · next hstate =>
        have hplanned := hplanned hstate (by decide) (by decide)
        rw [Movable.performMove]
        split
        · show (if s'.homingValid = true then s'.plannedSlot = slot else s'.plannedSlot = slot)
          split <;> exact hplanned
        · exact hchecked
    · next hstate =>
        split
        · exact heads_of_planned (by simp [Movable.setState]) (hplanned hstate (by decide) (by decide))
        · exact hchecked
    · next hstate =>
        have hplanned := hplanned hstate (by decide) (by decide)
        rw [Movable.performHomeForward]
        dsimp only
        split
        · rw [if_pos (by rfl)]
          exact heads_of_planned (by simp [Movable.setState]) hplanned
        · split
          · exact heads_of_planned (by simp [Movable.homeFailed, Movable.setState]) hplanned
          · exact hchecked
    · next hstate =>
        exact heads_performHomeBack g hstate (hplanned hstate (by decide) (by decide)) hslot
    · next hstate =>
        split
        · next hinvalid =>
            refine heads_planHome g ?_
            rw [Heads, hstate, hinvalid.1] at hchecked
            exact hchecked
        · exact hchecked
    · exact hchecked

/-- A selector that has arrived notices it at once, unless it is on hold. -/
theorem Parked.step (h : s.Parked slot) (finda idlerHomingValid : Bool) :
    (s.step g finda idlerHomingValid).Parked slot ∧
      ((s.step g finda idlerHomingValid).state = .moving →
        (s.step g finda idlerHomingValid).onHold = true) := by
  rw [Selector.step]
  split
  · next hhold => exact ⟨h, fun _ => hhold⟩
  · dsimp only
    have hchecked : Selector.Parked (if s.state = .tmcFailed then s else s.checkTMC) slot := by
      split
      · exact h
      · exact h.checkTMC
    generalize (if s.state = .tmcFailed then s else s.checkTMC) = s' at hchecked ⊢
    rcases id hchecked with hstate | ⟨hvalid, ⟨hstate, -⟩ | ⟨hstate, hplanned, hblocks⟩⟩
    · rw [hstate]
      exact ⟨hchecked, fun hmoving => absurd (hstate.symm.trans hmoving) (by decide)⟩
    · rw [hstate]
      dsimp only
      rw [if_neg (by simp [hvalid])]
      exact ⟨hchecked, fun hmoving => absurd (hstate.symm.trans hmoving) (by decide)⟩
    · rw [hstate]
      dsimp only
      rw [Movable.performMove, AxisData.queueEmpty, hblocks, if_pos (by rfl)]
      refine ⟨.inr ⟨hvalid, .inl ⟨rfl, hplanned⟩⟩, fun hmoving => ?_⟩
      exact absurd (show MovableState.ready = .moving from hmoving) (by decide)

end Step

section Requests

variable (g : Globals) {finda : Bool}

/-- A selector that is told to go to the slot heads for it, unless it refuses. -/
theorem heads_moveToSlot (haccepted : (s.moveToSlot g finda slot).1 ≠ .refused) :
    (s.moveToSlot g finda slot).2.Heads slot := by
  rw [moveToSlot] at haccepted ⊢
  split
  · next hmoving =>
      rw [if_pos hmoving] at haccepted
      exact absurd rfl haccepted
  · next hmoving =>
      rw [if_neg hmoving] at haccepted
      dsimp only at haccepted ⊢
      split
      · next hback =>
          refine heads_of_planned ?_ rfl
          rw [(Movable.isIn_iff.mp hback).state]
          decide
      · next hback =>
          rw [if_neg hback] at haccepted
          split
          · next hthere =>
              rw [Heads]
              split
              · rw [if_pos hthere.2]
                exact hthere.1
              · trivial
              · rfl
          · next hthere =>
              rw [if_neg hthere] at haccepted
              split
              · next hfinda =>
                  rw [if_pos hfinda] at haccepted
                  exact absurd rfl haccepted
              · split
                · exact heads_planHome g rfl
                · exact heads_of_planned (by simp [Movable.initMovementNoReinitAxis, Movable.setState]) rfl

/-- A request that changes nothing sets at most the planned slot of a selector that does not move. -/
theorem moveToSlot_of_stays {slot : UInt8} (h : s.stays finda slot) :
    (s.moveToSlot g finda slot).2 = s ∨
      (s.state = .ready ∧ s.homingValid = true ∨ s.state = .tmcFailed) ∧
        (s.moveToSlot g finda slot).2 = { s with plannedSlot := slot } := by
  rw [moveToSlot]
  rw [stays, Bool.or_eq_true] at h
  split
  · exact .inl rfl
  · next hmoving =>
      obtain ⟨hstate, hrefuses⟩ := Bool.and_eq_true _ _ ▸ h.resolve_left hmoving
      simp only [Bool.or_eq_true, Bool.and_eq_true, beq_iff_eq] at hstate hrefuses
      refine .inr ⟨hstate, ?_⟩
      have hback : Movable.isIn { s with plannedSlot := slot } .homeBack = false := by
        refine Movable.isIn_eq_false ?_
        show s.state ≠ .homeBack
        rcases hstate with ⟨hstate, -⟩ | hstate <;> rw [hstate] <;> decide
      dsimp only
      rw [if_neg (by rw [hback]; decide)]
      split
      · rfl
      · next hthere =>
          rw [if_pos (hrefuses.resolve_right hthere)]

theorem Heads.moveToSlot_of_stays {slot' : UInt8} (h : s.Heads slot) (hstays : s.stays finda slot') :
    (s.moveToSlot g finda slot').2.Heads slot := by
  rcases Selector.moveToSlot_of_stays g hstays with heq | ⟨hstate, heq⟩
  · rwa [heq]
  · rw [heq, Heads]
    rcases hstate with ⟨hstate, hvalid⟩ | hstate
    · simp only [hstate, hvalid, if_true]
      exact h.arrived hstate hvalid
    · simp only [hstate]

theorem Parked.moveToSlot_of_stays {slot' : UInt8} (h : s.Parked slot)
    (hstays : s.stays finda slot') :
    (s.moveToSlot g finda slot').2.Parked slot ∧
      (s.moveToSlot g finda slot').2.state = s.state ∧
      (s.moveToSlot g finda slot').2.onHold = s.onHold := by
  rcases Selector.moveToSlot_of_stays g hstays with heq | ⟨hstate, heq⟩
  · rw [heq]
    exact ⟨h, rfl, rfl⟩
  · rw [heq]
    refine ⟨?_, rfl, rfl⟩
    rcases hstate with ⟨hstate, hvalid⟩ | hstate
    · rcases h with htmc | ⟨-, ⟨hready, hcurrent⟩ | ⟨hmoving, -⟩⟩
      · exact absurd (hstate.symm.trans htmc) (by decide)
      · exact .inr ⟨hvalid, .inl ⟨hready, hcurrent⟩⟩
      · exact absurd (hstate.symm.trans hmoving) (by decide)
    · exact .inl hstate

/-- A selector that is told to go to the slot it heads for still does. -/
theorem Heads.moveToSlot_same (h : s.Heads slot) : (s.moveToSlot g finda slot).2.Heads slot := by
  by_cases haccepted : (s.moveToSlot g finda slot).1 = .refused
  · rw [moveToSlot] at haccepted ⊢
    split
    · exact h
    · next hmoving =>
        rw [if_neg hmoving] at haccepted
        dsimp only at haccepted ⊢
        have hplanned : Selector.Heads { s with plannedSlot := slot } slot := by
          rw [Heads] at h ⊢
          dsimp only
          split
          · next hready =>
              rw [hready] at h
              dsimp only at h
              split
              · next hvalid => rwa [if_pos hvalid] at h
              · rfl
          · trivial
          · rfl
        split
        · exact hplanned
        · next hback =>
            rw [if_neg hback] at haccepted
            split
            · exact hplanned
            · next hthere =>
                rw [if_neg hthere] at haccepted
                split
                · exact hplanned
                · next hfinda =>
                    rw [if_neg hfinda] at haccepted
                    split at haccepted <;> cases haccepted
  · exact heads_moveToSlot g haccepted

end Requests

end Selector
end MmuFirmware
