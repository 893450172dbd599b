import MmuFirmware.Modules.SlotMoves

/-!
When the selector starts to move. A request to go to a slot looks at FINDA at once. A homing
looks at it when it is planned at best: the homing move itself waits for the idler, the move
to a slot waits for the end of the homing, and neither looks again.
-/
namespace MmuFirmware

/-- A slot move or the first move of a homing has been put in the selector's empty queue. -/
structure Selector.StartsMotion (s s' : Selector) : Prop where
  queued : s'.axis.blocks ≠ []
  /-- The end of a homing empties the queue before it plans its last move. -/
  queueEmpty : s.axis.blocks = [] ∨ s.state = .homeBack
  starts : Movable.SetsOut s s' ∨ s.state = .plannedHome ∧ Movable.isIn s' .homeForward = true

/-- A homing planned before starts in the call only where it is the step's turn to do so. -/
theorem Movable.Changes.startsHoming_cases {ε : Type} {k : Kind ε} {o : Occasion}
    {m m' : Movable ε} (h : m.Changes k o m') (hkind : k.homingStart ≠ .homeForward)
    (hstate : m.state = .plannedHome) (hstarts : m'.isIn .homeForward = true) :
    o.start ∧ m.onHold = false ∧ m.axis.checkForErrors.1 = false := by
  have henters := (isIn_iff.mp hstarts).state
  have hcongr (heq : m'.state = m.state) : False := by
    rw [heq, hstate] at henters
    cases henters
  have hother {s : MovableState} (hs : m'.Enters s) (hne : s ≠ .homeForward) : False :=
    hne (hs.state.symm.trans henters)
  cases h with
  | startsHoming _ hhold hdriver hstart => exact ⟨hstart, hhold, hdriver⟩
  | runs hsame | records hsame => exact (hcongr hsame.state).elim
  | aborts _ h | holds _ h | resumes _ h =>
      subst h
      exact (hcongr rfl).elim
  | invalidates heq => exact (hcongr heq).elim
  | plansHome hs => exact (hother hs hkind).elim
  | setsOut _ _ _ hs => exact (hother hs (by decide)).elim
  | driverFails hs => exact (hother hs (by decide)).elim
  | arrives _ _ _ hs => exact (hother hs (by decide)).elim
  | turnsBack _ hs => exact (hother hs (by decide)).elim
  | homingFails hs => exact (hother hs (by decide)).elim
  | homes heq => exact absurd (hstate.symm.trans heq) (by decide)

theorem blocks_setEnabled (a : AxisData) (enabled : Bool) :
    (a.setEnabled enabled).blocks = a.blocks := by
  rw [AxisData.setEnabled]
  split <;> rfl

/-- A move to another position is put in an empty queue. -/
theorem blocks_planMoveTo {a : AxisData} {pos : Int} (feedRate endRate : Nat)
    (hblocks : a.blocks = []) (hpos : pos ≠ a.position) :
    (a.planMoveTo pos feedRate endRate).blocks ≠ [] := by
  rw [AxisData.planMoveTo, hblocks, if_neg (by decide), if_neg hpos, blocks_setEnabled]
  simp

theorem Movable.checkTMC_of_driver {ε : Type} {m : Movable ε}
    (h : m.axis.checkForErrors.1 = false) : ∃ flags, m.checkTMC = m.withFlags flags := by
  obtain ⟨flags, haxis⟩ := checkForErrors_snd m.axis
  refine ⟨flags, ?_⟩
  rw [checkTMC, withFlags, ← haxis]
  generalize m.axis.checkForErrors = checked at h ⊢
  obtain ⟨failed, axis⟩ := checked
  cases h
  rfl

namespace Selector

variable {s : Selector} {g : Globals} {finda : Bool}

theorem slotPosition_ne_length (slot : UInt8) :
    slotPosition slot ≠ selectorScale.toSteps Config.selectorLength := by
  rw [slotPosition]
  generalize slot.toNat = n
  rcases n with _ | _ | _ | _ | _ | _ | n
  iterate 6 decide
  have hnone : Config.selectorSlotPositions[n + 6]? = none :=
    List.getElem?_eq_none (Nat.le_add_left 6 n)
  rw [List.getD_eq_getElem?_getD, hnone]
  decide

theorem startsMotion_of_plannedHome (hhold : s.onHold = false)
    (hdriver : s.axis.checkForErrors.1 = false) (hstate : s.state = .plannedHome)
    (hblocks : s.axis.blocks = []) : s.StartsMotion (s.step g finda true) := by
  obtain ⟨flags, hchecked⟩ := Movable.checkTMC_of_driver hdriver
  have hstep : s.step g finda true =
      { (Movable.withFlags s flags).setState .homeForward with
        axis :=
          (Movable.withFlags s flags).axis.planMove
            (selectorScale.toSteps (-Config.selectorLength * 2))
            (feedRate g.selectorHomingFeedrate) 0 } := by
    rw [step, if_neg (by simp [hhold]), if_neg (by simp [hstate]), hchecked]
    dsimp only
    rw [show (Movable.withFlags s flags).state = .plannedHome from hstate]
    rfl
  rw [hstep]
  refine ⟨?_, .inl hblocks, .inr ⟨hstate, rfl⟩⟩
  refine blocks_planMoveTo _ _ hblocks fun heq => ?_
  have hzero : selectorScale.toSteps (-Config.selectorLength * 2) = 0 :=
    
    Int.add_left_cancel (heq.trans (Int.add_zero _).symm)
  exact absurd hzero (by decide)

/-- A homing that has measured the whole axis ends with a move to a slot. -/
theorem blocks_finishHoming (hempty : s.axis.blocks = [])
    (hmeasured : kind.minimumLength ≤ kind.measured s) (hinit : s.axis.initAxis.1 = true) :
    (finishHomingAndPlanMoveToParkPos g s).1 = true ∧
      Movable.Enters .moving (finishHomingAndPlanMoveToParkPos g s).2 ∧
      (finishHomingAndPlanMoveToParkPos g s).2.axis.blocks ≠ [] := by
  rw [finishHomingAndPlanMoveToParkPos, if_neg (by exact Nat.not_lt.mpr hmeasured)]
  dsimp only
  generalize hs' : (if s.plannedSlot > Config.toolCount then _ else _ : Selector) = s'
  have haxis : s'.axis = s.axis.setPosition (selectorScale.toSteps Config.selectorLength) := by
    rw [← hs']
    split <;> rfl
  have hanswers : s'.axis.initAxis.1 = true := by
    rw [haxis, ← hinit]
    exact initAxis_fst_congr rfl
  have hblocks : s'.axis.initAxis.2.blocks = [] := by
    rw [haxis]
    exact (blocks_initAxis _).trans hempty
  have hposition : s'.axis.initAxis.2.position = selectorScale.toSteps Config.selectorLength := by
    rw [haxis]
    exact position_initAxis _
  rw [Movable.initMovement]
  dsimp only
  rw [if_pos hanswers]
  refine ⟨rfl, ⟨rfl, rfl⟩, blocks_planMoveTo _ _ hblocks ?_⟩
  rw [hposition]
  exact slotPosition_ne_length _

theorem startsMotion_of_homeBack {v : Bool} (hhold : s.onHold = false)
    (hdriver : s.axis.checkForErrors.1 = false) (hstate : s.state = .homeBack)
    (hstall : s.axis.stallGuard = true) (hmeasured : kind.minimumLength ≤ kind.measured s)
    (hinit : s.axis.initAxis.1 = true) : s.StartsMotion (s.step g finda v) := by
  obtain ⟨flags, hchecked⟩ := Movable.checkTMC_of_driver hdriver
  have hstep : s.step g finda v =
      (Movable.withFlags s flags).performHomeBack g stallGuardAllowed
        (finishHomingAndPlanMoveToParkPos g) := by
    rw [step, if_neg (by simp [hhold]), if_neg (by simp [hstate]), hchecked]
    dsimp only
    rw [show (Movable.withFlags s flags).state = .homeBack from hstate]
  rw [hstep, Movable.performHomeBack, if_pos (by exact hstall)]
  dsimp only
  rw [if_pos (by rfl)]
  generalize hs' : ({ Movable.withFlags s flags with axis := _ } : Selector) = s'
  have hsame : kind.measured s' = kind.measured s := by
    rw [← hs']
    exact Movable.measured_congr rfl (curPosition_abortPlannedMoves s.axis)
  have hanswers : s'.axis.initAxis.1 = true := by
    rw [← hs', ← hinit]
    exact initAxis_fst_congr rfl
  obtain ⟨hok, henters, hblocks⟩ :=
    blocks_finishHoming (g := g) (by rw [← hs']; rfl) (hsame ▸ hmeasured) hanswers
  rw [if_pos hok]
  refine ⟨hblocks, .inr hstate, .inl ⟨Movable.isIn_eq_false (by rw [hstate]; decide), ?_⟩⟩
  exact Movable.isIn_iff.mpr ⟨henters.state, henters.onHold⟩

end Selector

namespace Modules

/-- If the selector starts to move in the call, FINDA is not pressed. -/
def MovesClear (m : Modules) (c : ModuleCall) : Prop :=
  Plans c → m.selector.StartsMotion (m.call c).1.selector → m.finda.pressed = false

/-- A step of the selector while FINDA is pressed starts a planned homing, because the idler
is homed now, or has just found both ends of the axis and goes to a slot. -/
structure StartsUnderFinda (m : Modules) (c : ModuleCall) : Prop where
  step : c = .selector .step
  finda : m.finda.pressed = true
  onHold : m.selector.onHold = false
  driver : m.selector.axis.checkForErrors.1 = false
  starts :
    (m.selector.state = .plannedHome ∧ m.selector.axis.blocks = [] ∧
      m.idler.homingValid = true) ∨
    (m.selector.state = .homeBack ∧ m.selector.axis.stallGuard = true ∧
      Selector.kind.minimumLength ≤ Selector.kind.measured m.selector ∧
      m.selector.axis.initAxis.1 = true)

variable {m : Modules} {c : ModuleCall}

theorem movesClear_of_not (h : ¬ m.StartsUnderFinda c) : m.MovesClear c := by
  rintro hplans ⟨hqueued, hempty, hstarts⟩
  by_contra hfinda
  rw [Bool.not_eq_false] at hfinda
  cases c with
  | selector c =>
      have hchanges := Selector.changes_call m.selector m.surroundings c
      rcases hstarts with hout | ⟨hstate, hstarts⟩
      · rcases hchanges.setsOut_cases (fun hresume => hplans.2 (congrArg _ hresume)) hout with
          ⟨⟨-, hclear, -⟩, -⟩ | ⟨hstep, hhome⟩
        · exact absurd (hclear.symm.trans hfinda) (by decide)
        · exact h ⟨congrArg _ hstep, hfinda, hhome.onHold, hhome.driver,
            .inr ⟨hhome.state, hhome.stallGuard, hhome.measured, hhome.initAxis⟩⟩
      · obtain ⟨⟨hstep, hvalid⟩, hhold, hdriver⟩ :=
          hchanges.startsHoming_cases (by decide) hstate hstarts
        refine h ⟨congrArg _ hstep, hfinda, hhold, hdriver, .inl ⟨hstate, ?_, hvalid⟩⟩
        exact hempty.resolve_right fun hback => absurd (hstate.symm.trans hback) (by decide)
  | idler | setFilamentLoaded | eraseEEPROM | others =>
      rcases hstarts with hout | ⟨hstate, hstarts⟩
      · exact not_setsOut _ hout
      · exact absurd (hstate.symm.trans (Movable.isIn_iff.mp hstarts).state) (by decide)

theorem StartsUnderFinda.startsMotion (h : m.StartsUnderFinda c) :
    m.selector.StartsMotion (m.call c).1.selector := by
  obtain ⟨rfl, hfinda, hhold, hdriver, hstarts⟩ := h
  rcases hstarts with ⟨hstate, hblocks, hvalid⟩ | ⟨hstate, hstall, hmeasured, hinit⟩
  · show m.selector.StartsMotion (Selector.step _ _ _ m.idler.homingValid)
    rw [hvalid]
    exact Selector.startsMotion_of_plannedHome hhold hdriver hstate hblocks
  · exact Selector.startsMotion_of_homeBack hhold hdriver hstate hstall hmeasured hinit

theorem movesClear_iff : m.MovesClear c ↔ ¬ m.StartsUnderFinda c := by
  constructor
  · intro hclear hstarts
    have hplans : Plans c := by
      rw [hstarts.step]
      exact ⟨by simp, by simp⟩
    exact absurd ((hclear hplans hstarts.startsMotion).symm.trans hstarts.finda) (by decide)
  · exact movesClear_of_not

end Modules
end MmuFirmware
