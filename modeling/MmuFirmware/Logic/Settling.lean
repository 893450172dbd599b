import Mathlib.Order.Nat
import MmuFirmware.Lib.Progress
import MmuFirmware.Logic.FeedPolls
import MmuFirmware.Modules.SelectorMotion
import MmuFirmware.Modules.Tuning

/-!
The idler and the selector come to rest by themselves. A homing goes through a few stages, in each
of which one move is either finished or cut short by a stall; so as long as a motor with moves left
keeps stepping, the stages and the steps ahead of a movable only get fewer.
-/
namespace MmuFirmware

namespace Block

/-- The steps left of planned moves, and one for the end of each. -/
def stepsLeft (blocks : List Block) : Nat :=
  blocks.foldr (fun b n => b.steps.natAbs + 1 + n) 0

theorem stepsLeft_cons (b : Block) (blocks : List Block) :
    stepsLeft (b :: blocks) = b.steps.natAbs + 1 + stepsLeft blocks := rfl

theorem stepsLeft_concat (blocks : List Block) (b : Block) :
    stepsLeft (blocks ++ [b]) = stepsLeft blocks + (b.steps.natAbs + 1) := by
  induction blocks with
  | nil => simp [stepsLeft]
  | cons b' blocks ih =>
      rw [List.cons_append, stepsLeft_cons, stepsLeft_cons, ih]
      omega

theorem natAbs_sub_sign (x : Int) {n : Nat} (hle : n ≤ x.natAbs) :
    (x - x.sign * n).natAbs = x.natAbs - n := by
  rcases Int.lt_trichotomy x 0 with hneg | rfl | hpos
  · rw [Int.sign_eq_neg_one_of_neg hneg]
    omega
  · simp
  · rw [Int.sign_eq_one_of_pos hpos]
    omega

theorem stepsLeft_movesAfter_le (blocks : List Block) (n : Nat) :
    stepsLeft (movesAfter blocks n) ≤ stepsLeft blocks := by
  cases blocks with
  | nil => exact Nat.le_refl _
  | cons b rest =>
      rw [movesAfter]
      split
      · next hlt =>
          rw [stepsLeft_cons, stepsLeft_cons, natAbs_sub_sign b.steps (Nat.le_of_lt hlt)]
          omega
      · rw [stepsLeft_cons]
        omega

theorem stepsLeft_movesAfter_lt {blocks : List Block} (hsome : blocks ≠ []) {n : Nat}
    (hpos : 0 < n) : stepsLeft (movesAfter blocks n) < stepsLeft blocks := by
  cases blocks with
  | nil => exact absurd rfl hsome
  | cons b rest =>
      rw [movesAfter]
      split
      · next hlt =>
          rw [stepsLeft_cons, stepsLeft_cons, natAbs_sub_sign b.steps (Nat.le_of_lt hlt)]
          omega
      · rw [stepsLeft_cons]
        omega

theorem stepsLeft_pulses_le (blocks : List Block) (pulses : List (Nat × Bool)) :
    stepsLeft (pulses.foldl (fun blocks p => movesAfter blocks p.1) blocks) ≤
      stepsLeft blocks := by
  induction pulses generalizing blocks with
  | nil => exact Nat.le_refl _
  | cons p pulses ih => exact (ih _).trans (stepsLeft_movesAfter_le blocks p.1)

theorem stepsLeft_pulses_lt {blocks : List Block} (hsome : blocks ≠ [])
    {pulses : List (Nat × Bool)} (hpulse : ∃ p ∈ pulses, 0 < p.1) :
    stepsLeft (pulses.foldl (fun blocks p => movesAfter blocks p.1) blocks) <
      stepsLeft blocks := by
  induction pulses generalizing blocks with
  | nil => simp at hpulse
  | cons p pulses ih =>
      rw [List.foldl_cons]
      have hle := stepsLeft_movesAfter_le blocks p.1
      by_cases hpos : 0 < p.1
      · exact Nat.lt_of_le_of_lt (stepsLeft_pulses_le _ pulses)
          (stepsLeft_movesAfter_lt hsome hpos)
      · have hlater : ∃ q ∈ pulses, 0 < q.1 := by
          obtain ⟨q, hq, hqpos⟩ := hpulse
          rcases List.mem_cons.mp hq with rfl | hq
          · exact absurd hqpos hpos
          · exact ⟨q, hq, hqpos⟩
        by_cases hnone : movesAfter blocks p.1 = []
        · -- a move without steps has gone
          have hpulses := stepsLeft_pulses_le (movesAfter blocks p.1) pulses
          rw [hnone] at hpulses ⊢
          cases blocks with
          | nil => exact absurd rfl hsome
          | cons b rest =>
              rw [stepsLeft_cons]
              have hnil : stepsLeft [] = 0 := rfl
              omega
        · exact Nat.lt_of_lt_of_le (ih hnone hlater) hle

end Block

/-- At least one step is made. -/
def AxisInput.Moves (i : AxisInput) : Prop := ∃ p ∈ i.pulses, 0 < p.1

instance (i : AxisInput) : Decidable i.Moves :=
  inferInstanceAs (Decidable (∃ p ∈ i.pulses, 0 < p.1))

namespace AxisData

variable (a : AxisData)

def stepsLeft : Nat := Block.stepsLeft a.blocks

section StepsLeft

variable {a}

theorem stepsLeft_congr {a' : AxisData} (h : a'.blocks = a.blocks) :
    a'.stepsLeft = a.stepsLeft :=
  congrArg Block.stepsLeft h

theorem stepsLeft_of_nil (h : a.blocks = []) : a.stepsLeft = 0 := congrArg Block.stepsLeft h

theorem stepsLeft_planMoveTo_le (pos : Int) (feedRate endRate : Nat) :
    (a.planMoveTo pos feedRate endRate).stepsLeft ≤
      a.stepsLeft + (pos - a.position).natAbs + 1 := by
  rw [planMoveTo]
  split
  · rw [Nat.add_assoc]
    exact Nat.le_add_right _ _
  · split
    · rw [stepsLeft_congr (blocks_setEnabled _ _), Nat.add_assoc]
      exact Nat.le_add_right _ _
    · rw [stepsLeft_congr (blocks_setEnabled _ _)]
      exact (Block.stepsLeft_concat _ _).le

theorem stepsLeft_planMove_le (delta : Int) (feedRate endRate : Nat) :
    (a.planMove delta feedRate endRate).stepsLeft ≤ a.stepsLeft + delta.natAbs + 1 := by
  have hle := stepsLeft_planMoveTo_le (a := a) (a.position + delta) feedRate endRate
  have hdelta : a.position + delta - a.position = delta := by omega
  rw [hdelta] at hle
  exact hle

theorem stepsLeft_tick_le (i : AxisInput) : (a.tick i).stepsLeft ≤ a.stepsLeft := by
  rw [stepsLeft, blocks_tick]
  exact Block.stepsLeft_pulses_le a.blocks i.pulses

theorem stepsLeft_tick_lt {i : AxisInput} (hsome : a.queueEmpty = false) (hmoves : i.Moves) :
    (a.tick i).stepsLeft < a.stepsLeft := by
  rw [stepsLeft, blocks_tick]
  refine Block.stepsLeft_pulses_lt (fun hnone => ?_) hmoves
  rw [queueEmpty, hnone] at hsome
  cases hsome

end StepsLeft

end AxisData

namespace Movable

variable {ε : Type} (m : Movable ε)

/-- All moves are made, and none ran into a stall. -/
def exhausted : Bool := m.axis.queueEmpty && !m.axis.stallGuard

/-- The stages ahead of a movable that nobody asks for anything, at most, where `homes` says
whether it homes by itself once it is ready and has to. -/
def stagesLeft (homes : Bool) : Nat :=
  if m.onHold then 0
  else
    match m.state with
    | .moving => if homes && !m.homingValid then 6 else 1
    | .ready => if homes && !m.homingValid then 5 else 0
    | .plannedHome => 4
    | .homeForward => if m.exhausted then 2 else 3
    | .homeBack => if m.exhausted then 1 else 2
    | .tmcFailed | .homingFailed => 0

/-- Nothing more is done by itself. -/
def Rests (homes : Bool) : Prop :=
  m.onHold = true ∨ m.state = .tmcFailed ∨ m.state = .homingFailed ∨
    m.state = .ready ∧ (homes = true → m.homingValid = true)

instance (homes : Bool) : Decidable (m.Rests homes) :=
  inferInstanceAs (Decidable (_ ∨ _ ∨ _ ∨ _ ∧ _))

/-- The way ahead, where no move is longer than the stroke. -/
def wayLeft (homes : Bool) (stroke : Nat) : Nat :=
  if m.stagesLeft homes = 0 then 0
  else m.stagesLeft homes * (stroke + 2) + m.axis.stepsLeft

/-- A step has taken a movable to its next stage, or leaves it to the moves under way. -/
inductive GoesOn (homes : Bool) (stroke : Nat) (m m' : Movable ε) : Prop
  | advances (hstages : m'.stagesLeft homes < m.stagesLeft homes)
      (hsteps : m'.axis.stepsLeft ≤ m.axis.stepsLeft + (stroke + 1))
  | waits (hmoves : m.axis.queueEmpty = false)
      (hstages : m'.stagesLeft homes ≤ m.stagesLeft homes)
      (hsteps : m'.axis.stepsLeft ≤ m.axis.stepsLeft)

section Steps

variable {m : Movable ε} {homes : Bool} {stroke : Nat}

theorem GoesOn.of_flags {m' : Movable ε} (flags : TMCErrorFlags)
    (h : GoesOn homes stroke (m.withFlags flags) m') : GoesOn homes stroke m m' := by
  cases h with
  | advances hstages hsteps => exact .advances hstages hsteps
  | waits hmoves hstages hsteps => exact .waits hmoves hstages hsteps

theorem stagesLeft_of_failed {m' : Movable ε}
    (h : m'.state = .tmcFailed ∨ m'.state = .homingFailed) : m'.stagesLeft homes = 0 := by
  rw [stagesLeft]
  rcases h with h | h <;> simp [h]

theorem stagesLeft_homeForward_le {m' : Movable ε} (h : m'.state = .homeForward) :
    m'.stagesLeft homes ≤ 3 := by
  rw [stagesLeft, h]
  split
  · exact Nat.zero_le 3
  · dsimp only
    split <;> decide

theorem stagesLeft_homeBack_le {m' : Movable ε} (h : m'.state = .homeBack) :
    m'.stagesLeft homes ≤ 2 := by
  rw [stagesLeft, h]
  split
  · exact Nat.zero_le 2
  · dsimp only
    split <;> decide

theorem stagesLeft_of_stall (hhold : m.onHold = false) (hstall : m.axis.stallGuard = true) :
    (m.state = .homeForward → m.stagesLeft homes = 3) ∧
      (m.state = .homeBack → m.stagesLeft homes = 2) := by
  have hmoves : m.exhausted = false := by
    rw [exhausted, hstall, Bool.not_true, Bool.and_false]
  constructor <;> intro hstate <;> simp [stagesLeft, hhold, hstate, hmoves]

theorem goesOn_performMove {finishMove : Movable ε → Movable ε} (hstate : m.state = .moving)
    (hhold : m.onHold = false) (hvalid : ∀ m, (finishMove m).homingValid = m.homingValid)
    (hblocks : ∀ m, (finishMove m).axis.blocks = m.axis.blocks) :
    GoesOn homes stroke m (m.performMove finishMove) := by
  rw [performMove]
  split
  · refine .advances ?_ ?_
    · simp only [stagesLeft, setState, hstate, hhold, hvalid, Bool.false_eq_true, if_false]
      split <;> decide
    · exact (AxisData.stepsLeft_congr (hblocks _)).le.trans (Nat.le_add_right _ _)
  · next hqueue => exact .waits (by simpa using hqueue) (Nat.le_refl _) (Nat.le_refl _)

theorem goesOn_homeFailed (hsome : m.stagesLeft homes ≠ 0) {m' : Movable ε}
    (hsteps : m'.axis.stepsLeft ≤ m.axis.stepsLeft) : GoesOn homes stroke m m'.homeFailed := by
  refine .advances ?_ ?_
  · rw [stagesLeft_of_failed (.inr rfl)]
    exact Nat.pos_of_ne_zero hsome
  · have hsame : m'.homeFailed.axis.stepsLeft = m'.axis.stepsLeft :=
      AxisData.stepsLeft_congr (blocks_disable m'.axis)
    rw [hsame]
    exact hsteps.trans (Nat.le_add_right _ _)

/-- A stall that is not accepted only starts the count anew. -/
theorem goesOn_stallGuardReset (hstate : m.state = .homeForward ∨ m.state = .homeBack)
    (hhold : m.onHold = false) (harmed : m.axis.Armed) (hstall : m.axis.stallGuard = true) :
    GoesOn homes stroke m { m with axis := m.axis.stallGuardReset } := by
  have hcleared : m.axis.stallGuardReset.stallGuard = false := by
    rw [AxisData.stallGuard, AxisData.stallGuardReset, beq_eq_false_iff_ne]
    exact harmed
  cases hqueue : m.axis.queueEmpty with
  | true =>
      refine .advances ?_ (Nat.le_add_right _ _)
      have hqueue' : m.axis.stallGuardReset.queueEmpty = true := hqueue
      rcases hstate with hstate | hstate <;>
        simp [stagesLeft, exhausted, hstate, hhold, hstall, hcleared, hqueue']
  | false =>
      refine .waits hqueue ?_ (Nat.le_refl _)
      have hqueue' : m.axis.stallGuardReset.queueEmpty = false := hqueue
      rcases hstate with hstate | hstate <;>
        simp [stagesLeft, exhausted, hstate, hhold, hqueue', hqueue]

theorem goesOn_performHomeForward {stallGuardAllowed : Movable ε → Bool → Bool}
    {planHomingMoveBack : Movable ε → Movable ε} (hstate : m.state = .homeForward)
    (hhold : m.onHold = false) (harmed : m.axis.Armed) (hsome : m.stagesLeft homes ≠ 0)
    (hplan : ∀ m, m.axis.blocks = [] → (planHomingMoveBack m).axis.stepsLeft ≤ stroke + 1) :
    GoesOn homes stroke m (m.performHomeForward stallGuardAllowed planHomingMoveBack) := by
  rw [performHomeForward]
  split
  · next hstall =>
      dsimp only
      split
      · refine .advances ?_ ((hplan _ rfl).trans (Nat.le_add_left _ _))
        rw [(stagesLeft_of_stall hhold hstall).1 hstate]
        exact Nat.lt_succ_of_le (stagesLeft_homeBack_le rfl)
      · exact goesOn_stallGuardReset (.inl hstate) hhold harmed hstall
  · split
    · exact goesOn_homeFailed hsome (Nat.le_refl _)
    · next hqueue => exact .waits (by simpa using hqueue) (Nat.le_refl _) (Nat.le_refl _)

theorem goesOn_performHomeBack {g : Globals} {stallGuardAllowed : Movable ε → Bool → Bool}
    {finish : Movable ε → Bool × Movable ε} (hstate : m.state = .homeBack)
    (hhold : m.onHold = false) (harmed : m.axis.Armed) (hsome : m.stagesLeft homes ≠ 0)
    (hfinish : ∀ m, m.axis.blocks = [] →
      ((finish m).2.state = .moving ∨ (finish m).2.state = .tmcFailed ∨ (finish m).1 = false) ∧
        (finish m).2.axis.stepsLeft ≤ stroke + 1)
    (hshort : ∀ m, (finish m).1 = false → (finish m).2 = m) :
    GoesOn homes stroke m (m.performHomeBack g stallGuardAllowed finish) := by
  rw [performHomeBack]
  split
  · next hstall =>
      dsimp only
      split
      · generalize hm' : ({ m with axis := _ } : Movable ε) = m'
        have hempty : m'.axis.blocks = [] := by rw [← hm']; rfl
        obtain ⟨hmoving, hsteps⟩ := hfinish m' hempty
        split
        · next hok =>
            refine .advances ?_ (hsteps.trans (Nat.le_add_left _ _))
            rcases hmoving with hmoving | hfailed | hnot
            · rw [(stagesLeft_of_stall hhold hstall).2 hstate]
              simp only [stagesLeft, hmoving]
              split <;> simp
            · have hnone : stagesLeft { (finish m').2 with homingValid := true } homes = 0 :=
                stagesLeft_of_failed (.inl hfailed)
              rw [hnone]
              exact Nat.pos_of_ne_zero hsome
            · rw [hok] at hnot
              cases hnot
        · next hok =>
            rw [hshort m' (by simpa using hok)]
            exact goesOn_homeFailed hsome
              ((AxisData.stepsLeft_of_nil hempty).le.trans (Nat.zero_le _))
      · exact goesOn_stallGuardReset (.inr hstate) hhold harmed hstall
  · split
    · exact goesOn_homeFailed hsome (Nat.le_refl _)
    · next hqueue => exact .waits (by simpa using hqueue) (Nat.le_refl _) (Nat.le_refl _)

end Steps

section Stages

variable {m : Movable ε} {homes : Bool} {stroke : Nat} {i : AxisInput}

theorem rests_iff : m.Rests homes ↔ m.stagesLeft homes = 0 := by
  rw [Rests, stagesLeft]
  cases m.onHold with
  | true => simp
  | false =>
      cases m.state with
      | homeForward | homeBack => cases m.exhausted <;> simp
      | moving => cases homes <;> cases m.homingValid <;> simp
      | ready | plannedHome | tmcFailed | homingFailed => simp

theorem exhausted_tick (h : m.exhausted = true) : (m.tick i).exhausted = true := by
  rw [exhausted, Bool.and_eq_true] at h
  have hblocks := blocks_of_queueEmpty h.1
  have htick : (m.tick i).axis = { m.axis with registers := i.registers } :=
    tick_of_blocks_eq_nil i hblocks
  rw [exhausted, htick, Bool.and_eq_true]
  exact h

/-- The motor may finish the move of a stage, not more. -/
theorem stagesLeft_tick : (m.tick i).stagesLeft homes ≤ m.stagesLeft homes ∧
    ((m.tick i).stagesLeft homes = 0 ↔ m.stagesLeft homes = 0) := by
  have hstate : (m.tick i).state = m.state := rfl
  have hhold : (m.tick i).onHold = m.onHold := rfl
  have hvalid : (m.tick i).homingValid = m.homingValid := rfl
  simp only [stagesLeft, hstate, hhold, hvalid]
  cases m.onHold with
  | true => simp
  | false =>
      cases hcase : m.state with
      | homeForward | homeBack =>
          cases hexhausted : m.exhausted with
          | true => simp [exhausted_tick hexhausted]
          | false => cases (m.tick i).exhausted <;> simp
      | moving | ready | plannedHome | tmcFailed | homingFailed => simp

theorem wayLeft_of_rests (h : m.stagesLeft homes = 0) : m.wayLeft homes stroke = 0 := if_pos h

theorem rests_of_wayLeft (h : m.wayLeft homes stroke = 0) : m.Rests homes := by
  apply rests_iff.mpr
  rw [wayLeft] at h
  split at h
  · assumption
  · next hsome =>
      have hpos : 0 < m.stagesLeft homes * (stroke + 2) :=
        Nat.mul_pos (Nat.pos_of_ne_zero hsome) (Nat.succ_pos _)
      omega

theorem stagesLeft_le (m : Movable ε) (homes : Bool) : m.stagesLeft homes ≤ 6 := by
  rw [stagesLeft]
  split
  · exact Nat.zero_le 6
  · split
    case h_3 | h_6 | h_7 => decide
    all_goals split <;> decide

theorem wayLeft_le_stages (m : Movable ε) (homes : Bool) (stroke : Nat) :
    m.wayLeft homes stroke ≤ 6 * (stroke + 2) + m.axis.stepsLeft := by
  rw [wayLeft]
  split
  · exact Nat.zero_le _
  · exact Nat.add_le_add_right (Nat.mul_le_mul_right _ (stagesLeft_le m homes)) _

theorem wayLeft_le {m' : Movable ε} (hstages : m'.stagesLeft homes ≤ m.stagesLeft homes)
    (hsteps : m'.axis.stepsLeft ≤ m.axis.stepsLeft) :
    m'.wayLeft homes stroke ≤ m.wayLeft homes stroke := by
  rw [wayLeft, wayLeft]
  split
  · exact Nat.zero_le _
  · next hsome =>
      rw [if_neg (by omega)]
      exact Nat.add_le_add (Nat.mul_le_mul_right _ hstages) hsteps

/-- A step after some of the motor shortens the way. -/
theorem GoesOn.wayLeft_lt {m' : Movable ε} (h : GoesOn homes stroke (m.tick i) m')
    (hmoves : m.axis.queueEmpty = false → i.Moves) (hsome : m.stagesLeft homes ≠ 0) :
    m'.wayLeft homes stroke < m.wayLeft homes stroke := by
  have hstages : (m.tick i).stagesLeft homes ≤ m.stagesLeft homes := stagesLeft_tick.1
  have hsteps : (m.tick i).axis.stepsLeft ≤ m.axis.stepsLeft := AxisData.stepsLeft_tick_le i
  have hpos := Nat.pos_of_ne_zero hsome
  rw [wayLeft, wayLeft, if_neg hsome]
  cases h with
  | advances hstages' hsteps' =>
      split
      · exact Nat.lt_of_lt_of_le (Nat.mul_pos hpos (Nat.succ_pos _)) (Nat.le_add_right _ _)
      · have hle : m'.stagesLeft homes + 1 ≤ m.stagesLeft homes := by omega
        have hmul := Nat.mul_le_mul_right (stroke + 2) hle
        rw [Nat.add_mul] at hmul
        omega
  | waits hbusy hstages' hsteps' =>
      have hbusy' : m.axis.queueEmpty = false := by
        rw [← Bool.not_eq_true]
        intro hqueue
        have htick : (m.tick i).axis = { m.axis with registers := i.registers } :=
          tick_of_blocks_eq_nil i (blocks_of_queueEmpty hqueue)
        rw [htick] at hbusy
        exact absurd (hqueue.symm.trans hbusy) (by decide)
      have hlt : (m.tick i).axis.stepsLeft < m.axis.stepsLeft :=
        AxisData.stepsLeft_tick_lt hbusy' (hmoves hbusy')
      split
      · exact Nat.lt_of_lt_of_le (Nat.mul_pos hpos (Nat.succ_pos _)) (Nat.le_add_right _ _)
      · exact Nat.add_lt_add_of_le_of_lt
          (Nat.mul_le_mul_right (stroke + 2) (hstages'.trans hstages))
          (Nat.lt_of_le_of_lt hsteps' hlt)

end Stages

/-- Moving to the planned slot ends in a move or in a failure of the driver. -/
theorem initMovement_goes {m : Movable ε} {prepare : Movable ε → Movable ε} {stroke : Nat}
    (hempty : m.axis.blocks = [])
    (hprepare : ∀ m', m'.axis.blocks = [] → m'.axis.position = m.axis.position →
      (prepare m').axis.stepsLeft ≤ stroke + 1) :
    ((m.initMovement prepare).2.state = .moving ∨ (m.initMovement prepare).2.state = .tmcFailed) ∧
      (m.initMovement prepare).2.axis.stepsLeft ≤ stroke + 1 := by
  rw [initMovement]
  have hblocks := (blocks_initAxis m.axis).trans hempty
  have hposition := position_initAxis m.axis
  generalize m.axis.initAxis = r at hblocks hposition ⊢
  obtain ⟨ok, axis⟩ := r
  cases ok with
  | true => exact ⟨.inl rfl, hprepare _ hblocks hposition⟩
  | false =>
      exact ⟨.inr rfl, (AxisData.stepsLeft_of_nil hblocks).le.trans (Nat.zero_le _)⟩

end Movable

namespace Idler

/-- No move of the idler is longer than that of a homing. -/
def stroke : Nat := (idlerScale.toSteps (Config.idlerLength * 2)).natAbs

theorem natAbs_slotPosition_le (slot : UInt8) : (slotPosition slot).natAbs ≤ stroke := by
  rw [slotPosition]
  generalize slot.toNat = n
  rcases n with _ | _ | _ | _ | _ | _ | n
  iterate 6 decide
  have hnone : Config.idlerSlotPositions[n + 6]? = none :=
    List.getElem?_eq_none (Nat.le_add_left 6 n)
  rw [List.getD_eq_getElem?_getD, hnone]
  decide

theorem natAbs_intermediateSlotPosition_le (slot : UInt8) :
    (intermediateSlotPosition slot).natAbs ≤ stroke := by
  rw [intermediateSlotPosition]
  generalize slot.toNat = n
  rcases n with _ | _ | _ | _ | _ | _ | n
  iterate 6 decide
  have hnone : Config.idlerIntermediateSlotPositions[n + 6]? = none :=
    List.getElem?_eq_none (Nat.le_add_left 6 n)
  rw [List.getD_eq_getElem?_getD, hnone]
  decide

theorem natAbs_firstMove :
    (idlerScale.toSteps (Config.idlerLength * 2)).natAbs = stroke := rfl

theorem natAbs_secondMove :
    (idlerScale.toSteps (-Config.idlerLength * 2)).natAbs = stroke := by
  decide

variable {i : Idler} {g : Globals} {homes : Bool}

theorem stepsLeft_prepareMove_le (hempty : i.axis.blocks = []) (hzero : i.axis.position = 0) :
    (prepareMoveToPlannedSlot g i).axis.stepsLeft ≤ stroke + 1 := by
  rw [prepareMoveToPlannedSlot]
  dsimp only [Movable.lookUp]
  refine (AxisData.stepsLeft_planMoveTo_le _ _ _).trans ?_
  rw [AxisData.stepsLeft_of_nil hempty, hzero, Int.sub_zero, Nat.zero_add]
  apply Nat.succ_le_succ
  split
  · exact natAbs_slotPosition_le _
  · exact natAbs_intermediateSlotPosition_le _

theorem finishHoming_goes (hempty : i.axis.blocks = []) :
    ((finishHomingAndPlanMoveToParkPos g i).2.state = .moving ∨
        (finishHomingAndPlanMoveToParkPos g i).2.state = .tmcFailed ∨
        (finishHomingAndPlanMoveToParkPos g i).1 = false) ∧
      (finishHomingAndPlanMoveToParkPos g i).2.axis.stepsLeft ≤ stroke + 1 := by
  rw [finishHomingAndPlanMoveToParkPos]
  split
  · exact ⟨.inr (.inr rfl), (AxisData.stepsLeft_of_nil hempty).le.trans (Nat.zero_le _)⟩
  · dsimp only
    generalize hparked : (if i.ext.plannedMove = .disengage then
      ({ i with axis := i.axis.setPosition 0, plannedSlot := idleSlotIndex } : Idler)
      else { i with axis := i.axis.setPosition 0 }) = i'
    have haxis : i'.axis = i.axis.setPosition 0 := by
      rw [← hparked]
      split <;> rfl
    have hblocks : i'.axis.blocks = [] := haxis ▸ hempty
    obtain ⟨hstate, hsteps⟩ := Movable.initMovement_goes hblocks
      fun i'' hblocks hposition =>
        stepsLeft_prepareMove_le (g := g) hblocks
          (hposition.trans (congrArg AxisData.position haxis))
    exact ⟨hstate.imp_right .inl, hsteps⟩

theorem stepsLeft_planHomingMoveBack_le (hempty : i.axis.blocks = []) :
    (planHomingMoveBack g i).axis.stepsLeft ≤ stroke + 1 := by
  rw [planHomingMoveBack]
  have hnone : (i.axis.setPosition (idlerScale.toSteps Config.idlerLength)).stepsLeft = 0 :=
    AxisData.stepsLeft_of_nil hempty
  have hsteps := AxisData.stepsLeft_planMove_le
    (a := i.axis.setPosition (idlerScale.toSteps Config.idlerLength))
    (idlerScale.toSteps (-Config.idlerLength * 2)) (feedRate g.idlerHomingFeedrate) 0
  rw [hnone, Nat.zero_add, natAbs_secondMove] at hsteps
  exact hsteps

theorem stepsLeft_planHomingMoveForward_le (i : Idler) :
    (planHomingMoveForward g i).axis.stepsLeft ≤ i.axis.stepsLeft + (stroke + 1) := by
  rw [planHomingMoveForward]
  have hsteps := AxisData.stepsLeft_planMove_le
    (a := i.axis.setPosition (idlerScale.toSteps Config.idlerOffsetFromHome))
    (idlerScale.toSteps (Config.idlerLength * 2)) (feedRate g.idlerHomingFeedrate) 0
  rw [natAbs_firstMove, Nat.add_assoc] at hsteps
  exact hsteps

theorem planHome_goes (hhold : i.onHold = false) :
    (Idler.planHome i g).2.stagesLeft homes ≤ 4 ∧
      (Idler.planHome i g).2.axis.stepsLeft ≤ i.axis.stepsLeft + (stroke + 1) := by
  have hgo : ¬ (Movable.invalidateHoming i).onHold = true := by
    rw [Movable.invalidateHoming, hhold]
    decide
  rw [Idler.planHome, Movable.planHome]
  dsimp only
  rw [if_neg hgo]
  refine ⟨?_, ?_⟩
  · exact (Movable.stagesLeft_homeForward_le rfl).trans (by decide)
  · refine (stepsLeft_planHomingMoveForward_le _).trans (Nat.le_of_eq ?_)
    exact congrArg (· + (stroke + 1)) (AxisData.stepsLeft_congr (blocks_initAxis _))

/-- A step of an idler that does not rest. -/
theorem goesOn_step (harmed : i.axis.Armed) (hstate : i.state ≠ .plannedHome)
    (hhomes : homes = decide (g.filamentLoaded < .inFSensor)) (hsome : i.stagesLeft homes ≠ 0) :
    Movable.GoesOn homes stroke i (i.step g) := by
  have hhold : i.onHold = false := by
    rw [← Bool.not_eq_true]
    exact fun hheld => hsome (if_pos hheld)
  rw [step, if_neg (by simp [hhold])]
  dsimp only
  rcases Movable.checkUnlessFailed_cases i with ⟨flags, hsame, -⟩ | ⟨hfailed, -, hblocks, hsame⟩
  · rw [hsame]
    apply Movable.GoesOn.of_flags flags
    generalize hi' : i.withFlags flags = i'
    have harmed' : i'.axis.Armed := hi' ▸ harmed
    have hstate' : i'.state ≠ .plannedHome := hi' ▸ hstate
    have hsome' : i'.stagesLeft homes ≠ 0 := hi' ▸ hsome
    have hhold' : i'.onHold = false := hi' ▸ hhold
    clear hi' hsame
    cases hcase : i'.state with
    | moving => exact Movable.goesOn_performMove hcase hhold' (fun _ => rfl) fun _ => rfl
    | homeForward =>
        exact Movable.goesOn_performHomeForward hcase hhold' harmed' hsome'
          fun _ hempty => stepsLeft_planHomingMoveBack_le hempty
    | homeBack =>
        exact Movable.goesOn_performHomeBack hcase hhold' harmed' hsome'
          (fun _ hempty => finishHoming_goes hempty) (finishHoming_of_short g)
    | ready =>
        have hhomes' : i'.homingValid = false ∧ g.filamentLoaded < .inFSensor := by
          simp only [Movable.stagesLeft, hcase, hhold', hhomes] at hsome'
          simpa [and_comm] using hsome'
        dsimp only
        rw [if_pos hhomes']
        obtain ⟨hstages, hsteps⟩ : (Idler.planHome i' g).2.stagesLeft homes ≤ 4 ∧
            (Idler.planHome i' g).2.axis.stepsLeft ≤ i'.axis.stepsLeft + (stroke + 1) :=
          planHome_goes hhold'
        refine .advances (Nat.lt_of_le_of_lt hstages ?_) hsteps
        simp [Movable.stagesLeft, hcase, hhold', hhomes, hhomes']
    | plannedHome => exact absurd hcase hstate'
    | tmcFailed => exact absurd (Movable.stagesLeft_of_failed (.inl hcase)) hsome'
    | homingFailed => exact absurd (Movable.stagesLeft_of_failed (.inr hcase)) hsome'
  · rw [hsame, hfailed.state]
    refine .advances ?_ ((AxisData.stepsLeft_of_nil hblocks).le.trans (Nat.zero_le _))
    rw [Movable.stagesLeft_of_failed (.inl hfailed.state)]
    exact Nat.pos_of_ne_zero hsome

/-- A resting idler goes on resting, and keeps its homing. -/
theorem rests_step (hhomes : homes = decide (g.filamentLoaded < .inFSensor))
    (h : i.Rests homes) :
    (i.step g).Rests homes ∧ (i.step g).homingValid = i.homingValid := by
  rw [step]
  split
  · exact ⟨h, rfl⟩
  · next hhold =>
      dsimp only
      rcases Movable.checkUnlessFailed_cases i with
        ⟨flags, hsame, -⟩ | ⟨hfailed, hvalid, -, hsame⟩
      · rw [hsame]
        generalize hi' : i.withFlags flags = i'
        have h' : i'.Rests homes := hi' ▸ h
        have hhold' : ¬ i'.onHold = true := hi' ▸ hhold
        have hvalid' : i'.homingValid = i.homingValid := hi' ▸ rfl
        clear hi' hsame
        rcases id h' with hheld | hstate | hstate | ⟨hstate, hhomed⟩
        · exact absurd hheld hhold'
        · rw [hstate]
          exact ⟨h', hvalid'⟩
        · rw [hstate]
          exact ⟨h', hvalid'⟩
        · have hstays : ¬ (i'.homingValid = false ∧ g.filamentLoaded < .inFSensor) := by
            rintro ⟨hinvalid, hlow⟩
            have hhomed' := hhomed (by rw [hhomes, decide_eq_true hlow])
            exact absurd (hhomed'.symm.trans hinvalid) (by decide)
          rw [hstate]
          dsimp only
          rw [if_neg hstays]
          exact ⟨h', hvalid'⟩
      · rw [hsame, hfailed.state]
        exact ⟨.inr (.inl hfailed.state), hvalid⟩

end Idler

namespace Selector

/-- No move of the selector is longer than the first one of a homing. -/
def stroke : Nat := (selectorScale.toSteps (Config.selectorLength * 2)).natAbs

/-- Wherever the selector is sent from the end of its axis. -/
theorem natAbs_slotPosition_le (slot : UInt8) :
    (slotPosition slot - selectorScale.toSteps Config.selectorLength).natAbs ≤ stroke := by
  rw [slotPosition]
  generalize slot.toNat = n
  rcases n with _ | _ | _ | _ | _ | _ | n
  iterate 6 decide
  have hnone : Config.selectorSlotPositions[n + 6]? = none :=
    List.getElem?_eq_none (Nat.le_add_left 6 n)
  rw [List.getD_eq_getElem?_getD, hnone]
  decide

theorem natAbs_firstMove :
    (selectorScale.toSteps (-Config.selectorLength * 2)).natAbs = stroke := by
  decide

theorem natAbs_secondMove :
    (selectorScale.toSteps (Config.selectorLength * 2)).natAbs = stroke := rfl

variable {s : Selector} {g : Globals} {homes : Bool}

theorem stepsLeft_prepareMove_le (hempty : s.axis.blocks = [])
    (hend : s.axis.position = selectorScale.toSteps Config.selectorLength) :
    (prepareMoveToPlannedSlot g s).axis.stepsLeft ≤ stroke + 1 := by
  rw [prepareMoveToPlannedSlot]
  dsimp only [Movable.lookUp]
  refine (AxisData.stepsLeft_planMoveTo_le _ _ _).trans ?_
  rw [AxisData.stepsLeft_of_nil hempty, hend, Nat.zero_add]
  exact Nat.succ_le_succ (natAbs_slotPosition_le _)

theorem finishHoming_goes (hempty : s.axis.blocks = []) :
    ((finishHomingAndPlanMoveToParkPos g s).2.state = .moving ∨
        (finishHomingAndPlanMoveToParkPos g s).2.state = .tmcFailed ∨
        (finishHomingAndPlanMoveToParkPos g s).1 = false) ∧
      (finishHomingAndPlanMoveToParkPos g s).2.axis.stepsLeft ≤ stroke + 1 := by
  rw [finishHomingAndPlanMoveToParkPos]
  split
  · exact ⟨.inr (.inr rfl), (AxisData.stepsLeft_of_nil hempty).le.trans (Nat.zero_le _)⟩
  · dsimp only
    generalize hparked : (if s.plannedSlot > Config.toolCount then
      ({ s with
          axis := s.axis.setPosition (selectorScale.toSteps Config.selectorLength)
          currentSlot := 0xff
          plannedSlot := idleSlotIndex } : Selector)
      else
        { s with
          axis := s.axis.setPosition (selectorScale.toSteps Config.selectorLength)
          currentSlot := 0xff }) = s'
    have haxis : s'.axis = s.axis.setPosition (selectorScale.toSteps Config.selectorLength) := by
      rw [← hparked]
      split <;> rfl
    have hblocks : s'.axis.blocks = [] := haxis ▸ hempty
    obtain ⟨hstate, hsteps⟩ := Movable.initMovement_goes hblocks
      fun s'' hblocks hposition =>
        stepsLeft_prepareMove_le (g := g) hblocks
          (hposition.trans (congrArg AxisData.position haxis))
    exact ⟨hstate.imp_right .inl, hsteps⟩

theorem stepsLeft_planHomingMoveBack_le (hempty : s.axis.blocks = []) :
    (planHomingMoveBack g s).axis.stepsLeft ≤ stroke + 1 := by
  rw [planHomingMoveBack]
  have hnone : (s.axis.setPosition 0).stepsLeft = 0 := AxisData.stepsLeft_of_nil hempty
  have hsteps := AxisData.stepsLeft_planMove_le (a := s.axis.setPosition 0)
    (selectorScale.toSteps (Config.selectorLength * 2)) (feedRate g.selectorHomingFeedrate) 0
  rw [hnone, Nat.zero_add, natAbs_secondMove] at hsteps
  exact hsteps

theorem planHome_goes (hhold : s.onHold = false) :
    (Selector.planHome s g).2.stagesLeft homes = 4 ∧
      (Selector.planHome s g).2.axis.stepsLeft = s.axis.stepsLeft := by
  have hgo : ¬ (Movable.invalidateHoming s).onHold = true := by
    rw [Movable.invalidateHoming, hhold]
    decide
  rw [Selector.planHome, Movable.planHome]
  dsimp only
  rw [if_neg hgo]
  exact ⟨rfl, AxisData.stepsLeft_congr (blocks_initAxis _)⟩

/-- A step of a selector that does not rest, and that waits neither for FINDA nor for the idler. -/
theorem goesOn_step (harmed : s.axis.Armed)
    (hhomes : homes = decide (g.filamentLoaded < .inSelector)) (hsome : s.stagesLeft homes ≠ 0)
    {idlerHomingValid : Bool} (hidler : s.state = .plannedHome → idlerHomingValid = true) :
    Movable.GoesOn homes stroke s (s.step g false idlerHomingValid) := by
  have hhold : s.onHold = false := by
    rw [← Bool.not_eq_true]
    exact fun hheld => hsome (if_pos hheld)
  rw [step, if_neg (by simp [hhold])]
  dsimp only
  rcases Movable.checkUnlessFailed_cases s with ⟨flags, hsame, -⟩ | ⟨hfailed, -, hblocks, hsame⟩
  · rw [hsame]
    apply Movable.GoesOn.of_flags flags
    generalize hs' : s.withFlags flags = s'
    have harmed' : s'.axis.Armed := hs' ▸ harmed
    have hidler' : s'.state = .plannedHome → idlerHomingValid = true := hs' ▸ hidler
    have hsome' : s'.stagesLeft homes ≠ 0 := hs' ▸ hsome
    have hhold' : s'.onHold = false := hs' ▸ hhold
    clear hs' hsame
    cases hcase : s'.state with
    | moving =>
        exact Movable.goesOn_performMove hcase hhold' (fun _ => rfl) fun s => blocks_disable s.axis
    | plannedHome =>
        dsimp only
        rw [if_pos (hidler' hcase)]
        refine .advances ?_ ?_
        · have hplanned : s'.stagesLeft homes = 4 := by
            simp [Movable.stagesLeft, hcase, hhold']
          rw [hplanned]
          exact Nat.lt_succ_of_le (Movable.stagesLeft_homeForward_le rfl)
        · have hsteps := AxisData.stepsLeft_planMove_le (a := s'.axis)
            (selectorScale.toSteps (-Config.selectorLength * 2))
            (feedRate g.selectorHomingFeedrate) 0
          rw [natAbs_firstMove, Nat.add_assoc] at hsteps
          exact hsteps
    | homeForward =>
        exact Movable.goesOn_performHomeForward hcase hhold' harmed' hsome'
          fun _ hempty => stepsLeft_planHomingMoveBack_le hempty
    | homeBack =>
        exact Movable.goesOn_performHomeBack hcase hhold' harmed' hsome'
          (fun _ hempty => finishHoming_goes hempty) (finishHoming_of_short g)
    | ready =>
        have hhomes' : s'.homingValid = false ∧ g.filamentLoaded < .inSelector := by
          simp only [Movable.stagesLeft, hcase, hhold', hhomes] at hsome'
          simpa [and_comm] using hsome'
        dsimp only
        rw [if_pos ⟨hhomes'.1, hhomes'.2, rfl⟩]
        obtain ⟨hstages, hsteps⟩ : (Selector.planHome s' g).2.stagesLeft homes = 4 ∧
            (Selector.planHome s' g).2.axis.stepsLeft = s'.axis.stepsLeft := planHome_goes hhold'
        refine .advances ?_ (hsteps.le.trans (Nat.le_add_right _ _))
        rw [hstages]
        simp [Movable.stagesLeft, hcase, hhold', hhomes, hhomes']
    | tmcFailed => exact absurd (Movable.stagesLeft_of_failed (.inl hcase)) hsome'
    | homingFailed => exact absurd (Movable.stagesLeft_of_failed (.inr hcase)) hsome'
  · rw [hsame, hfailed.state]
    refine .advances ?_ ((AxisData.stepsLeft_of_nil hblocks).le.trans (Nat.zero_le _))
    rw [Movable.stagesLeft_of_failed (.inl hfailed.state)]
    exact Nat.pos_of_ne_zero hsome

/-- A resting selector goes on resting. -/
theorem rests_step (hhomes : homes = decide (g.filamentLoaded < .inSelector))
    (idlerHomingValid : Bool) (h : s.Rests homes) :
    (s.step g false idlerHomingValid).Rests homes := by
  rw [step]
  split
  · exact h
  · next hhold =>
      dsimp only
      rcases Movable.checkUnlessFailed_cases s with ⟨flags, hsame, -⟩ | ⟨hfailed, -, -, hsame⟩
      · rw [hsame]
        generalize hs' : s.withFlags flags = s'
        have h' : s'.Rests homes := hs' ▸ h
        have hhold' : ¬ s'.onHold = true := hs' ▸ hhold
        clear hs' hsame
        rcases id h' with hheld | hstate | hstate | ⟨hstate, hhomed⟩
        · exact absurd hheld hhold'
        · rw [hstate]
          exact h'
        · rw [hstate]
          exact h'
        · have hstays : ¬ (s'.homingValid = false ∧ g.filamentLoaded < .inSelector ∧
              false = false) := by
            rintro ⟨hinvalid, hlow, -⟩
            have hhomed' := hhomed (by rw [hhomes, decide_eq_true hlow])
            exact absurd (hhomed'.symm.trans hinvalid) (by decide)
          rw [hstate]
          dsimp only
          rw [if_neg hstays]
          exact h'
      · rw [hsame, hfailed.state]
        exact .inr (.inl hfailed.state)

/-- A selector waiting for the idler goes on doing so, unless its driver fails. -/
theorem waits_step (g : Globals) (homes : Bool) (hstate : s.state = .plannedHome) :
    (s.step g false false).Rests homes ∨
      (s.step g false false).state = .plannedHome ∧
        (s.step g false false).stagesLeft homes ≤ s.stagesLeft homes ∧
        (s.step g false false).axis.stepsLeft ≤ s.axis.stepsLeft := by
  rw [step]
  split
  · exact .inr ⟨hstate, Nat.le_refl _, Nat.le_refl _⟩
  · dsimp only
    rcases Movable.checkUnlessFailed_cases s with ⟨flags, hsame, -⟩ | ⟨hfailed, -, -, hsame⟩
    · have hstate' : (s.withFlags flags).state = .plannedHome := hstate
      rw [hsame, hstate']
      exact .inr ⟨hstate, Nat.le_refl _, Nat.le_refl _⟩
    · rw [hsame, hfailed.state]
      exact .inl (.inr (.inl hfailed.state))

end Selector

section Way

variable {g : Globals} {homes : Bool} {input : AxisInput}

theorem Idler.wayLeft_step_lt {i : Idler} (harmed : i.axis.Armed) (hstate : i.state ≠ .plannedHome)
    (hhomes : homes = decide (g.filamentLoaded < .inFSensor))
    (hmoves : i.axis.queueEmpty = false → input.Moves) (hsome : i.stagesLeft homes ≠ 0) :
    (Idler.step (i.tick input) g).wayLeft homes Idler.stroke < i.wayLeft homes Idler.stroke := by
  have harmed' : (i.tick input).axis.Armed := ((AxisData.Tuned.refl _).tick input).armed harmed
  have hsome' : (i.tick input).stagesLeft homes ≠ 0 :=
    fun h => hsome (Movable.stagesLeft_tick.2.mp h)
  exact (goesOn_step harmed' hstate hhomes hsome').wayLeft_lt hmoves hsome

variable {s : Selector} {idlerHomingValid : Bool}

theorem Selector.wayLeft_step_lt (harmed : s.axis.Armed)
    (hhomes : homes = decide (g.filamentLoaded < .inSelector))
    (hmoves : s.axis.queueEmpty = false → input.Moves) (hsome : s.stagesLeft homes ≠ 0)
    (hidler : s.state = .plannedHome → idlerHomingValid = true) :
    (Selector.step (s.tick input) g false idlerHomingValid).wayLeft homes Selector.stroke <
      s.wayLeft homes Selector.stroke := by
  have harmed' : (s.tick input).axis.Armed := ((AxisData.Tuned.refl _).tick input).armed harmed
  have hsome' : (s.tick input).stagesLeft homes ≠ 0 :=
    fun h => hsome (Movable.stagesLeft_tick.2.mp h)
  exact (goesOn_step harmed' hhomes hsome' hidler).wayLeft_lt hmoves hsome

theorem Selector.wayLeft_step_le (harmed : s.axis.Armed)
    (hhomes : homes = decide (g.filamentLoaded < .inSelector))
    (hmoves : s.axis.queueEmpty = false → input.Moves) :
    (Selector.step (s.tick input) g false idlerHomingValid).wayLeft homes Selector.stroke ≤
      s.wayLeft homes Selector.stroke := by
  by_cases hrest : s.stagesLeft homes = 0
  · have hrests := rests_step hhomes idlerHomingValid
      (Movable.rests_iff.mpr (Movable.stagesLeft_tick (i := input).2.mpr hrest))
    rw [Movable.wayLeft_of_rests (Movable.rests_iff.mp hrests)]
    exact Nat.zero_le _
  · by_cases hwaits : s.state = .plannedHome ∧ idlerHomingValid = false
    · obtain ⟨hstate, rfl⟩ := hwaits
      have hstate' : (s.tick input).state = .plannedHome := hstate
      rcases waits_step g homes hstate' with hrests | ⟨-, hstages, hsteps⟩
      · rw [Movable.wayLeft_of_rests (Movable.rests_iff.mp hrests)]
        exact Nat.zero_le _
      · exact Movable.wayLeft_le (hstages.trans Movable.stagesLeft_tick.1)
          (hsteps.trans (AxisData.stepsLeft_tick_le input))
    · exact (wayLeft_step_lt harmed hhomes hmoves hrest fun hstate => by
        simpa [hstate] using hwaits).le

end Way

end MmuFirmware
