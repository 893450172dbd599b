import MmuFirmware.Modules.Plans
import MmuFirmware.Modules.SelectorMotion

/-!
What `motion.h` asks of its callers: no axis is disabled, initialised, given a mode or another
position while moves are queued, and no move is planned into a full queue. The idler and the
selector keep to it, except that a homing is planned anew while the one before is under way.
-/
namespace MmuFirmware

namespace AxisData

/-- Whether the axis has been misused is known, and with an axis that has not, how many moves are
queued at most. -/
structure Used (a : AxisData) (spoilt : Bool) (n : Nat) : Prop where
  misused : a.misused = spoilt
  room : spoilt = false → a.blocks.length ≤ n

namespace Used

variable {a a' : AxisData} {spoilt : Bool} {n n' : Nat}

theorem congr (h : a.Used spoilt n) (hmisused : a'.misused = a.misused)
    (hblocks : a'.blocks = a.blocks) : a'.Used spoilt n :=
  ⟨hmisused.trans h.misused, fun hclean => hblocks ▸ h.room hclean⟩

theorem mono (h : a.Used spoilt n) (hn : n ≤ n') : a.Used spoilt n' :=
  ⟨h.misused, fun hclean => Nat.le_trans (h.room hclean) hn⟩

theorem of_misused (h : a.misused = true) (n : Nat) : a.Used true n :=
  ⟨h, fun hclean => absurd hclean (by decide)⟩

theorem emptied (h : a.Used spoilt n) (hempty : spoilt = false → a.queueEmpty = true) :
    a.Used spoilt 0 := by
  refine ⟨h.misused, fun hclean => ?_⟩
  rw [Movable.blocks_of_queueEmpty (hempty hclean)]
  exact Nat.le_refl 0

theorem queueEmpty (h : a.Used false 0) : a.queueEmpty = true :=
  List.isEmpty_iff.mpr (List.length_eq_zero_iff.mp (Nat.le_zero.mp (h.room rfl)))

/-- What needs an empty queue spoils nothing with an empty one. -/
theorem needsQueueEmpty (h : a.Used spoilt 0) : a.needsQueueEmpty.Used spoilt 0 := by
  cases spoilt with
  | true => exact of_misused (by rw [AxisData.needsQueueEmpty, h.misused, Bool.true_or]) 0
  | false =>
      refine ⟨?_, h.room⟩
      rw [AxisData.needsQueueEmpty, h.misused, h.queueEmpty]
      rfl

theorem setEnabled (h : a.Used spoilt n) (enabled : Bool) :
    (a.setEnabled enabled).Used spoilt n := by
  rw [AxisData.setEnabled]
  split
  · exact h
  · exact h.congr rfl rfl

theorem disable (h : a.Used spoilt 0) : a.disable.Used spoilt 0 :=
  h.needsQueueEmpty.setEnabled false

theorem setMode (h : a.Used spoilt 0) (mode : MotorMode) : (a.setMode mode).Used spoilt 0 :=
  h.needsQueueEmpty.congr rfl rfl

theorem setPosition (h : a.Used spoilt 0) (x : Int) : (a.setPosition x).Used spoilt 0 :=
  h.needsQueueEmpty.congr rfl rfl

theorem initDriver (h : a.Used spoilt n) : a.initDriver.2.Used spoilt n := by
  rw [AxisData.initDriver]
  dsimp only
  split <;> exact h.congr rfl rfl

theorem initAxis (h : a.Used spoilt 0) : a.initAxis.2.Used spoilt 0 := h.disable.initDriver

theorem stallGuardReset (h : a.Used spoilt n) : a.stallGuardReset.Used spoilt n := h.congr rfl rfl

theorem abortPlannedMoves (h : a.Used spoilt n) : a.abortPlannedMoves.Used spoilt 0 :=
  ⟨h.misused, fun _ => Nat.le_refl 0⟩

theorem checkForErrors (h : a.Used spoilt n) : a.checkForErrors.2.Used spoilt n := by
  rw [AxisData.checkForErrors]
  split
  · exact h.congr rfl rfl
  · exact h

theorem planMoveTo (h : a.Used spoilt n) (hn : n < Config.blockBufferSize) (pos : Int)
    (feedRate endRate : Nat) : (a.planMoveTo pos feedRate endRate).Used spoilt (n + 1) := by
  rw [AxisData.planMoveTo]
  split
  · next hfull =>
      cases spoilt with
      | true => exact of_misused rfl _
      | false => exact absurd hfull (Nat.ne_of_lt (Nat.lt_of_le_of_lt (h.room rfl) hn))
  · split
    · refine setEnabled ?_ true
      exact (h.mono n.le_succ).congr rfl rfl
    · refine setEnabled ?_ true
      refine ⟨h.misused, fun hclean => ?_⟩
      rw [List.length_append]
      exact Nat.succ_le_succ (h.room hclean)

theorem planMove (h : a.Used spoilt n) (hn : n < Config.blockBufferSize) (delta : Int)
    (feedRate endRate : Nat) : (a.planMove delta feedRate endRate).Used spoilt (n + 1) :=
  h.planMoveTo hn _ feedRate endRate

theorem sampleDiag (h : a.Used spoilt n) (diag : Bool) : (a.sampleDiag diag).Used spoilt n := by
  rw [AxisData.sampleDiag]
  split
  · exact h
  · split
    · exact h.congr rfl rfl
    · split
      · exact h.congr rfl rfl
      · exact h

theorem pulse (h : a.Used spoilt n) (steps : Nat) (diag : Bool) :
    (a.pulse steps diag).Used spoilt n := by
  rw [AxisData.pulse]
  split
  · exact h
  · next b rest hblocks =>
      refine sampleDiag ?_ diag
      refine ⟨h.misused, fun hclean => ?_⟩
      have hroom := h.room hclean
      rw [hblocks] at hroom
      dsimp only
      split
      · exact hroom
      · exact Nat.le_trans (Nat.le_succ _) hroom

theorem tick (h : a.Used spoilt n) (i : AxisInput) : (a.tick i).Used spoilt n := by
  rw [AxisData.tick]
  have hpulses : ∀ (pulses : List (Nat × Bool)) (a : AxisData), a.Used spoilt n →
      (pulses.foldl (fun a p => a.pulse p.1 p.2) a).Used spoilt n := by
    intro pulses
    induction pulses with
    | nil => exact fun _ h => h
    | cons p pulses ih => exact fun a h => ih _ (h.pulse p.1 p.2)
  exact hpulses i.pulses _ (h.congr rfl rfl)

end Used

/-- With moves in the queue it spoils the axis. -/
theorem needsQueueEmpty_spoils {a : AxisData} (h : a.queueEmpty = false) (n : Nat) :
    a.needsQueueEmpty.Used true n :=
  .of_misused (by rw [needsQueueEmpty, h, Bool.not_false, Bool.or_true]) n

end AxisData

open AxisData (Used)

/-- The calls that need an empty queue. -/
def AxisCall.needsQueueEmpty : AxisCall → Bool
  | disable | initAxis | setMode _ => true
  | tick _ | abortPlannedMoves | clearQueueFull | setIRun _ | setAcceleration _ => false

namespace AxisCall

variable {a : AxisData} {spoilt : Bool} {n : Nat} {c : AxisCall}

theorem used_run (h : a.Used spoilt n) (hneeds : c.needsQueueEmpty = true → a.Used spoilt 0) :
    (c.run a).Used spoilt n := by
  cases c with
  | tick i => exact h.tick i
  | abortPlannedMoves => exact h.abortPlannedMoves.mono n.zero_le
  | disable => exact (hneeds rfl).disable.mono n.zero_le
  | initAxis => exact (hneeds rfl).initAxis.mono n.zero_le
  | setMode mode => exact ((hneeds rfl).setMode mode).mono n.zero_le
  | clearQueueFull | setIRun | setAcceleration => exact h.congr rfl rfl

theorem run_spoils (hneeds : c.needsQueueEmpty = true) (h : a.queueEmpty = false) (n : Nat) :
    (c.run a).Used true n := by
  have hspoilt := AxisData.needsQueueEmpty_spoils h n
  cases c with
  | disable => exact hspoilt.setEnabled false
  | initAxis => exact (hspoilt.setEnabled false).initDriver
  | setMode mode => exact hspoilt.congr rfl rfl
  | tick | abortPlannedMoves | clearQueueFull | setIRun | setAcceleration => cases hneeds

end AxisCall

namespace Movable

variable {ε : Type} {m : Movable ε} {spoilt : Bool}

/-- How many moves a movable in the state has queued at most. -/
def allowance : MovableState → Nat
  | .moving => 2
  | .homeForward | .homeBack => 1
  | .ready | .plannedHome | .tmcFailed | .homingFailed => 0

/-- No more moves are queued than the state allows, and on hold none are. -/
structure Orderly (m : Movable ε) (spoilt : Bool) : Prop where
  used : m.axis.Used spoilt (allowance m.state)
  held : m.onHold = true → m.axis.Used spoilt 0

namespace Orderly

theorem setState {s : MovableState} (h : m.axis.Used spoilt (allowance s)) :
    (m.setState s).Orderly spoilt :=
  ⟨h, fun hhold => absurd hhold (by decide : ¬ false = true)⟩

theorem of_empty (h : m.axis.Used spoilt 0) : m.Orderly spoilt :=
  ⟨h.mono (Nat.zero_le _), fun _ => h⟩

theorem axis (h : m.Orderly spoilt) {a : AxisData}
    (ha : ∀ n, m.axis.Used spoilt n → a.Used spoilt n) : Orderly { m with axis := a } spoilt :=
  ⟨ha _ h.used, fun hhold => ha _ (h.held hhold)⟩

theorem room (h : m.Orderly spoilt) : m.axis.Used spoilt 2 := by
  refine h.used.mono ?_
  cases m.state <;> decide

theorem room_of_idle (h : m.Orderly spoilt) (hmoving : ¬ m.isIn .moving = true) :
    m.axis.Used spoilt 1 := by
  cases hhold : m.onHold with
  | true => exact (h.held hhold).mono (Nat.zero_le 1)
  | false =>
      refine h.used.mono ?_
      rw [isIn, hhold] at hmoving
      generalize m.state = s at hmoving ⊢
      cases s <;> simp [allowance] at hmoving ⊢

/-- Only a movable that moves or homes has moves queued. -/
theorem cases_of_busy (h : m.Orderly false) (hbusy : m.axis.queueEmpty = false) :
    m.isIn .moving = true ∨ m.isIn .homeForward = true ∨ m.isIn .homeBack = true := by
  have hhold : m.onHold = false := by
    rw [← Bool.not_eq_true]
    exact fun hhold => absurd (h.held hhold).queueEmpty (by simp [hbusy])
  have hstate : allowance m.state ≠ 0 := by
    intro hnone
    have hused := h.used
    rw [hnone] at hused
    exact absurd hused.queueEmpty (by simp [hbusy])
  rw [isIn, isIn, isIn, hhold]
  generalize m.state = s at hstate ⊢
  cases s <;> simp [allowance] at hstate ⊢

theorem resume (h : m.Orderly spoilt) : m.resume.Orderly spoilt :=
  ⟨h.used, fun hhold => absurd hhold (by decide : ¬ false = true)⟩

theorem invalidateHoming (h : m.Orderly spoilt) : m.invalidateHoming.Orderly spoilt :=
  ⟨h.used, h.held⟩

theorem holdOn (h : m.Orderly spoilt) : m.holdOn.Orderly spoilt :=
  of_empty h.used.abortPlannedMoves.disable

theorem homeFailed (h : m.axis.Used spoilt 0) : m.homeFailed.Orderly spoilt := setState h.disable

/-- A homing that is accepted initialises the axis. -/
theorem planHome_accepted (hhold : m.onHold = false)
    (hinit : m.axis.needsQueueEmpty.Used spoilt 0) (sgThrs : UInt8) {plan : Movable ε → Movable ε}
    (hplan : ∀ m' : Movable ε, m'.Enters .homeForward → m'.axis.Used spoilt 0 →
      (plan m').Orderly spoilt) :
    (m.planHome sgThrs plan).2.Orderly spoilt := by
  have hgoes : ¬ m.invalidateHoming.onHold = true := (Bool.not_eq_true _).mpr hhold
  have hinit : ({ m.axis with sgThrs } : AxisData).needsQueueEmpty.Used spoilt 0 :=
    hinit.congr rfl rfl
  rw [Movable.planHome]
  dsimp only
  rw [if_neg hgoes]
  refine hplan _ ⟨rfl, rfl⟩ ?_
  exact ((hinit.setEnabled false).initDriver.setMode .normal).stallGuardReset

theorem planHome (h : m.Orderly spoilt) (hempty : spoilt = false → m.axis.queueEmpty = true)
    (sgThrs : UInt8) {plan : Movable ε → Movable ε}
    (hplan : ∀ m' : Movable ε, m'.Enters .homeForward → m'.axis.Used spoilt 0 →
      (plan m').Orderly spoilt) :
    (m.planHome sgThrs plan).2.Orderly spoilt := by
  cases hhold : m.onHold with
  | true =>
      have hrefuses : m.invalidateHoming.onHold = true := hhold
      rw [Movable.planHome]
      dsimp only
      rw [if_pos hrefuses]
      exact h.invalidateHoming
  | false => exact planHome_accepted hhold (h.used.emptied hempty).needsQueueEmpty sgThrs hplan

theorem initMovementNoReinitAxis {prepare : Movable ε → Movable ε}
    (hprepare : (prepare m).axis.Used spoilt 2) :
    (m.initMovementNoReinitAxis prepare).2.Orderly spoilt := setState hprepare

theorem initMovement (h : m.axis.Used spoilt 0) {prepare : Movable ε → Movable ε}
    (hprepare : ∀ m' : Movable ε, m'.axis.Used spoilt 0 → (prepare m').axis.Used spoilt 2) :
    (m.initMovement prepare).2.Orderly spoilt := by
  rw [Movable.initMovement]
  dsimp only
  split
  · exact setState (hprepare _ h.initAxis)
  · exact setState h.initAxis

theorem performMove (h : m.Orderly spoilt) {finish : Movable ε → Movable ε}
    (hfinish : ∀ m' : Movable ε, m'.axis.Used spoilt 0 → (finish m').axis.Used spoilt 0) :
    (m.performMove finish).Orderly spoilt := by
  rw [Movable.performMove]
  split
  · next hempty => exact setState (hfinish _ (h.used.emptied fun _ => hempty))
  · exact h

theorem performHomeForward (h : m.Orderly spoilt) {allowed : Movable ε → Bool → Bool}
    {plan : Movable ε → Movable ε}
    (hplan : ∀ m' : Movable ε, m'.axis.Used spoilt 0 → (plan m').axis.Used spoilt 1) :
    (m.performHomeForward allowed plan).Orderly spoilt := by
  rw [Movable.performHomeForward]
  have hreset : Orderly { m with axis := m.axis.stallGuardReset } spoilt :=
    h.axis fun _ hused => hused.stallGuardReset
  dsimp only
  split
  · split
    · exact setState (hplan _ hreset.used.abortPlannedMoves)
    · exact hreset
  · split
    · next hempty => exact homeFailed (h.used.emptied fun _ => hempty)
    · exact h

/-- Where the length measured is not accepted, the axis is left as it is. -/
theorem performHomeBack (h : m.Orderly spoilt) (g : Globals) {allowed : Movable ε → Bool → Bool}
    {finish : Movable ε → Bool × Movable ε}
    (hfinish : ∀ m' : Movable ε, m'.axis.Used spoilt 0 → (finish m').2.Orderly spoilt ∧
      ((finish m').1 = false → (finish m').2 = m')) :
    (m.performHomeBack g allowed finish).Orderly spoilt := by
  rw [Movable.performHomeBack]
  have hreset : Orderly { m with axis := m.axis.stallGuardReset } spoilt :=
    h.axis fun _ hused => hused.stallGuardReset
  dsimp only
  split
  · split
    · generalize (if g.stealthMode = true then MotorMode.stealth else .normal) = mode
      have haborted := hreset.used.abortPlannedMoves.setMode mode
      obtain ⟨hfinished, hshort⟩ := hfinish
        { m with axis := m.axis.stallGuardReset.abortPlannedMoves.setMode mode } haborted
      split
      · exact ⟨hfinished.used, hfinished.held⟩
      · next hfailed =>
          rw [hshort ((Bool.not_eq_true _).mp hfailed)]
          exact homeFailed haborted
    · exact hreset
  · split
    · next hempty => exact homeFailed (h.used.emptied fun _ => hempty)
    · exact h

theorem checkUnlessFailed (h : m.Orderly spoilt) :
    (if m.state = .tmcFailed then m else m.checkTMC).Orderly spoilt := by
  split
  · exact h
  · rw [checkTMC]
    dsimp only
    split
    · exact setState h.used.checkForErrors.abortPlannedMoves
    · exact h.axis fun _ hused => hused.checkForErrors

end Orderly

/-- A homing is under way in its first half. -/
structure HomesForward (m : Movable ε) : Prop where
  state : m.isIn .homeForward = true
  homing : m.homingValid = false
  busy : m.axis.queueEmpty = false

/-- A movable that neither moves nor comes back from a homing has moves queued only for the first
half of one. -/
theorem Orderly.queueEmpty_of_idle (h : m.Orderly false) (hmoving : ¬ m.isIn .moving = true)
    (hback : ¬ m.isIn .homeBack = true) (hvalid : m.homingValid = false)
    (hhomes : ¬ m.HomesForward) : m.axis.queueEmpty = true := by
  cases hbusy : m.axis.queueEmpty with
  | true => rfl
  | false =>
      rcases h.cases_of_busy hbusy with hstate | hstate | hstate
      · exact absurd hstate hmoving
      · exact absurd ⟨hstate, hvalid, hbusy⟩ hhomes
      · exact absurd hstate hback

end Movable

open Movable (Orderly)

namespace Idler

variable {i : Idler} {spoilt : Bool} (g : Globals)

theorem used_prepareMove {n : Nat} (h : i.axis.Used spoilt n) (hn : n ≤ 1) :
    (prepareMoveToPlannedSlot g i).axis.Used spoilt 2 := by
  refine (h.planMoveTo (n := n) ?_ _ _ _).mono (Nat.succ_le_succ hn)
  exact Nat.lt_of_le_of_lt hn (by decide)

theorem used_planHomingMoveBack (h : i.axis.Used spoilt 0) :
    (planHomingMoveBack g i).axis.Used spoilt 1 :=
  (h.setPosition _).planMove (by decide) _ _ _

theorem orderly_finishHoming (h : i.axis.Used spoilt 0) :
    (finishHomingAndPlanMoveToParkPos g i).2.Orderly spoilt ∧
      ((finishHomingAndPlanMoveToParkPos g i).1 = false →
        (finishHomingAndPlanMoveToParkPos g i).2 = i) := by
  refine ⟨?_, finishHoming_of_short g i⟩
  rw [finishHomingAndPlanMoveToParkPos]
  split
  · exact .of_empty h
  · dsimp only
    have hset : (i.axis.setPosition 0).Used spoilt 0 := h.setPosition 0
    split
    · exact Orderly.initMovement hset fun _ hused => used_prepareMove g hused (Nat.zero_le 1)
    · exact Orderly.initMovement hset fun _ hused => used_prepareMove g hused (Nat.zero_le 1)

theorem orderly_planHomingMoveForward (henters : i.Enters .homeForward) (h : i.axis.Used spoilt 0) :
    (planHomingMoveForward g i).Orderly spoilt := by
  refine ⟨?_, fun hhold => absurd (henters.onHold.symm.trans hhold) (by decide)⟩
  show Used _ spoilt (Movable.allowance i.state)
  rw [henters.state]
  exact (h.setPosition _).planMove (by decide) _ _ _

theorem orderly_planHome (h : i.Orderly spoilt)
    (hempty : spoilt = false → i.axis.queueEmpty = true) :
    (Idler.planHome i g).2.Orderly spoilt :=
  h.planHome hempty _ fun _ => orderly_planHomingMoveForward g

/-- A request is in order, unless it begins a homing anew. -/
theorem orderly_planMoveInner (h : i.Orderly spoilt) (slot : UInt8) (plannedOp : IdlerOperation)
    (hhomes : spoilt = false → ¬ i.HomesForward) :
    (i.planMoveInner g slot plannedOp).2.Orderly spoilt := by
  rw [planMoveInner]
  split
  · exact h
  · next hgoes =>
      obtain ⟨hmoving, -⟩ := not_or.mp hgoes
      have hplanned : Orderly
          { i with plannedSlot := slot, ext := { i.ext with plannedMove := plannedOp } } spoilt :=
        ⟨h.used, h.held⟩
      dsimp only
      split
      · exact hplanned
      · next hback =>
          split
          · next hvalid =>
              refine orderly_planHome g hplanned fun hclean => ?_
              subst hclean
              exact h.queueEmpty_of_idle hmoving hback hvalid (hhomes rfl)
          · split
            · exact hplanned
            · exact Orderly.initMovementNoReinitAxis
                (used_prepareMove g (h.room_of_idle hmoving) (Nat.le_refl 1))

/-- A request during the first half of a homing plans it anew, on top of the moves queued. -/
theorem planMoveInner_spoils (hhomes : i.HomesForward) (slot : UInt8) (plannedOp : IdlerOperation) :
    (i.planMoveInner g slot plannedOp).2.Orderly true := by
  obtain ⟨hstate, hvalid, hbusy⟩ := hhomes
  obtain ⟨hstate, hhold⟩ := Movable.isIn_iff.mp hstate
  have hgoes : ¬ (i.isIn .moving = true ∨ i.onHold = true) := by
    rw [Movable.isIn, hstate, hhold]
    decide
  have hback : ¬ i.isIn .homeBack = true := by
    rw [Movable.isIn, hstate, hhold]
    decide
  have hspoils : ∀ i' : Idler, i'.axis = i.axis → i'.onHold = i.onHold →
      (Idler.planHome i' g).2.Orderly true := by
    intro i' haxis hhold'
    refine Orderly.planHome_accepted (hhold'.trans hhold) ?_ _
      fun _ => orderly_planHomingMoveForward g
    rw [haxis]
    exact AxisData.needsQueueEmpty_spoils hbusy 0
  rw [planMoveInner, if_neg hgoes]
  dsimp only
  rw [if_neg (by exact hback), if_pos hvalid]
  exact hspoils _ rfl rfl

theorem orderly_step (h : i.Orderly spoilt) : (i.step g).Orderly spoilt := by
  rw [step]
  split
  · exact h
  · have hchecked := h.checkUnlessFailed
    dsimp only
    generalize (if i.state = .tmcFailed then i else i.checkTMC) = i' at hchecked ⊢
    split
    · exact hchecked.performMove fun _ hused => hused
    · exact hchecked.performHomeForward fun _ => used_planHomingMoveBack g
    · exact hchecked.performHomeBack g fun _ => orderly_finishHoming g
    · next hstate =>
        have hrests : i'.axis.Used spoilt 0 := by
          have hused := hchecked.used
          rwa [hstate] at hused
        split
        · refine orderly_planHome g hchecked fun hclean => ?_
          subst hclean
          exact hrests.queueEmpty
        · exact hchecked
    · exact hchecked

theorem orderly_init (h : i.Orderly spoilt) (hempty : spoilt = false → i.axis.queueEmpty = true) :
    (Idler.init i g).Orderly spoilt := by
  rw [init]
  split
  · exact orderly_planHome g h hempty
  · exact .of_empty ((h.used.emptied hempty).setPosition _)

theorem init_spoils (hhold : i.onHold = false) (hbusy : i.axis.queueEmpty = false) :
    (Idler.init i g).Orderly true := by
  have hspoilt := AxisData.needsQueueEmpty_spoils hbusy 0
  rw [init]
  split
  · exact Orderly.planHome_accepted hhold hspoilt _ fun _ => orderly_planHomingMoveForward g
  · exact .of_empty (hspoilt.congr rfl rfl)

/-- A call that begins a homing anew before the one before has come to its second half, or makes
some other change to the axis with moves queued. -/
def Overrides (i : Idler) : IdlerCall → Prop
  | .engage _ | .partiallyDisengage _ | .disengage => i.HomesForward
  | .planHome | .init => i.axis.queueEmpty = false
  | .axis c => c.needsQueueEmpty = true ∧ i.axis.queueEmpty = false
  | .holdOn | .resume | .invalidateHoming | .step => False

variable {c : IdlerCall}

theorem orderly_call (h : i.Orderly spoilt) (hoverrides : spoilt = false → ¬ i.Overrides c) :
    (i.call (g, c)).1.Orderly spoilt := by
  have hempty (hneeds : i.axis.queueEmpty = false → i.Overrides c) :
      spoilt = false → i.axis.queueEmpty = true := by
    intro hclean
    by_contra hbusy
    exact hoverrides hclean (hneeds ((Bool.not_eq_true _).mp hbusy))
  cases c with
  | engage slot => exact orderly_planMoveInner g h slot .engage hoverrides
  | partiallyDisengage slot => exact orderly_planMoveInner g h slot .intermediate hoverrides
  | disengage => exact orderly_planMoveInner g h idleSlotIndex .disengage hoverrides
  | planHome => exact orderly_planHome g h (hempty id)
  | holdOn => exact h.holdOn
  | resume => exact h.resume
  | invalidateHoming => exact h.invalidateHoming
  | step => exact orderly_step g h
  | init => exact orderly_init g h (hempty id)
  | axis c =>
      exact h.axis fun _ hused => c.used_run hused fun hneeds =>
        h.used.emptied (hempty fun hbusy => ⟨hneeds, hbusy⟩)

theorem call_spoils (h : i.Orderly false) (hoverrides : i.Overrides c) :
    (i.call (g, c)).1.Orderly true := by
  have hhold (hbusy : i.axis.queueEmpty = false) : i.onHold = false := by
    rw [← Bool.not_eq_true]
    exact fun hhold => absurd (h.held hhold).queueEmpty (by simp [hbusy])
  cases c with
  | engage slot => exact planMoveInner_spoils g hoverrides slot .engage
  | partiallyDisengage slot => exact planMoveInner_spoils g hoverrides slot .intermediate
  | disengage => exact planMoveInner_spoils g hoverrides idleSlotIndex .disengage
  | planHome =>
      exact Orderly.planHome_accepted (hhold hoverrides)
        (AxisData.needsQueueEmpty_spoils hoverrides 0) _ fun _ => orderly_planHomingMoveForward g
  | init => exact init_spoils g (hhold hoverrides) hoverrides
  | axis c => exact .of_empty (c.run_spoils hoverrides.1 hoverrides.2 0)
  | holdOn | resume | invalidateHoming | step => exact hoverrides.elim

end Idler

namespace Selector

variable {s : Selector} {spoilt : Bool} (g : Globals)

theorem used_prepareMove {n : Nat} (h : s.axis.Used spoilt n) (hn : n ≤ 1) :
    (prepareMoveToPlannedSlot g s).axis.Used spoilt 2 := by
  refine (h.planMoveTo (n := n) ?_ _ _ _).mono (Nat.succ_le_succ hn)
  exact Nat.lt_of_le_of_lt hn (by decide)

theorem used_planHomingMoveBack (h : s.axis.Used spoilt 0) :
    (planHomingMoveBack g s).axis.Used spoilt 1 :=
  (h.setPosition _).planMove (by decide) _ _ _

theorem orderly_finishHoming (h : s.axis.Used spoilt 0) :
    (finishHomingAndPlanMoveToParkPos g s).2.Orderly spoilt ∧
      ((finishHomingAndPlanMoveToParkPos g s).1 = false →
        (finishHomingAndPlanMoveToParkPos g s).2 = s) := by
  refine ⟨?_, finishHoming_of_short g s⟩
  rw [finishHomingAndPlanMoveToParkPos]
  split
  · exact .of_empty h
  · dsimp only
    have hset := h.setPosition (selectorScale.toSteps Config.selectorLength)
    split
    · exact Orderly.initMovement hset fun _ hused => used_prepareMove g hused (Nat.zero_le 1)
    · exact Orderly.initMovement hset fun _ hused => used_prepareMove g hused (Nat.zero_le 1)

theorem orderly_planHomingMoveForward (_ : s.Enters .homeForward) (h : s.axis.Used spoilt 0) :
    (planHomingMoveForward s).Orderly spoilt := .setState h

theorem orderly_planHome (h : s.Orderly spoilt)
    (hempty : spoilt = false → s.axis.queueEmpty = true) :
    (Selector.planHome s g).2.Orderly spoilt :=
  h.planHome hempty _ fun _ => orderly_planHomingMoveForward

/-- A request begins a homing anew. -/
structure HomesAnew (s : Selector) (g : Globals) (finda : Bool) : Prop where
  homes : s.HomesForward
  finda : finda = false
  free : g.filamentLoaded < .inSelector

theorem orderly_moveToSlot (h : s.Orderly spoilt) (finda : Bool) (slot : UInt8)
    (hhomes : spoilt = false → ¬ s.HomesAnew g finda) :
    (Selector.moveToSlot s g finda slot).2.Orderly spoilt := by
  rw [moveToSlot]
  split
  · exact h
  · next hmoving =>
      have hplanned : Orderly { s with plannedSlot := slot } spoilt := ⟨h.used, h.held⟩
      dsimp only
      split
      · exact hplanned
      · next hback =>
          split
          · exact hplanned
          · split
            · exact hplanned
            · next hfinda =>
                split
                · next hvalid =>
                    refine orderly_planHome g hplanned fun hclean => ?_
                    subst hclean
                    refine h.queueEmpty_of_idle hmoving hback hvalid.1 fun hforward => ?_
                    exact hhomes rfl ⟨hforward, (Bool.not_eq_true _).mp hfinda, hvalid.2⟩
                · exact Orderly.initMovementNoReinitAxis
                    (used_prepareMove g (h.room_of_idle hmoving) (Nat.le_refl 1))

theorem moveToSlot_spoils {finda : Bool} (hhomes : s.HomesAnew g finda) (slot : UInt8) :
    (Selector.moveToSlot s g finda slot).2.Orderly true := by
  obtain ⟨⟨hstate, hvalid, hbusy⟩, hfinda, hfree⟩ := hhomes
  obtain ⟨hstate, hhold⟩ := Movable.isIn_iff.mp hstate
  have hmoving : ¬ s.isIn .moving = true := by
    rw [Movable.isIn, hstate, hhold]
    decide
  have hback : ¬ s.isIn .homeBack = true := by
    rw [Movable.isIn, hstate, hhold]
    decide
  have hthere : ¬ (s.currentSlot = slot ∧ s.homingValid = true) :=
    fun hthere => absurd (hvalid.symm.trans hthere.2) (by decide)
  have hspoils : ∀ s' : Selector, s'.axis = s.axis → s'.onHold = s.onHold →
      (Selector.planHome s' g).2.Orderly true := by
    intro s' haxis hhold'
    refine Orderly.planHome_accepted (hhold'.trans hhold) ?_ _
      fun _ => orderly_planHomingMoveForward
    rw [haxis]
    exact AxisData.needsQueueEmpty_spoils hbusy 0
  rw [moveToSlot, if_neg hmoving]
  dsimp only
  rw [if_neg (by exact hback), if_neg hthere, hfinda, if_neg (by decide), if_pos ⟨hvalid, hfree⟩]
  exact hspoils _ rfl rfl

theorem orderly_step (h : s.Orderly spoilt) (finda idlerHomingValid : Bool) :
    (s.step g finda idlerHomingValid).Orderly spoilt := by
  rw [step]
  split
  · exact h
  · have hchecked := h.checkUnlessFailed
    dsimp only
    generalize (if s.state = .tmcFailed then s else s.checkTMC) = s' at hchecked ⊢
    split
    · exact hchecked.performMove fun _ hused => hused.disable
    · next hstate =>
        have hrests : s'.axis.Used spoilt 0 := by
          have hused := hchecked.used
          rwa [hstate] at hused
        split
        · exact ⟨hrests.planMove (by decide) _ _ _,
            fun hhold => absurd hhold (by decide : ¬ false = true)⟩
        · exact hchecked
    · exact hchecked.performHomeForward fun _ => used_planHomingMoveBack g
    · exact hchecked.performHomeBack g fun _ => orderly_finishHoming g
    · next hstate =>
        have hrests : s'.axis.Used spoilt 0 := by
          have hused := hchecked.used
          rwa [hstate] at hused
        split
        · refine orderly_planHome g hchecked fun hclean => ?_
          subst hclean
          exact hrests.queueEmpty
        · exact hchecked
    · exact hchecked

theorem orderly_init (h : s.Orderly spoilt) (finda : Bool)
    (hempty : spoilt = false → s.axis.queueEmpty = true) :
    (Selector.init s g finda).Orderly spoilt := by
  rw [init]
  split
  · exact orderly_planHome g h hempty
  · exact .of_empty ((h.used.emptied hempty).setPosition _)

theorem init_spoils (hhold : s.onHold = false) (hbusy : s.axis.queueEmpty = false) (finda : Bool) :
    (Selector.init s g finda).Orderly true := by
  have hspoilt := AxisData.needsQueueEmpty_spoils hbusy 0
  rw [init]
  split
  · exact Orderly.planHome_accepted hhold hspoilt _ fun _ => orderly_planHomingMoveForward
  · exact .of_empty (hspoilt.congr rfl rfl)

def Overrides (s : Selector) (e : Surroundings) : SelectorCall → Prop
  | .moveToSlot _ => s.HomesAnew e.globals e.finda
  | .planHome | .init => s.axis.queueEmpty = false
  | .axis c => c.needsQueueEmpty = true ∧ s.axis.queueEmpty = false
  | .holdOn | .resume | .invalidateHoming | .step => False

variable {e : Surroundings} {c : SelectorCall}

theorem orderly_call (h : s.Orderly spoilt) (hoverrides : spoilt = false → ¬ s.Overrides e c) :
    (s.call (e, c)).1.Orderly spoilt := by
  have hempty (hneeds : s.axis.queueEmpty = false → s.Overrides e c) :
      spoilt = false → s.axis.queueEmpty = true := by
    intro hclean
    by_contra hbusy
    exact hoverrides hclean (hneeds ((Bool.not_eq_true _).mp hbusy))
  cases c with
  | moveToSlot slot => exact orderly_moveToSlot e.globals h e.finda slot hoverrides
  | planHome => exact orderly_planHome e.globals h (hempty id)
  | holdOn => exact h.holdOn
  | resume => exact h.resume
  | invalidateHoming => exact h.invalidateHoming
  | step => exact orderly_step e.globals h e.finda e.idlerHomingValid
  | init => exact orderly_init e.globals h e.finda (hempty id)
  | axis c =>
      exact h.axis fun _ hused => c.used_run hused fun hneeds =>
        h.used.emptied (hempty fun hbusy => ⟨hneeds, hbusy⟩)

theorem call_spoils (h : s.Orderly false) (hoverrides : s.Overrides e c) :
    (s.call (e, c)).1.Orderly true := by
  have hhold (hbusy : s.axis.queueEmpty = false) : s.onHold = false := by
    rw [← Bool.not_eq_true]
    exact fun hhold => absurd (h.held hhold).queueEmpty (by simp [hbusy])
  cases c with
  | moveToSlot slot => exact moveToSlot_spoils e.globals hoverrides slot
  | planHome =>
      exact Orderly.planHome_accepted (hhold hoverrides)
        (AxisData.needsQueueEmpty_spoils hoverrides 0) _ fun _ => orderly_planHomingMoveForward
  | init => exact init_spoils e.globals (hhold hoverrides) hoverrides e.finda
  | axis c => exact .of_empty (c.run_spoils hoverrides.1 hoverrides.2 0)
  | holdOn | resume | invalidateHoming | step => exact hoverrides.elim

end Selector

namespace Modules

/-- The axis of the idler or of the selector has been misused. -/
def misused (m : Modules) : Bool := m.selector.axis.misused || m.idler.axis.misused

/-- A call that changes an axis with moves queued. -/
def Overrides (m : Modules) : ModuleCall → Prop
  | .idler c => m.idler.Overrides c
  | .selector c => m.selector.Overrides m.surroundings c
  | .setFilamentLoaded _ _ | .eraseEEPROM | .others _ => False

/-- Neither axis has been misused, and no more moves are queued than the states allow. -/
structure Orderly (m : Modules) : Prop where
  idler : m.idler.Orderly false
  selector : m.selector.Orderly false

variable {m : Modules} {c : ModuleCall}

theorem misused_iff : m.misused = true ↔
    m.selector.axis.misused = true ∨ m.idler.axis.misused = true :=
  Bool.or_eq_true_iff

theorem Orderly.not_misused (h : m.Orderly) : ¬ m.misused = true := by
  rw [misused_iff, h.selector.used.misused, h.idler.used.misused]
  decide

theorem Orderly.call (h : m.Orderly) (hoverrides : ¬ m.Overrides c) : (m.call c).1.Orderly := by
  cases c with
  | idler c => exact ⟨Idler.orderly_call m.globals h.idler fun _ => hoverrides, h.selector⟩
  | selector c => exact ⟨h.idler, Selector.orderly_call h.selector fun _ => hoverrides⟩
  | setFilamentLoaded | eraseEEPROM | others => exact ⟨h.idler, h.selector⟩

theorem Orderly.call_misused (h : m.Orderly) (hoverrides : m.Overrides c) :
    (m.call c).1.misused = true := by
  rw [misused_iff]
  cases c with
  | idler c => exact .inr (Idler.call_spoils m.globals h.idler hoverrides).used.misused
  | selector c => exact .inl (Selector.call_spoils h.selector hoverrides).used.misused
  | setFilamentLoaded | eraseEEPROM | others => exact hoverrides.elim

/-- Nothing makes up for a misuse. -/
theorem misused_call (h : m.misused = true) (c : ModuleCall) : (m.call c).1.misused = true := by
  rw [misused_iff] at h ⊢
  have hspoilt : ¬ true = false := by decide
  cases c with
  | idler c =>
      refine h.imp id fun hidler => ?_
      exact (Idler.orderly_call m.globals (.of_empty (.of_misused hidler 0))
        fun hclean => absurd hclean hspoilt).used.misused
  | selector c =>
      refine h.imp (fun hselector => ?_) id
      exact (Selector.orderly_call (.of_empty (.of_misused hselector 0))
        fun hclean => absurd hclean hspoilt).used.misused
  | setFilamentLoaded | eraseEEPROM | others => exact h

end Modules

end MmuFirmware
