import MmuFirmware.Modules.OnHold

/-!
What a call can do to a movable, said once for the idler and the selector. The state machine
both inherit from `movable_base.cpp` appears here as the list of its transitions, with what
each does to the state, the slots and the planned moves; nothing is said about how they are
timed.
-/
namespace MmuFirmware

section Axis

variable {a : AxisData}

theorem position_disable (a : AxisData) : a.disable.position = a.position := by
  rw [AxisData.disable, AxisData.setEnabled]
  split <;> rfl

theorem position_initAxis (a : AxisData) : a.initAxis.2.position = a.position := by
  rw [AxisData.initAxis, AxisData.initDriver]
  dsimp only
  split <;> exact position_disable a

theorem position_sampleDiag (a : AxisData) (diag : Bool) :
    (a.sampleDiag diag).position = a.position := by
  rw [AxisData.sampleDiag]
  split
  · rfl
  · split
    · rfl
    · split <;> rfl

/-- Whether a driver can be initialised is read from its registers. -/
theorem initAxis_fst_congr {a' : AxisData} (h : a'.registers = a.registers) :
    a'.initAxis.1 = a.initAxis.1 := by
  have hdisable (a : AxisData) : a.disable.registers = a.registers := by
    rw [AxisData.disable, AxisData.setEnabled]
    split <;> rfl
  simp only [AxisData.initAxis, AxisData.initDriver, hdisable, h]
  split <;> rfl

theorem position_pulse (a : AxisData) (n : Nat) (diag : Bool) :
    (a.pulse n diag).position = a.position := by
  rw [AxisData.pulse]
  split
  · rfl
  · exact position_sampleDiag _ diag

theorem position_tick (a : AxisData) (i : AxisInput) : (a.tick i).position = a.position := by
  rw [AxisData.tick]
  generalize ha : ({ a with registers := i.registers } : AxisData) = a'
  have hposition : a'.position = a.position := by rw [← ha]
  clear ha
  induction i.pulses generalizing a' with
  | nil => exact hposition
  | cons p pulses ih => exact ih _ ((position_pulse _ _ _).trans hposition)

theorem curPosition_of_blocks_eq_nil (h : a.blocks = []) : a.curPosition = a.position := by
  simp [AxisData.curPosition, h]

/-- Moves cut short end where they have got to. -/
theorem curPosition_abortPlannedMoves (a : AxisData) :
    a.abortPlannedMoves.curPosition = a.curPosition :=
  curPosition_of_blocks_eq_nil rfl

/-- An empty queue takes a move to the given position. -/
theorem position_planMoveTo (a : AxisData) (pos : Int) (feedRate endRate : Nat)
    (h : a.blocks = []) : (a.planMoveTo pos feedRate endRate).position = pos := by
  rw [AxisData.planMoveTo, h, if_neg (by decide)]
  split
  · next heq =>
      rw [AxisData.setEnabled]
      split <;> exact heq.symm
  · rw [AxisData.setEnabled]
    split <;> rfl

end Axis

namespace Movable

/-- What the two movables differ in. -/
structure Kind (ε : Type) where
  /-- The state a homing is planned in. -/
  homingStart : MovableState
  homingStart_homing : homingStart = .plannedHome ∨ homingStart = .homeForward
  scale : AxisScale
  /-- The least length a homing accepts. -/
  minimumLength : Nat
  /-- The position a planned slot stands for. -/
  target : UInt8 → ε → Int
  /-- The position a slot stands for once it is reported. -/
  reported : UInt8 → ε → Int

variable {ε : Type}

/-- The length of the axis between the ends a homing has found. -/
def Kind.measured (k : Kind ε) (m : Movable ε) : Nat :=
  m.axisDistance (k.scale.ofSteps m.axis.curPosition)

theorem measured_congr {k : Kind ε} {m m' : Movable ε} (hstart : m'.axisStart = m.axisStart)
    (hposition : m'.axis.curPosition = m.axis.curPosition) : k.measured m' = k.measured m := by
  rw [Kind.measured, Kind.measured, axisDistance, axisDistance, hstart, hposition]

def Homing (m : Movable ε) : Prop :=
  m.state = .plannedHome ∨ m.state = .homeForward ∨ m.state = .homeBack

/-- A call that changes neither the state nor what is reported. -/
structure Remains (k : Kind ε) (m m' : Movable ε) : Prop where
  state : m'.state = m.state
  onHold : m'.onHold = m.onHold
  homingValid : m'.homingValid = m.homingValid
  currentSlot : m'.currentSlot = m.currentSlot
  reported : k.reported m'.currentSlot m'.ext = k.reported m.currentSlot m.ext

theorem Remains.refl (k : Kind ε) (m : Movable ε) : m.Remains k m := ⟨rfl, rfl, rfl, rfl, rfl⟩

/-- A call has led into the state. -/
structure Enters (s : MovableState) (m' : Movable ε) : Prop where
  state : m'.state = s
  onHold : m'.onHold = false

/-- What is known of a call where it does certain things. -/
structure Occasion where
  /-- It sets the movable out for a slot. -/
  go : Prop
  /-- It ends a hold without a move. -/
  resume : Prop
  /-- It takes planned moves away. -/
  cut : Prop
  /-- It changes the planned slot of a movable on hold. -/
  retarget : Prop
  /-- It starts a homing planned before. -/
  start : Prop
  /-- It finishes a homing. -/
  finish : Prop

inductive Changes (k : Kind ε) (o : Occasion) (m m' : Movable ε) : Prop
  | runs (hsame : m.Remains k m')
      (htarget : k.target m'.plannedSlot m'.ext = k.target m.plannedSlot m.ext)
      (hposition : m'.axis.position = m.axis.position)
      (hblocks : m.axis.blocks = [] → m'.axis.blocks = [])
  | aborts (hcut : o.cut) (h : m' = { m with axis := m.axis.abortPlannedMoves })
  | records (hsame : m.Remains k m') (haxis : m'.axis = m.axis) (hmoving : m.isIn .moving = false)
      (hheld : m.onHold = true →
        o.retarget ∨ k.target m'.plannedSlot m'.ext = k.target m.plannedSlot m.ext)
  | holds (hcut : o.cut) (h : m' = m.holdOn)
  | resumes (hresume : o.resume) (h : m' = m.resume)
  | invalidates (hstate : m'.state = m.state) (hhold : m'.onHold = m.onHold)
      (hvalid : m'.homingValid = false) (hblocks : m'.axis.blocks = m.axis.blocks)
  | plansHome (hstate : Enters k.homingStart m') (hvalid : m'.homingValid = false)
  | setsOut (hmoving : m.isIn .moving = false) (hback : m.isIn .homeBack = false) (hgo : o.go)
      (hstate : Enters .moving m') (hvalid : m'.homingValid = m.homingValid)
      (hposition : m.axis.blocks = [] → m'.axis.position = k.target m'.plannedSlot m'.ext)
  | driverFails (hstate : Enters .tmcFailed m') (hvalid : m'.homingValid = m.homingValid)
      (hblocks : m'.axis.blocks = [])
  | arrives (hstate : m.state = .moving) (hhold : m.onHold = false)
      (hqueue : m.axis.blocks = []) (hstate' : Enters .ready m')
      (hvalid : m'.homingValid = m.homingValid) (hslot : m'.currentSlot = m.plannedSlot)
      (hreported : k.reported m'.currentSlot m'.ext = k.target m.plannedSlot m.ext)
      (hposition : m'.axis.position = m.axis.position) (hblocks : m'.axis.blocks = [])
  | startsHoming (hstate : m.state = .plannedHome) (hhold : m.onHold = false)
      (hdriver : m.axis.checkForErrors.1 = false) (hstart : o.start) (hstate' : Enters .homeForward m') (hvalid : m'.homingValid = m.homingValid)
  | turnsBack (hstate : m.state = .homeForward) (hstate' : Enters .homeBack m')
      (hvalid : m'.homingValid = m.homingValid)
  | homingFails (hstate' : Enters .homingFailed m') (hvalid : m'.homingValid = false)
      (hblocks : m'.axis.blocks = [])
  | homes (hstate : m.state = .homeBack) (hhold : m.onHold = false)
      (hdriver : m.axis.checkForErrors.1 = false) (hstall : m.axis.stallGuard = true)
      (hfinish : o.finish) (hmeasured : k.minimumLength ≤ k.measured m)
      (hvalid : m'.homingValid = true)
      (hmoves : (m.axis.initAxis.1 = true ∧ Enters .moving m' ∧
          m'.axis.position = k.target m'.plannedSlot m'.ext) ∨
        (Enters .tmcFailed m' ∧ m'.axis.blocks = []))

/-- Nothing done to an axis behind its movable's back adds a move or shifts where the planned
ones end, except that it may cut them short. -/
theorem changes_axis (k : Kind ε) {o : Occasion} (m : Movable ε) (c : AxisCall)
    (hcut : c = .abortPlannedMoves → o.cut) :
    Changes k o m { m with axis := c.run m.axis } := by
  have hruns (hposition : (c.run m.axis).position = m.axis.position)
      (hblocks : m.axis.blocks = [] → (c.run m.axis).blocks = []) :
      Changes k o m { m with axis := c.run m.axis } :=
    .runs ⟨rfl, rfl, rfl, rfl, rfl⟩ rfl hposition hblocks
  cases c with
  | tick i =>
      refine hruns (position_tick _ i) fun h => ?_
      rw [AxisCall.run, tick_of_blocks_eq_nil i h]
      exact h
  | abortPlannedMoves => exact .aborts (hcut rfl) rfl
  | disable => exact hruns (position_disable _) fun h => (blocks_disable _).trans h
  | initAxis => exact hruns (position_initAxis _) fun h => (blocks_initAxis _).trans h
  | clearQueueFull | setMode | setIRun | setAcceleration => exact hruns rfl id

/-- The flags of the driver do not matter to the movable. -/
def withFlags (m : Movable ε) (flags : TMCErrorFlags) : Movable ε :=
  { m with axis := { m.axis with errorFlags := flags } }

theorem checkForErrors_snd (a : AxisData) :
    ∃ flags, a.checkForErrors.2 = { a with errorFlags := flags } := by
  rw [AxisData.checkForErrors]
  split
  · exact ⟨_, rfl⟩
  · exact ⟨a.errorFlags, rfl⟩

/-- The check of the driver that precedes a step. -/
theorem checkUnlessFailed_cases (m : Movable ε) :
    (∃ flags, (if m.state = .tmcFailed then m else m.checkTMC) = m.withFlags flags ∧
      (m.state ≠ .tmcFailed → m.axis.checkForErrors.1 = false)) ∨
      Enters .tmcFailed m.checkTMC ∧ m.checkTMC.homingValid = m.homingValid ∧
        m.checkTMC.axis.blocks = [] ∧
        (if m.state = .tmcFailed then m else m.checkTMC) = m.checkTMC := by
  split
  · next hstate => exact .inl ⟨m.axis.errorFlags, rfl, fun hne => absurd hstate hne⟩
  · obtain ⟨flags, haxis⟩ := checkForErrors_snd m.axis
    rw [checkTMC]
    generalize m.axis.checkForErrors = checked at haxis ⊢
    obtain ⟨failed, axis⟩ := checked
    cases failed with
    | true => exact .inr ⟨⟨rfl, rfl⟩, rfl, rfl, rfl⟩
    | false =>
        left
        refine ⟨flags, ?_, fun _ => rfl⟩
        rw [withFlags, ← haxis]
        rfl

section Step

variable {k : Kind ε} {o : Occasion} {m : Movable ε} (flags : TMCErrorFlags)

theorem changes_withFlags : Changes k o m (m.withFlags flags) :=
  .runs ⟨rfl, rfl, rfl, rfl, rfl⟩ rfl rfl id

/-- Neither is what the StallGuard filter has counted. -/
theorem changes_stallGuardReset :
    Changes k o m
      { m.withFlags flags with axis := (m.withFlags flags).axis.stallGuardReset } :=
  .runs ⟨rfl, rfl, rfl, rfl, rfl⟩ rfl rfl id

theorem changes_homeFailed (m' : Movable ε) (h : m'.axis.blocks = []) :
    Changes k o m m'.homeFailed :=
  .homingFails ⟨rfl, rfl⟩ rfl ((blocks_disable _).trans h)

theorem blocks_of_queueEmpty {a : AxisData} (h : a.queueEmpty) : a.blocks = [] := by
  simpa [AxisData.queueEmpty] using h

theorem changes_performMove {finishMove : Movable ε → Movable ε} (hstate : m.state = .moving)
    (hhold : m.onHold = false)
    (hvalid : ∀ m, (finishMove m).homingValid = m.homingValid)
    (hslot : ∀ m, (finishMove m).currentSlot = m.currentSlot)
    (hreported : ∀ m, k.reported (finishMove m).currentSlot (finishMove m).ext =
      k.target m.currentSlot m.ext)
    (hposition : ∀ m, (finishMove m).axis.position = m.axis.position)
    (hblocks : ∀ m, (finishMove m).axis.blocks = m.axis.blocks) :
    Changes k o m ((m.withFlags flags).performMove finishMove) := by
  rw [performMove]
  split
  · next hqueue =>
      have hempty : m.axis.blocks = [] := blocks_of_queueEmpty hqueue
      exact .arrives hstate hhold hempty ⟨rfl, rfl⟩ (hvalid _) (hslot _) (hreported _)
        (hposition _) ((hblocks _).trans hempty)
  · exact changes_withFlags flags

theorem changes_performHomeForward {stallGuardAllowed : Movable ε → Bool → Bool}
    {planHomingMoveBack : Movable ε → Movable ε} (hstate : m.state = .homeForward)
    (hvalid : ∀ m, (planHomingMoveBack m).homingValid = m.homingValid) :
    Changes k o m
      ((m.withFlags flags).performHomeForward stallGuardAllowed planHomingMoveBack) := by
  rw [performHomeForward]
  split
  · dsimp only
    split
    · exact .turnsBack hstate ⟨rfl, rfl⟩ (hvalid _)
    · exact changes_stallGuardReset flags
  · split
    · next hqueue => exact changes_homeFailed _ (blocks_of_queueEmpty hqueue)
    · exact changes_withFlags flags

/-- The end of a homing, given what its last step does with an empty queue. -/
theorem changes_performHomeBack {g : Globals} {stallGuardAllowed : Movable ε → Bool → Bool}
    {finish : Movable ε → Bool × Movable ε} (hstate : m.state = .homeBack)
    (hhold : m.onHold = false) (hdriver : m.axis.checkForErrors.1 = false) (hfinish : o.finish)
    (hshort : ∀ m, (finish m).1 = false → (finish m).2 = m)
    (hlong : ∀ m, (finish m).1 = true → k.minimumLength ≤ k.measured m)
    (hmoves : ∀ m, (finish m).1 = true → m.axis.blocks = [] →
      m.axis.initAxis.1 = true ∧ Enters .moving (finish m).2 ∧
        (finish m).2.axis.position = k.target (finish m).2.plannedSlot (finish m).2.ext ∨
      Enters .tmcFailed (finish m).2 ∧ (finish m).2.axis.blocks = []) :
    Changes k o m ((m.withFlags flags).performHomeBack g stallGuardAllowed finish) := by
  rw [performHomeBack]
  split
  · next hstall =>
    dsimp only
    split
    · generalize hm' : ({ m.withFlags flags with axis := _ } : Movable ε) = m'
      have hempty : m'.axis.blocks = [] := by rw [← hm']; rfl
      have hmeasured : k.measured m' = k.measured m := by
        rw [← hm']
        exact measured_congr rfl (curPosition_abortPlannedMoves m.axis)
      have hinit : m'.axis.initAxis.1 = m.axis.initAxis.1 := by
        rw [← hm']
        exact initAxis_fst_congr rfl
      split
      · next hok =>
          have hlong := hlong _ hok
          rw [hmeasured] at hlong
          refine .homes hstate hhold hdriver hstall hfinish hlong rfl ?_
          rcases hmoves _ hok hempty with ⟨hanswers, henters, hposition⟩ | ⟨henters, hblocks⟩
          · exact .inl ⟨hinit ▸ hanswers, ⟨henters.state, henters.onHold⟩, hposition⟩
          · exact .inr ⟨⟨henters.state, henters.onHold⟩, hblocks⟩
      · next hok =>
          rw [hshort _ (by simpa using hok)]
          exact changes_homeFailed _ hempty
    · exact changes_stallGuardReset flags
  · split
    · next hqueue => exact changes_homeFailed _ (blocks_of_queueEmpty hqueue)
    · exact changes_withFlags flags

end Step

section PlanHome

variable {k : Kind ε} {m : Movable ε} (sgThrs : UInt8) {plan : Movable ε → Movable ε}

theorem enters_planHome (hstate : ∀ m, m.Enters .homeForward → (plan m).Enters k.homingStart)
    (hvalid : ∀ m, (plan m).homingValid = m.homingValid) (hhold : m.onHold = false) :
    Enters k.homingStart (m.planHome sgThrs plan).2 ∧
      (m.planHome sgThrs plan).2.homingValid = false := by
  rw [planHome]
  dsimp only
  rw [if_neg (by simpa [invalidateHoming] using hhold)]
  exact ⟨hstate _ ⟨rfl, rfl⟩, (hvalid _).trans rfl⟩

theorem changes_planHome {o : Occasion}
    (hstate : ∀ m, m.Enters .homeForward → (plan m).Enters k.homingStart)
    (hvalid : ∀ m, (plan m).homingValid = m.homingValid) :
    Changes k o m (m.planHome sgThrs plan).2 := by
  cases hhold : m.onHold with
  | false =>
      obtain ⟨henters, hinvalid⟩ := enters_planHome sgThrs hstate hvalid hhold
      exact .plansHome henters hinvalid
  | true =>
      rw [planHome]
      dsimp only
      rw [if_pos (by simpa [invalidateHoming] using hhold)]
      exact .invalidates rfl rfl rfl rfl

end PlanHome

end Movable

namespace Idler

def position (op : IdlerOperation) (slot : UInt8) : Int :=
  if op = .engage then slotPosition slot else intermediateSlotPosition slot

def kind : Movable.Kind IdlerEngagement where
  homingStart := .homeForward
  homingStart_homing := .inr rfl
  scale := idlerScale
  minimumLength := (Config.idlerLength - 10).toNat
  target slot ext := position ext.plannedMove slot
  reported slot ext := position ext.currentlyEngaged slot

variable {i : Idler} (g : Globals)

theorem changes_planHome {o : Movable.Occasion} : i.Changes kind o (Idler.planHome i g).2 :=
  Movable.changes_planHome _ (fun _ h => ⟨h.state, h.onHold⟩) fun _ => rfl

theorem plansHome {o : Movable.Occasion} (i₀ : Idler) (hhold : i.onHold = false) :
    i₀.Changes kind o (Idler.planHome i g).2 := by
  have hplanned : Movable.Enters kind.homingStart (Idler.planHome i g).2 ∧
      (Idler.planHome i g).2.homingValid = false :=
    Movable.enters_planHome _ (fun _ h => ⟨h.state, h.onHold⟩) (fun _ => rfl) hhold
  exact .plansHome hplanned.1 hplanned.2

theorem position_initMovement (h : i.axis.blocks = []) :
    (i.initMovementNoReinitAxis (prepareMoveToPlannedSlot g)).2.axis.position =
      kind.target (i.initMovementNoReinitAxis (prepareMoveToPlannedSlot g)).2.plannedSlot
        (i.initMovementNoReinitAxis (prepareMoveToPlannedSlot g)).2.ext :=
  position_planMoveTo _ _ _ _ h

theorem changes_planMoveInner {o : Movable.Occasion} (slot : UInt8) (plannedOp : IdlerOperation)
    (hgo : i.homingValid = true → o.go) :
    i.Changes kind o (i.planMoveInner g slot plannedOp).2 := by
  rw [planMoveInner]
  split
  · exact .runs (.refl _ _) rfl rfl id
  · next hmoving =>
      rw [not_or, Bool.not_eq_true, Bool.not_eq_true] at hmoving
      have hrecords : i.Changes kind o
          { i with plannedSlot := slot, ext := { i.ext with plannedMove := plannedOp } } :=
        .records ⟨rfl, rfl, rfl, rfl, rfl⟩ rfl hmoving.1 fun hheld =>
          absurd (hheld.symm.trans hmoving.2) (by decide)
      dsimp only
      split
      · exact hrecords
      · next hback =>
          split
          · exact plansHome g i (by exact hmoving.2)
          · next hvalid =>
              split
              · exact hrecords
              · exact .setsOut hmoving.1 ((Bool.not_eq_true _).mp hback)
                  (hgo ((Bool.not_eq_false _).mp hvalid)) ⟨rfl, rfl⟩ rfl
                  fun hempty => position_initMovement g (by exact hempty)

theorem finishHoming_of_short (i : Idler) (h : (finishHomingAndPlanMoveToParkPos g i).1 = false) :
    (finishHomingAndPlanMoveToParkPos g i).2 = i := by
  rw [finishHomingAndPlanMoveToParkPos] at h ⊢
  split
  · rfl
  · next hlong =>
      rw [if_neg hlong] at h
      cases h

theorem minimumLength_le_measured (i : Idler)
    (h : (finishHomingAndPlanMoveToParkPos g i).1 = true) :
    kind.minimumLength ≤ kind.measured i := by
  rw [finishHomingAndPlanMoveToParkPos] at h
  split at h
  · cases h
  · next hlong => exact Nat.le_of_not_lt hlong

theorem changes_finishHoming (hempty : i.axis.blocks = [])
    (hok : (finishHomingAndPlanMoveToParkPos g i).1 = true) :
    i.axis.initAxis.1 = true ∧ Movable.Enters .moving (finishHomingAndPlanMoveToParkPos g i).2 ∧
      (finishHomingAndPlanMoveToParkPos g i).2.axis.position =
        kind.target (finishHomingAndPlanMoveToParkPos g i).2.plannedSlot
          (finishHomingAndPlanMoveToParkPos g i).2.ext ∨
    Movable.Enters .tmcFailed (finishHomingAndPlanMoveToParkPos g i).2 ∧
      (finishHomingAndPlanMoveToParkPos g i).2.axis.blocks = [] := by
  rw [finishHomingAndPlanMoveToParkPos] at hok ⊢
  split
  · next hshort =>
      rw [if_pos hshort] at hok
      cases hok
  · dsimp only
    generalize hi' : (if i.ext.plannedMove = .disengage then _ else _ : Idler) = i'
    have hempty' : i'.axis.blocks = [] := by
      rw [← hi']
      split <;> exact hempty
    have hanswers : i'.axis.initAxis.1 = i.axis.initAxis.1 := by
      rw [← hi']
      split <;> exact initAxis_fst_congr rfl
    rw [Movable.initMovement]
    have hinit : i'.axis.initAxis.2.blocks = [] := (blocks_initAxis _).trans hempty'
    dsimp only
    split
    · next hok => exact .inl ⟨hanswers ▸ hok, ⟨rfl, rfl⟩, position_initMovement g (by exact hinit)⟩
    · exact .inr ⟨⟨rfl, rfl⟩, hinit⟩

theorem changes_step {o : Movable.Occasion} (hfinish : o.finish) : i.Changes kind o (i.step g) := by
  rw [step]
  cases hhold : i.onHold with
  | true => exact .runs (.refl _ _) rfl rfl id
  | false =>
      rw [if_neg (by decide)]
      rcases Movable.checkUnlessFailed_cases i with ⟨flags, hi', hdriver⟩ | ⟨henters, hvalid, hblocks, hi'⟩
      · rw [hi']
        dsimp only
        split
        · next hstate =>
            exact Movable.changes_performMove flags hstate hhold (fun _ => rfl) (fun _ => rfl)
              (fun _ => rfl) (fun _ => rfl) fun _ => rfl
        · next hstate => exact Movable.changes_performHomeForward flags hstate fun _ => rfl
        · next hstate =>
            exact Movable.changes_performHomeBack flags hstate hhold
              (hdriver (ne_of_eq_of_ne hstate (by decide))) hfinish
              (finishHoming_of_short g) (minimumLength_le_measured g) fun _ hok hempty => changes_finishHoming g hempty hok
        · split
          · exact plansHome g i (by exact hhold)
          · exact Movable.changes_withFlags flags
        · exact Movable.changes_withFlags flags
      · rw [hi']
        dsimp only
        rw [henters.state]
        exact .driverFails henters hvalid hblocks

theorem changes_init {o : Movable.Occasion} : i.Changes kind o (Idler.init i g) := by
  rw [init]
  split
  · exact changes_planHome g
  · exact .invalidates rfl rfl rfl rfl

/-- What is known of a call of the idler: it sets out only where it knows its position. -/
def occasion (i : Idler) (c : IdlerCall) : Movable.Occasion where
  go := i.homingValid = true
  resume := c = .resume
  cut := c = .holdOn ∨ c = .axis .abortPlannedMoves
  retarget := False
  start := False
  finish := c = .step

theorem changes_call (i : Idler) (g : Globals) (c : IdlerCall) :
    i.Changes kind (i.occasion c) (i.call (g, c)).1 := by
  cases c with
  | engage | partiallyDisengage | disengage => exact changes_planMoveInner g _ _ id
  | planHome => exact changes_planHome g
  | holdOn => exact .holds (.inl rfl) rfl
  | resume => exact .resumes rfl rfl
  | invalidateHoming => exact .invalidates rfl rfl rfl rfl
  | step => exact changes_step g rfl
  | init => exact changes_init g
  | axis c => exact Movable.changes_axis kind i c fun hc => .inr (by rw [hc])

end Idler

namespace Selector

def kind : Movable.Kind Unit where
  homingStart := .plannedHome
  homingStart_homing := .inl rfl
  scale := selectorScale
  minimumLength := (Config.selectorLength - 3).toNat
  target slot _ := slotPosition slot
  reported slot _ := slotPosition slot

/-- A valid selector on hold is told to go where it does not set out for. -/
def Retargets (s : Selector) (finda : Bool) (slot : UInt8) : Prop :=
  s.plannedSlot ≠ slot ∧ (s.homingValid = true → s.currentSlot = slot ∨ finda = true)

/-- What the selector looks at before it sets out for a slot. -/
def MayGo (s : Selector) (g : Globals) (finda : Bool) : Prop :=
  finda = false ∧ (s.homingValid = true ∨ .inSelector ≤ g.filamentLoaded)

variable {s : Selector} (g : Globals)

theorem changes_planHome {o : Movable.Occasion} : s.Changes kind o (Selector.planHome s g).2 :=
  Movable.changes_planHome _ (fun _ _ => ⟨rfl, rfl⟩) fun _ => rfl

theorem plansHome {o : Movable.Occasion} (s₀ : Selector) (hhold : s.onHold = false) :
    s₀.Changes kind o (Selector.planHome s g).2 := by
  have hplanned : Movable.Enters kind.homingStart (Selector.planHome s g).2 ∧
      (Selector.planHome s g).2.homingValid = false :=
    Movable.enters_planHome _ (fun _ _ => ⟨rfl, rfl⟩) (fun _ => rfl) hhold
  exact .plansHome hplanned.1 hplanned.2

theorem position_initMovement (h : s.axis.blocks = []) :
    (s.initMovementNoReinitAxis (prepareMoveToPlannedSlot g)).2.axis.position =
      kind.target (s.initMovementNoReinitAxis (prepareMoveToPlannedSlot g)).2.plannedSlot
        (s.initMovementNoReinitAxis (prepareMoveToPlannedSlot g)).2.ext :=
  position_planMoveTo _ _ _ _ h

theorem changes_moveToSlot {o : Movable.Occasion} (finda : Bool) (slot : UInt8)
    (hgo : s.MayGo g finda → o.go) (hretarget : s.Retargets finda slot → o.retarget) :
    s.Changes kind o (s.moveToSlot g finda slot).2 := by
  rw [moveToSlot]
  split
  · exact .runs (.refl _ _) rfl rfl id
  · next hmoving =>
      have hrecords (h : s.onHold = true → s.homingValid = true →
          s.currentSlot = slot ∨ finda = true) : s.Changes kind o { s with plannedSlot := slot } := by
        by_cases hsame : s.plannedSlot = slot
        · exact .records ⟨rfl, rfl, rfl, rfl, rfl⟩ rfl ((Bool.not_eq_true _).mp hmoving)
            fun _ => .inr (by rw [hsame])
        · exact .records ⟨rfl, rfl, rfl, rfl, rfl⟩ rfl ((Bool.not_eq_true _).mp hmoving)
            fun hheld => .inl (hretarget ⟨hsame, h hheld⟩)
      dsimp only
      split
      · next hback => exact hrecords fun hheld => absurd hback (by simp [Movable.isIn, hheld])
      · next hback =>
          split
          · next hthere => exact hrecords fun _ _ => .inl hthere.1
          · split
            · next hfinda => exact hrecords fun _ _ => .inr hfinda
            · next hfinda =>
                split
                · next hhome =>
                    by_cases hhold : s.onHold
                    · dsimp only
                      rw [Selector.planHome, Movable.planHome, if_pos (by exact hhold)]
                      refine .records ⟨rfl, rfl, hhome.1.symm, rfl, rfl⟩ rfl
                        ((Bool.not_eq_true _).mp hmoving) fun _ => ?_
                      by_cases hsame : s.plannedSlot = slot
                      · exact .inr (by rw [hsame]; rfl)
                      · refine .inl (hretarget ⟨hsame, fun hvalid => ?_⟩)
                        exact absurd (hvalid.symm.trans hhome.1) (by decide)
                    · exact plansHome g s (by simpa using hhold)
                · next hknown =>
                    refine .setsOut ((Bool.not_eq_true _).mp hmoving)
                      ((Bool.not_eq_true _).mp hback)
                      (hgo ⟨(Bool.not_eq_true _).mp hfinda, ?_⟩)
                      ⟨rfl, rfl⟩ rfl fun hempty => position_initMovement g (by exact hempty)
                    by_contra hblind
                    rw [not_or, Bool.not_eq_true] at hblind
                    exact hknown ⟨hblind.1, by simpa using hblind.2⟩

theorem finishHoming_of_short (s : Selector) (h : (finishHomingAndPlanMoveToParkPos g s).1 = false) :
    (finishHomingAndPlanMoveToParkPos g s).2 = s := by
  rw [finishHomingAndPlanMoveToParkPos] at h ⊢
  split
  · rfl
  · next hlong =>
      rw [if_neg hlong] at h
      cases h

theorem minimumLength_le_measured (s : Selector)
    (h : (finishHomingAndPlanMoveToParkPos g s).1 = true) :
    kind.minimumLength ≤ kind.measured s := by
  rw [finishHomingAndPlanMoveToParkPos] at h
  split at h
  · cases h
  · next hlong => exact Nat.le_of_not_lt hlong

theorem changes_finishHoming (hempty : s.axis.blocks = [])
    (hok : (finishHomingAndPlanMoveToParkPos g s).1 = true) :
    s.axis.initAxis.1 = true ∧ Movable.Enters .moving (finishHomingAndPlanMoveToParkPos g s).2 ∧
      (finishHomingAndPlanMoveToParkPos g s).2.axis.position =
        kind.target (finishHomingAndPlanMoveToParkPos g s).2.plannedSlot
          (finishHomingAndPlanMoveToParkPos g s).2.ext ∨
    Movable.Enters .tmcFailed (finishHomingAndPlanMoveToParkPos g s).2 ∧
      (finishHomingAndPlanMoveToParkPos g s).2.axis.blocks = [] := by
  rw [finishHomingAndPlanMoveToParkPos] at hok ⊢
  split
  · next hshort =>
      rw [if_pos hshort] at hok
      cases hok
  · dsimp only
    generalize hs' : (if s.plannedSlot > Config.toolCount then _ else _ : Selector) = s'
    have hempty' : s'.axis.blocks = [] := by
      rw [← hs']
      split <;> exact hempty
    have hanswers : s'.axis.initAxis.1 = s.axis.initAxis.1 := by
      rw [← hs']
      split <;> exact initAxis_fst_congr rfl
    rw [Movable.initMovement]
    have hinit : s'.axis.initAxis.2.blocks = [] := (blocks_initAxis _).trans hempty'
    dsimp only
    split
    · next hok => exact .inl ⟨hanswers ▸ hok, ⟨rfl, rfl⟩, position_initMovement g (by exact hinit)⟩
    · exact .inr ⟨⟨rfl, rfl⟩, hinit⟩

theorem changes_step {o : Movable.Occasion} (finda idlerHomingValid : Bool)
    (hstart : idlerHomingValid = true → o.start) (hfinish : o.finish) :
    s.Changes kind o (s.step g finda idlerHomingValid) := by
  rw [step]
  cases hhold : s.onHold with
  | true => exact .runs (.refl _ _) rfl rfl id
  | false =>
      rw [if_neg (by decide)]
      rcases Movable.checkUnlessFailed_cases s with ⟨flags, hs', hdriver⟩ | ⟨henters, hvalid, hblocks, hs'⟩
      · rw [hs']
        dsimp only
        split
        · next hstate =>
            exact Movable.changes_performMove flags hstate hhold (fun _ => rfl) (fun _ => rfl)
              (fun _ => rfl) (fun _ => position_disable _) fun _ => blocks_disable _
        · next hstate =>
            split
            · next hvalid =>
                exact .startsHoming hstate hhold
                  (hdriver (ne_of_eq_of_ne hstate (by decide)))
                  (hstart hvalid) ⟨rfl, rfl⟩ rfl
            · exact Movable.changes_withFlags flags
        · next hstate => exact Movable.changes_performHomeForward flags hstate fun _ => rfl
        · next hstate =>
            exact Movable.changes_performHomeBack flags hstate hhold
              (hdriver (ne_of_eq_of_ne hstate (by decide))) hfinish
              (finishHoming_of_short g) (minimumLength_le_measured g) fun _ hok hempty => changes_finishHoming g hempty hok
        · split
          · exact plansHome g s (by exact hhold)
          · exact Movable.changes_withFlags flags
        · exact Movable.changes_withFlags flags
      · rw [hs']
        dsimp only
        rw [henters.state]
        exact .driverFails henters hvalid hblocks

theorem changes_init {o : Movable.Occasion} (finda : Bool) :
    s.Changes kind o (Selector.init s g finda) := by
  rw [init]
  split
  · exact changes_planHome g
  · exact .invalidates rfl rfl rfl rfl

/-- What is known of a call of the selector: it sets out only where FINDA is not pressed, but
not always where it knows its position. -/
def occasion (s : Selector) (e : Surroundings) (c : SelectorCall) : Movable.Occasion where
  go := (∃ slot, c = .moveToSlot slot) ∧ s.MayGo e.globals e.finda
  resume := c = .resume
  cut := c = .holdOn ∨ c = .axis .abortPlannedMoves
  retarget := ∃ slot, c = .moveToSlot slot ∧ s.Retargets e.finda slot
  start := c = .step ∧ e.idlerHomingValid = true
  finish := c = .step

theorem changes_call (s : Selector) (e : Surroundings) (c : SelectorCall) :
    s.Changes kind (s.occasion e c) (s.call (e, c)).1 := by
  cases c with
  | moveToSlot slot =>
      exact changes_moveToSlot _ _ slot (fun hgo => ⟨⟨slot, rfl⟩, hgo⟩) fun h => ⟨slot, rfl, h⟩
  | planHome => exact changes_planHome _
  | holdOn => exact .holds (.inl rfl) rfl
  | resume => exact .resumes rfl rfl
  | invalidateHoming => exact .invalidates rfl rfl rfl rfl
  | step => exact changes_step _ _ _ (fun hvalid => ⟨rfl, hvalid⟩) rfl
  | init => exact changes_init _ _
  | axis c => exact Movable.changes_axis kind s c fun hc => .inr (by rw [hc])

end Selector
end MmuFirmware
