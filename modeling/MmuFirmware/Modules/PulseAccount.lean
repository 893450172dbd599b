import MmuFirmware.Modules.PulseGen
import MmuFirmware.Lib.Delivery
import Mathlib.Data.BitVec

/-!
Every planned step is taken once and in its turn. The blocks in the ring are the moves that are
outstanding; of the first one the steps completed have been delivered. Planning takes a move
on, the interrupt delivers steps of it, and the positions are the sums of what was delivered
and of what was taken on.
-/
namespace MmuFirmware

namespace PulseGen

/-- A planned move: its number of steps and its direction. -/
structure Move where
  length : Nat
  forward : Bool
  deriving DecidableEq

def Move.pulses (m : Move) : List Bool := List.replicate m.length m.forward

def Block.move (b : Block) : Move := ⟨b.steps.toNat, b.direction⟩

/-- Steps forward less steps backward. -/
def net : List Bool → BitVec 32
  | [] => 0
  | p :: ps => (if p then 1 else -1) + net ps

theorem net_append (ps ps' : List Bool) : net (ps ++ ps') = net ps + net ps' := by
  induction ps with
  | nil => simp [net]
  | cons p ps ih => simp only [List.cons_append, net, ih, add_assoc]

theorem net_replicate (n : Nat) (forward : Bool) :
    net (List.replicate n forward) =
      if forward then BitVec.ofNat 32 n else -BitVec.ofNat 32 n := by
  induction n with
  | zero => cases forward <;> simp [net]
  | succ n ih =>
      rw [List.replicate_succ, net, ih, BitVec.ofNat_add]
      cases forward
      · simp only [Bool.false_eq_true, if_false]
        rw [neg_add, add_comm]
        rfl
      · simp only [if_true]
        rw [add_comm]
        rfl

theorem net_move (b : Block) : net b.move.pulses = blockShift b := by
  rw [Move.pulses, net_replicate, blockShift, Block.move, BitVec.ofNat_toNat, BitVec.setWidth_eq]

/-- The block the interrupt is busy with is the oldest one; what it has delivered of it. -/
inductive Busy (pg : PulseGen) : List Block → List Bool → Prop where
  | resting {elems : List Block} (h : pg.currentBlock = none) : Busy pg elems []
  | moving {block : Block} {rest : List Block} {cell : Fin blockTemplate.size}
      (h : pg.currentBlock = some cell) (hcell : pg.blocks.index.front.toNat = cell.val)
      (hdir : pg.dir = block.direction) (hloops : 0 < pg.stepLoops)
      (hleft : pg.stepsCompleted.toNat < block.steps.toNat) :
      Busy pg (block :: rest) (List.replicate pg.stepsCompleted.toNat block.direction)

/-- The outstanding moves, and what has been delivered of the first. -/
structure Owes (pg : PulseGen) (moves : List Move) (part : List Bool) : Prop where
  held : ∃ elems, pg.blocks.Queues elems ∧ elems.map Block.move = moves ∧
    (∀ b ∈ elems, 0 < b.steps.toNat) ∧ pg.Busy elems part

variable {sqrt : BitVec 32 → BitVec 32} {pg : PulseGen} {moves : List Move} {part : List Bool}

theorem rollback_eq {data : Vector Block blockTemplate.size} {fuel : Nat}
    {iter : CircularIndex blockTemplate} {elems : List Block} (curPos : BitVec 32)
    (h : (⟨data, iter⟩ : CircularBuffer Block blockTemplate).Queues elems)
    (hfuel : elems.length ≤ fuel) :
    rollback data fuel iter curPos =
      curPos - net ((elems.map Block.move).flatMap Move.pulses) := by
  induction fuel generalizing iter elems curPos with
  | zero =>
      have hnil := List.eq_nil_of_length_eq_zero (Nat.le_zero.mp hfuel)
      subst hnil
      simp [rollback, net]
  | succ fuel ih =>
      rw [rollback]
      cases elems with
      | nil =>
          have hempty : iter.empty = true := h.empty_iff.mpr rfl
          rw [if_pos hempty]
          simp [net]
      | cons b rest =>
          have hempty : ¬ iter.empty = true := h.nonempty
          have hfront := h.front rfl
          rw [if_neg hempty, ih _ h.retire (Nat.le_of_succ_le_succ hfuel)]
          have hshift : data.get ⟨iter.front.toNat, iter.front_lt⟩ = b := hfront
          rw [hshift, List.map_cons, List.flatMap_cons, net_append, net_move]
          abel

/-- The position of the axis is the planned one less what is outstanding. -/
theorem Owes.curPosition (h : pg.Owes moves part) :
    pg.curPosition = pg.position - net (moves.flatMap Move.pulses) + net part := by
  obtain ⟨elems, hqueues, rfl, hsome, hbusy⟩ := h.held
  rw [PulseGen.curPosition]
  cases hbusy with
  | resting hnone =>
      rw [hnone]
      dsimp only
      rw [rollback_eq pg.position hqueues hqueues.bounded]
      simp [net]
  | @moving block rest cell hcurrent hcell hdir hloops hleft =>
      rw [hcurrent]
      dsimp only
      have hblock : pg.blocks.data.get cell = block := by
        have hfront := hqueues.front rfl
        rw [CircularBuffer.front] at hfront
        simpa only [hcell] using hfront
      have hbound : rest.length ≤ blockTemplate.size :=
        (Nat.le_succ rest.length).trans hqueues.bounded
      rw [rollback_eq _ hqueues.retire hbound, hblock, List.map_cons, List.flatMap_cons,
        net_append, net_move, net_replicate, curBlockShift, blockShift, BitVec.ofNat_toNat,
        BitVec.setWidth_eq]
      split <;> abel

theorem Owes.queueEmpty_iff (h : pg.Owes moves part) : pg.queueEmpty = true ↔ moves = [] := by
  obtain ⟨elems, hqueues, rfl, -, -⟩ := h.held
  rw [PulseGen.queueEmpty, hqueues.empty_iff, List.map_eq_nil_iff, List.length_eq_zero_iff]

theorem Owes.part_of_nil (h : pg.Owes [] part) : part = [] := by
  obtain ⟨elems, -, hmoves, -, hbusy⟩ := h.held
  rw [List.map_eq_nil_iff] at hmoves
  subst hmoves
  cases hbusy with
  | resting hnone => rfl

theorem Owes.plannedMoves (h : pg.Owes moves part) : pg.plannedMoves.toNat = moves.length := by
  obtain ⟨elems, hqueues, rfl, -, -⟩ := h.held
  rw [PulseGen.plannedMoves, hqueues.count, List.length_map]

/-- With nothing outstanding the axis is where it was planned to be. -/
theorem Owes.curPosition_of_empty (h : pg.Owes moves part) (hempty : pg.queueEmpty = true) :
    pg.curPosition = pg.position := by
  have hmoves := h.queueEmpty_iff.mp hempty
  subst hmoves
  rw [h.curPosition, h.part_of_nil]
  simp [net]

theorem Owes.setPosition (h : pg.Owes moves part) (x : BitVec 32) :
    (pg.setPosition x).Owes moves part := by
  obtain ⟨elems, hqueues, hmoves, hsome, hbusy⟩ := h.held
  refine ⟨elems, hqueues, hmoves, hsome, ?_⟩
  cases hbusy with
  | resting hnone => exact .resting hnone
  | moving hcurrent hcell hdir hloops hleft => exact .moving hcurrent hcell hdir hloops hleft

theorem currentBlock_abort (pg : PulseGen) (halt : Bool) :
    (pg.abortPlannedMoves halt).currentBlock = none := by
  unfold PulseGen.abortPlannedMoves
  cases pg.currentBlock <;> cases halt <;> rfl

theorem Owes.abortPlannedMoves (h : pg.Owes moves part) (halt : Bool) :
    (pg.abortPlannedMoves halt).Owes [] [] ∧
      (pg.abortPlannedMoves halt).position = pg.curPosition := by
  obtain ⟨elems, hqueues, -, -, -⟩ := h.held
  unfold PulseGen.abortPlannedMoves
  cases pg.currentBlock <;> cases halt <;>
    exact ⟨⟨[], hqueues.reset, rfl, nofun, .resting rfl⟩, rfl⟩

/-- The steps of one interrupt, and that they do not go past the end of the block. -/
theorem stepMotor_spec {steps : BitVec 32} {loops : Nat} {completed : BitVec 32}
    (hloops : 0 < loops) (hleft : completed.toNat < steps.toNat) :
    0 < (stepMotor steps loops completed).1 ∧
      (stepMotor steps loops completed).2.toNat =
        completed.toNat + (stepMotor steps loops completed).1 ∧
      (stepMotor steps loops completed).2.toNat ≤ steps.toNat := by
  induction loops generalizing completed with
  | zero => cases hloops
  | succ loops ih =>
      have hnext : (completed + 1).toNat = completed.toNat + 1 :=
        BitVec.toNat_add_of_lt ((Nat.succ_le_of_lt hleft).trans_lt steps.isLt)
      rw [stepMotor]
      dsimp only
      split
      · refine ⟨Nat.one_pos, hnext, ?_⟩
        rw [hnext]
        exact hleft
      · next hmore =>
        rw [ge_iff_le, BitVec.le_def, hnext, not_le] at hmore
        cases loops with
        | zero =>
            refine ⟨Nat.one_pos, hnext, ?_⟩
            rw [stepMotor, hnext]
            exact hmore.le
        | succ loops =>
            have hmore' : (completed + 1).toNat < steps.toNat := by rw [hnext]; exact hmore
            obtain ⟨-, hsum, hle⟩ := ih (Nat.succ_pos _) hmore'
            refine ⟨Nat.succ_pos _, ?_, hle⟩
            rw [hsum, hnext]
            omega

theorem nextTimer_frame (pg : PulseGen) (block : Block) :
    (pg.nextTimer block).2.blocks = pg.blocks ∧
      (pg.nextTimer block).2.currentBlock = pg.currentBlock ∧
      (pg.nextTimer block).2.dir = pg.dir ∧
      (pg.nextTimer block).2.position = pg.position ∧
      (pg.nextTimer block).2.stepsCompleted = pg.stepsCompleted ∧
      (0 < pg.stepLoops → 0 < (pg.nextTimer block).2.stepLoops) := by
  rw [nextTimer]
  split
  · exact ⟨rfl, rfl, rfl, rfl, rfl, fun _ => calcTimer_loops_pos _⟩
  · split
    · exact ⟨rfl, rfl, rfl, rfl, rfl, fun _ => calcTimer_loops_pos _⟩
    · split
      · exact ⟨rfl, rfl, rfl, rfl, rfl, fun _ => calcTimer_loops_pos _⟩
      · exact ⟨rfl, rfl, rfl, rfl, rfl, fun h => h⟩

/-- The generator when the steps of an interrupt are taken. -/
def moved (pg : PulseGen) (block : Block) : PulseGen :=
  { pg with stepsCompleted := (stepMotor block.steps pg.stepLoops pg.stepsCompleted).2 }

/-- The blocks in the ring, and what has been delivered of the first. -/
structure Holds (pg : PulseGen) (elems : List Block) (part : List Bool) : Prop where
  queues : pg.blocks.Queues elems
  positive : ∀ b ∈ elems, 0 < b.steps.toNat
  busy : pg.Busy elems part

theorem Owes.holds (h : pg.Owes moves part) :
    ∃ elems, pg.Holds elems part ∧ elems.map Block.move = moves := by
  obtain ⟨elems, hqueues, hmoves, hsome, hbusy⟩ := h.held
  exact ⟨elems, ⟨hqueues, hsome, hbusy⟩, hmoves⟩

theorem Holds.owes {elems : List Block} (h : pg.Holds elems part) :
    pg.Owes (elems.map Block.move) part :=
  ⟨elems, h.queues, rfl, h.positive, h.busy⟩

/-- Once a block is current, if there is one. -/
theorem Holds.fetch {elems : List Block} (h : pg.Holds elems part) :
    pg.fetch.Holds elems part ∧ pg.fetch.position = pg.position ∧
      (elems ≠ [] → pg.fetch.currentBlock ≠ none) := by
  obtain ⟨hqueues, hsome, hbusy⟩ := h
  cases hbusy with
  | @moving block rest cell hcurrent hcell hdir hloops hleft =>
      have hfetch : pg.fetch = pg := by rw [PulseGen.fetch, hcurrent]
      rw [hfetch]
      exact ⟨⟨hqueues, hsome, .moving hcurrent hcell hdir hloops hleft⟩, rfl, fun _ => by
        rw [hcurrent]
        exact Option.some_ne_none _⟩
  | resting hnone =>
      rw [PulseGen.fetch, hnone]
      dsimp only
      cases elems with
      | nil =>
          rw [if_pos (hqueues.empty_iff.mpr rfl)]
          exact ⟨⟨hqueues, hsome, .resting hnone⟩, rfl, fun hne => absurd rfl hne⟩
      | cons block rest =>
          rw [if_neg hqueues.nonempty, hqueues.front rfl]
          refine ⟨⟨hqueues, hsome, ?_⟩, rfl, fun _ => Option.some_ne_none _⟩
          exact @Busy.moving _ block rest _ rfl rfl rfl (calcTimer_loops_pos _)
            (hsome block List.mem_cons_self)

theorem Owes.fetch (h : pg.Owes moves part) :
    pg.fetch.Owes moves part ∧ pg.fetch.position = pg.position ∧
      (moves ≠ [] → pg.fetch.currentBlock ≠ none) := by
  obtain ⟨elems, hholds, rfl⟩ := h.holds
  obtain ⟨hfetch, hposition, hcurrent⟩ := hholds.fetch
  exact ⟨hfetch.owes, hposition, fun hne => hcurrent fun hnil => hne (by rw [hnil, List.map_nil])⟩

theorem Holds.step_nil (h : pg.Holds [] part) :
    pg.step = (⟨0, []⟩, pg.fetch) ∧ part = [] ∧ pg.fetch.currentBlock = none := by
  obtain ⟨hfetch, -, -⟩ := h.fetch
  have hpart := h.busy
  cases hpart
  have hbusy := hfetch.busy
  cases hbusy with
  | resting hnone => exact ⟨pg.step_of_none hnone, rfl, hnone⟩

/-- What an interrupt makes of the first block: steps of it are delivered, and it is given up if
these were the last. -/
structure Advances (pg : PulseGen) (block : Block) (rest : List Block) (part : List Bool) :
    Prop where
  current : ∃ cell, pg.fetch.currentBlock = some cell ∧ pg.fetch.blocks.data.get cell = block
  progress : pg.fetch.stepsCompleted.toNat < (pg.fetch.moved block).stepsCompleted.toNat
  timer : pg.step.1.timer = ((pg.fetch.moved block).nextTimer block).1
  pulses : part ++ pg.step.1.pulses =
    List.replicate (pg.fetch.moved block).stepsCompleted.toNat block.direction
  position : pg.step.2.position = pg.position
  after :
    (pg.fetch.moved block).stepsCompleted.toNat = block.steps.toNat ∧
        pg.step.2 = ((pg.fetch.moved block).nextTimer block).2.finish ∧ pg.step.2.Holds rest [] ∨
      (pg.fetch.moved block).stepsCompleted.toNat < block.steps.toNat ∧
        pg.step.2 = ((pg.fetch.moved block).nextTimer block).2 ∧
        pg.step.2.Holds (block :: rest)
          (List.replicate (pg.fetch.moved block).stepsCompleted.toNat block.direction)

theorem Holds.step_cons {block : Block} {rest : List Block} (h : pg.Holds (block :: rest) part) :
    pg.Advances block rest part := by
  obtain ⟨⟨hqueues, hsome, hbusy⟩, hposition, hcurrent⟩ := h.fetch
  have hne := hcurrent (List.cons_ne_nil block rest)
  have hbusyStep := pg.step_of_some
  cases hbusy with
  | resting hnone => exact absurd hnone hne
  | @moving _ _ cell hcurrent hcell hdir hloops hleft =>
      have hblock : pg.fetch.blocks.data.get cell = block := by
        have hfront := hqueues.front rfl
        rw [CircularBuffer.front] at hfront
        simpa only [hcell] using hfront
      have hstep := hbusyStep cell hcurrent
      rw [hblock, stepBlock] at hstep
      obtain ⟨hpos, hsum, hle⟩ := stepMotor_spec hloops hleft
      have hmoved : (pg.fetch.moved block).stepsCompleted =
          (stepMotor block.steps pg.fetch.stepLoops pg.fetch.stepsCompleted).2 := rfl
      obtain ⟨hblocks, hcurrent', hdir', hposition', hcompleted, hloops'⟩ :=
        nextTimer_frame (pg.fetch.moved block) block
      rw [← hmoved] at hsum hle
      refine ⟨⟨cell, hcurrent, hblock⟩, by omega, ?_, ?_, ?_, ?_⟩
      · rw [hstep]
        rfl
      · rw [hstep]
        dsimp only
        rw [hdir, List.replicate_append_replicate, ← hsum]
      · rw [hstep]
        dsimp only
        split <;> exact hposition'.trans hposition
      · rcases hle.eq_or_lt with hall | hmore
        · have hstep' : pg.step.2 = ((pg.fetch.moved block).nextTimer block).2.finish := by
            rw [hstep]
            exact if_pos (BitVec.le_def.mpr hall.ge)
          refine .inl ⟨hall, hstep', ?_⟩
          rw [hstep']
          refine ⟨?_, fun b hb => hsome b (List.mem_cons_of_mem block hb), .resting rfl⟩
          have hretired := hqueues.retire
          rw [← show (pg.fetch.moved block).blocks = pg.fetch.blocks from rfl, ← hblocks] at hretired
          exact hretired
        · have hstep' : pg.step.2 = ((pg.fetch.moved block).nextTimer block).2 := by
            rw [hstep]
            exact if_neg fun hdone => Nat.not_le.mpr hmore (BitVec.le_def.mp hdone)
          refine .inr ⟨hmore, hstep', ?_⟩
          rw [hstep']
          refine ⟨?_, hsome, ?_⟩
          · rw [hblocks]
            exact hqueues
          · have hmoving := @Busy.moving ((pg.fetch.moved block).nextTimer block).2 block rest _
              (hcurrent'.trans hcurrent) (by rw [hblocks]; exact hcell) (hdir'.trans hdir)
              (hloops' hloops) (by rw [hcompleted]; exact hmore)
            rw [hcompleted] at hmoving
            exact hmoving

/-- An interrupt delivers steps of the first outstanding move, and nothing else. -/
theorem Owes.step (h : pg.Owes moves part) :
    pg.step.2.position = pg.position ∧
      ∃ moves' part', pg.step.2.Owes moves' part' ∧
        Delivers Move.pulses moves part [] pg.step.1.pulses moves' part' := by
  obtain ⟨elems, hholds, rfl⟩ := h.holds
  obtain ⟨hfetch, hposition, -⟩ := hholds.fetch
  cases elems with
  | nil =>
      obtain ⟨hstep, rfl, -⟩ := hholds.step_nil
      rw [hstep]
      exact ⟨hposition, [], [], hfetch.owes, .refl [] []⟩
  | cons block rest =>
      have hadvances := hholds.step_cons
      refine ⟨hadvances.position, ?_⟩
      rcases hadvances.after with ⟨hall, -, hafter⟩ | ⟨-, -, hafter⟩
      · refine ⟨rest.map Block.move, [], hafter.owes, [block.move], ?_, ?_⟩
        · simp
        · rw [hadvances.pulses, hall]
          simp [Move.pulses, Block.move]
      · refine ⟨_, _, hafter.owes, [], ?_, ?_⟩
        · simp
        · exact hadvances.pulses

/-! Planning. -/

/-- The way to a target, where the axis is planned to be elsewhere. -/
def distance (pg : PulseGen) (target : BitVec 32) : Int := target.toInt - pg.position.toInt

theorem toInt_sub_of_lt {a b : BitVec 32} (h : |a.toInt - b.toInt| < 2 ^ 31) :
    (a - b).toInt = a.toInt - b.toInt := by
  rw [abs_lt] at h
  rw [BitVec.toInt_sub, Int.bmod_eq_of_le (by omega) (by omega)]

theorem slt_zero (n : BitVec 32) : n.slt 0 = decide (n.toInt < 0) := rfl

theorem toNat_abs (n : BitVec 32) : (PulseGen.abs n).toNat = n.toInt.natAbs := by
  have hlt := n.isLt
  rw [PulseGen.abs, slt_zero, BitVec.toInt_eq_toNat_cond]
  by_cases hsmall : 2 * n.toNat < 2 ^ 32
  · rw [if_pos hsmall, if_neg (by simp)]
    exact (Int.natAbs_natCast _).symm
  · rw [if_neg hsmall, if_pos (by rw [decide_eq_true_eq]; omega), BitVec.toNat_neg,
      Nat.mod_eq_of_lt (by omega)]
    omega

variable (sqrt) in
theorem planBlock_move (pg : PulseGen) {target : BitVec 32}
    (hdistance : |pg.distance target| < 2 ^ 31) (feedRate endRate : BitVec 32) :
    (pg.planBlock sqrt target feedRate endRate).move =
      ⟨(pg.distance target).natAbs, decide (0 ≤ pg.distance target)⟩ := by
  have hsub : (target - pg.position).toInt = pg.distance target := toInt_sub_of_lt hdistance
  show Move.mk (PulseGen.abs (target - pg.position)).toNat (!(target - pg.position).slt 0) = _
  rw [toNat_abs, slt_zero, hsub]
  simp only [← decide_not, Int.not_lt]

variable (sqrt) in
theorem planBlock_shift (pg : PulseGen) (target feedRate endRate : BitVec 32) :
    blockShift (pg.planBlock sqrt target feedRate endRate) = target - pg.position := by
  show (if !(target - pg.position).slt 0 then PulseGen.abs (target - pg.position)
    else -PulseGen.abs (target - pg.position)) = _
  rw [PulseGen.abs]
  cases (target - pg.position).slt 0
  · rfl
  · exact neg_neg (target - pg.position)

/-- The move a call plans, if the queue has room and the target is further away than what is
dropped. -/
def acceptedMove (sqrt : BitVec 32 → BitVec 32) (pg : PulseGen)
    (target feedRate endRate : BitVec 32) : List Move :=
  if (pg.planMoveTo sqrt target feedRate endRate).1 = true ∧
      Config.dropSegments.toNat < (pg.distance target).natAbs then
    [⟨(pg.distance target).natAbs, decide (0 ≤ pg.distance target)⟩]
  else []

theorem Busy.append {pg' : PulseGen} {elems : List Block} (h : pg.Busy elems part) (block : Block)
    (hcurrent : pg'.currentBlock = pg.currentBlock)
    (hfront : pg'.blocks.index.front = pg.blocks.index.front) (hdir : pg'.dir = pg.dir)
    (hloops : pg'.stepLoops = pg.stepLoops)
    (hcompleted : pg'.stepsCompleted = pg.stepsCompleted) : pg'.Busy (elems ++ [block]) part := by
  cases h with
  | resting hnone => exact .resting (hcurrent.trans hnone)
  | moving hsome hcell hdirection hpos hleft =>
      rw [← hcompleted]
      exact .moving (hcurrent.trans hsome) (by rw [hfront]; exact hcell) (hdir.trans hdirection)
        (by rw [hloops]; exact hpos) (by rw [hcompleted]; exact hleft)

variable (sqrt) in
/-- The move a call puts into the queue. -/
def queuedMove (pg : PulseGen) (target feedRate endRate : BitVec 32) : List Move :=
  if pg.blocks.full then []
  else if PulseGen.abs (target - pg.position) ≤ Config.dropSegments then []
  else [(pg.planBlock sqrt target feedRate endRate).move]

theorem queuedMove_eq (pg : PulseGen) {target : BitVec 32}
    (hdistance : |pg.distance target| < 2 ^ 31) (feedRate endRate : BitVec 32) :
    pg.queuedMove sqrt target feedRate endRate = pg.acceptedMove sqrt target feedRate endRate := by
  have hmove := pg.planBlock_move sqrt hdistance feedRate endRate
  have hlength : (PulseGen.abs (target - pg.position)).toNat = (pg.distance target).natAbs :=
    congrArg Move.length hmove
  rw [queuedMove, acceptedMove, PulseGen.planMoveTo]
  by_cases hfull : pg.blocks.full = true
  · rw [if_pos hfull, if_pos hfull, if_neg (by simp)]
  · rw [if_neg hfull, if_neg hfull]
    dsimp only
    by_cases hdropped : PulseGen.abs (target - pg.position) ≤ Config.dropSegments
    · have hnone : ¬ Config.dropSegments.toNat < (pg.distance target).natAbs := by
        rw [← hlength, not_lt]
        exact BitVec.le_def.mp hdropped
      rw [if_pos hdropped, if_pos hdropped, if_neg fun h => hnone h.2]
    · have hsteps : Config.dropSegments.toNat < (pg.distance target).natAbs := by
        rw [← hlength, ← not_le]
        exact fun hle => hdropped (BitVec.le_def.mpr hle)
      rw [if_neg hdropped, if_neg hdropped, if_pos ⟨rfl, hsteps⟩, ← hmove]

variable (sqrt) in
/-- The block a call queues: none if there is no room or the target is too near. -/
def queuedBlock (pg : PulseGen) (target feedRate endRate : BitVec 32) : List Block :=
  if pg.blocks.full then []
  else if PulseGen.abs (target - pg.position) ≤ Config.dropSegments then []
  else [pg.planBlock sqrt target feedRate endRate]

variable (sqrt) in
theorem map_queuedBlock (pg : PulseGen) (target feedRate endRate : BitVec 32) :
    (pg.queuedBlock sqrt target feedRate endRate).map Block.move =
      pg.queuedMove sqrt target feedRate endRate := by
  rw [queuedBlock, queuedMove]
  split
  · rfl
  · split <;> rfl

/-- What a call plans; of the generator it changes the ring, the position and the last rate. -/
structure Queues (sqrt : BitVec 32 → BitVec 32) (pg : PulseGen)
    (target feedRate endRate : BitVec 32) (after : PulseGen) : Prop where
  frame : ∃ blocks position lastRate,
    after = { pg with blocks := blocks, position := position, lastRate := lastRate }
  lastRate : after.lastRate =
    ((pg.queuedBlock sqrt target feedRate endRate).getLast?.map Block.finalRate).getD pg.lastRate
  position : after.position =
    pg.position + net ((pg.queuedMove sqrt target feedRate endRate).flatMap Move.pulses)

variable (sqrt) in
/-- Planning queues the block; nothing is delivered by it. -/
theorem Holds.queue {elems : List Block} (h : pg.Holds elems part)
    (target feedRate endRate : BitVec 32) :
    (pg.planMoveTo sqrt target feedRate endRate).2.Holds
        (elems ++ pg.queuedBlock sqrt target feedRate endRate) part ∧
      pg.Queues sqrt target feedRate endRate (pg.planMoveTo sqrt target feedRate endRate).2 := by
  obtain ⟨hqueues, hsome, hbusy⟩ := h
  have hshift := pg.planBlock_shift sqrt target feedRate endRate
  have hmove := pg.map_queuedBlock sqrt target feedRate endRate
  by_cases hfull : pg.blocks.full = true
  · have hnone : pg.queuedBlock sqrt target feedRate endRate = [] := if_pos hfull
    rw [hnone] at hmove ⊢
    rw [PulseGen.planMoveTo, if_pos hfull, List.append_nil]
    refine ⟨⟨hqueues, hsome, hbusy⟩, ⟨_, _, _, rfl⟩, ?_, ?_⟩
    · rw [hnone]
      rfl
    · rw [← hmove]
      exact (add_zero pg.position).symm
  · have hroom : elems.length < blockTemplate.size :=
      hqueues.bounded.lt_of_ne fun heq => hfull (hqueues.full_iff.mpr heq)
    by_cases hdropped : PulseGen.abs (target - pg.position) ≤ Config.dropSegments
    · have hnone : pg.queuedBlock sqrt target feedRate endRate = [] := by
        rw [queuedBlock, if_neg hfull, if_pos hdropped]
      rw [hnone] at hmove ⊢
      rw [PulseGen.planMoveTo, if_neg hfull, List.append_nil]
      dsimp only
      rw [if_pos hdropped]
      refine ⟨⟨hqueues.store hroom _, hsome, ?_⟩, ⟨_, _, _, rfl⟩, ?_, ?_⟩
      · cases hbusy with
        | resting hcurrent => exact .resting hcurrent
        | moving hcurrent hcell hdir hloops hleft =>
            exact .moving hcurrent hcell hdir hloops hleft
      · rw [hnone]
        rfl
      · rw [← hmove]
        exact (add_zero pg.position).symm
    · have hsingle : pg.queuedBlock sqrt target feedRate endRate =
          [pg.planBlock sqrt target feedRate endRate] := by
        rw [queuedBlock, if_neg hfull, if_neg hdropped]
      rw [hsingle] at hmove ⊢
      rw [PulseGen.planMoveTo, if_neg hfull]
      dsimp only
      rw [if_neg hdropped]
      refine ⟨⟨(hqueues.store hroom _).advance hroom (pg.blocks.slot_store _), ?_,
        hbusy.append _ rfl rfl rfl rfl rfl⟩, ⟨_, _, _, rfl⟩, ?_, ?_⟩
      · intro b hb
        rcases List.mem_append.mp hb with hold | hnew
        · exact hsome b hold
        · rw [List.mem_singleton.mp hnew]
          exact (Nat.zero_le _).trans_lt (BitVec.lt_def.mp (BitVec.not_le.mp hdropped))
      · rw [hsingle]
        rfl
      · rw [← hmove, List.map_singleton, List.flatMap_singleton, net_move, hshift]
        exact (add_sub_cancel pg.position target).symm

variable (sqrt) in
/-- Planning takes the queued move on; nothing is delivered by it. -/
theorem Owes.queue (h : pg.Owes moves part) (target feedRate endRate : BitVec 32) :
    (pg.planMoveTo sqrt target feedRate endRate).2.Owes
        (moves ++ pg.queuedMove sqrt target feedRate endRate) part ∧
      (pg.planMoveTo sqrt target feedRate endRate).2.position =
        pg.position + net ((pg.queuedMove sqrt target feedRate endRate).flatMap Move.pulses) := by
  obtain ⟨elems, hholds, rfl⟩ := h.holds
  obtain ⟨hafter, hqueues⟩ := hholds.queue sqrt target feedRate endRate
  rw [← map_queuedBlock, ← List.map_append, map_queuedBlock]
  exact ⟨hafter.owes, hqueues.position⟩

variable (sqrt) in
theorem Owes.planMoveTo (h : pg.Owes moves part) {target : BitVec 32}
    (hdistance : |pg.distance target| < 2 ^ 31) (feedRate endRate : BitVec 32) :
    (pg.planMoveTo sqrt target feedRate endRate).2.Owes
        (moves ++ pg.acceptedMove sqrt target feedRate endRate) part ∧
      (pg.planMoveTo sqrt target feedRate endRate).2.position =
        pg.position + net ((pg.acceptedMove sqrt target feedRate endRate).flatMap Move.pulses) := by
  rw [← pg.queuedMove_eq hdistance]
  exact h.queue sqrt target feedRate endRate

/-! Runs. -/

inductive Op where
  | planMoveTo (target feedRate endRate : BitVec 32)
  | step
  | abortPlannedMoves (halt : Bool)
  | setPosition (x : BitVec 32)
  deriving DecidableEq

def perform (sqrt : BitVec 32 → BitVec 32) (pg : PulseGen) : Op → PulseGen × Unit
  | .planMoveTo target feedRate endRate => ((pg.planMoveTo sqrt target feedRate endRate).2, ())
  | .step => (pg.step.2, ())
  | .abortPlannedMoves halt => (pg.abortPlannedMoves halt, ())
  | .setPosition x => (pg.setPosition x, ())

/-- Targets are near enough, and the position is only set while nothing is planned. -/
def Permits (pg : PulseGen) : Op → Prop
  | .planMoveTo target _ _ => |pg.distance target| < 2 ^ 31
  | .setPosition _ => pg.queueEmpty = true
  | .step | .abortPlannedMoves _ => True

instance (pg : PulseGen) (op : Op) : Decidable (pg.Permits op) :=
  match op with
  | .planMoveTo target _ _ => inferInstanceAs (Decidable (|pg.distance target| < 2 ^ 31))
  | .setPosition _ => inferInstanceAs (Decidable (pg.queueEmpty = true))
  | .step | .abortPlannedMoves _ => inferInstanceAs (Decidable True)

/-- The moves an operation plans. -/
def accepted (sqrt : BitVec 32 → BitVec 32) : PulseGen × Op → List Move
  | (pg, .planMoveTo target feedRate endRate) => pg.acceptedMove sqrt target feedRate endRate
  | _ => []

/-- The steps the driver takes. -/
def emitted : PulseGen × Op → List Bool
  | (pg, .step) => pg.step.1.pulses
  | _ => []

/-- The generator as it is constructed, whatever its memory held, and its position. -/
def start (memory : PulseGen) (position : BitVec 32) : PulseGen :=
  { memory with
    position := position
    lastRate := 0
    currentBlock := none
    blocks := { memory.blocks with index := {} } }

theorem owes_start (memory : PulseGen) (position : BitVec 32) :
    (start memory position).Owes [] [] :=
  ⟨[], .fresh _, rfl, nofun, .resting rfl⟩

variable (sqrt) in
theorem Owes.after_perform (h : pg.Owes moves part) (op : Op) :
    ∃ moves' part', (pg.perform sqrt op).1.Owes moves' part' := by
  cases op with
  | planMoveTo target feedRate endRate =>
      exact ⟨_, part, (h.queue sqrt target feedRate endRate).1⟩
  | step =>
      obtain ⟨-, moves', part', howes, -⟩ := h.step
      exact ⟨moves', part', howes⟩
  | abortPlannedMoves halt => exact ⟨[], [], (h.abortPlannedMoves halt).1⟩
  | setPosition x => exact ⟨moves, part, h.setPosition x⟩

/-- An operation other than an abort delivers. -/
theorem Owes.delivers (h : pg.Owes moves part) (op : Op)
    (hop : pg.Permits op ∧ ∀ halt, op ≠ .abortPlannedMoves halt) :
    ∃ moves' part', (pg.perform sqrt op).1.Owes moves' part' ∧
      Delivers Move.pulses moves part (accepted sqrt (pg, op)) (emitted (pg, op)) moves' part' := by
  cases op with
  | planMoveTo target feedRate endRate =>
      exact ⟨_, part, (h.planMoveTo sqrt hop.1 feedRate endRate).1, .take moves part _⟩
  | step =>
      obtain ⟨-, hdelivers⟩ := h.step
      exact hdelivers
  | abortPlannedMoves halt => exact absurd rfl (hop.2 halt)
  | setPosition x => exact ⟨moves, part, h.setPosition x, .refl moves part⟩

variable (sqrt) in
/-- The axis moves by the steps emitted, unless its position is set. -/
theorem Owes.curPosition_perform (h : pg.Owes moves part) (op : Op) (hpermits : pg.Permits op)
    (hset : ∀ x, op ≠ .setPosition x) :
    (pg.perform sqrt op).1.curPosition = pg.curPosition + net (emitted (pg, op)) := by
  cases op with
  | planMoveTo target feedRate endRate =>
      obtain ⟨howes, hposition⟩ := h.planMoveTo sqrt hpermits feedRate endRate
      have hafter := howes.curPosition
      rw [hposition, List.flatMap_append, net_append] at hafter
      show (pg.planMoveTo sqrt target feedRate endRate).2.curPosition = pg.curPosition + 0
      rw [hafter, h.curPosition]
      abel
  | step =>
      obtain ⟨hposition, moves', part', howes, hdelivers⟩ := h.step
      have hmeasure := hdelivers.measure net_append
      have hafter := howes.curPosition
      rw [hposition] at hafter
      show pg.step.2.curPosition = _
      rw [hafter, h.curPosition]
      have hsplit : net (moves'.flatMap Move.pulses) - net part' =
          net (moves.flatMap Move.pulses) - net part - net pg.step.1.pulses := by
        simp only [List.flatMap_nil, net, add_zero] at hmeasure
        rw [hmeasure]
        abel
      calc pg.position - net (moves'.flatMap Move.pulses) + net part'
          = pg.position - (net (moves'.flatMap Move.pulses) - net part') := by abel
        _ = pg.position - net (moves.flatMap Move.pulses) + net part + net pg.step.1.pulses := by
            rw [hsplit]
            abel
  | abortPlannedMoves halt =>
      obtain ⟨howes, hposition⟩ := h.abortPlannedMoves halt
      have hempty := howes.queueEmpty_iff.mpr rfl
      show (pg.abortPlannedMoves halt).curPosition = pg.curPosition + 0
      rw [howes.curPosition_of_empty hempty, hposition, add_zero]
  | setPosition x => exact absurd rfl (hset x)

theorem Owes.part_prefix {m : Move} (h : pg.Owes (m :: moves) part) :
    part <+: m.pulses ∧ part.length < m.length := by
  obtain ⟨elems, -, hmoves, hsome, hbusy⟩ := h.held
  cases hbusy with
  | resting hnone =>
      refine ⟨List.nil_prefix, ?_⟩
      cases elems with
      | nil => cases hmoves
      | cons b rest =>
          rw [List.map_cons, List.cons.injEq] at hmoves
          rw [← hmoves.1]
          exact hsome b List.mem_cons_self
  | @moving b rest cell hcurrent hcell hdir hloops hleft =>
      rw [List.map_cons, List.cons.injEq] at hmoves
      rw [← hmoves.1]
      refine ⟨?_, by rw [List.length_replicate]; exact hleft⟩
      rw [Move.pulses, List.prefix_replicate_iff]
      exact ⟨by rw [List.length_replicate]; exact hleft.le, by rw [List.length_replicate]; rfl⟩

variable (sqrt) in
theorem owes_run (memory : PulseGen) (position : BitVec 32) (ops : List Op) :
    ∃ moves part, (Transducer.run (perform sqrt) (start memory position) ops).Owes moves part :=
  Transducer.run_invariant (perform sqrt) (fun pg _ => ∃ moves part, pg.Owes moves part) _
    ⟨[], [], owes_start memory position⟩
    (fun _ _ op ⟨_, _, howes⟩ => howes.after_perform sqrt op) ops

theorem Owes.curPosition_run (h : pg.Owes moves part) (ops : List Op)
    (hops : ∀ p ∈ Transducer.steps (perform sqrt) pg ops,
      p.1.Permits p.2 ∧ ∀ x, p.2 ≠ .setPosition x) :
    (Transducer.run (perform sqrt) pg ops).curPosition =
      pg.curPosition + net ((Transducer.steps (perform sqrt) pg ops).flatMap emitted) := by
  induction ops generalizing pg moves part with
  | nil => simp [net]
  | cons op ops ih =>
      rw [Transducer.steps_cons, List.forall_mem_cons] at hops
      obtain ⟨moves', part', howes⟩ := h.after_perform sqrt op
      have hhere := h.curPosition_perform sqrt op hops.1.1 hops.1.2
      rw [Transducer.run_cons, ih howes hops.2, hhere, Transducer.steps_cons, List.flatMap_cons,
        net_append, add_assoc]

/-- Along every run: the axis moves by the steps emitted; from an empty queue on and while
nothing is aborted the steps emitted are those of the accepted moves in their turn, all of
those no longer in the queue and a part of the first that is; with an empty queue the axis is
where it was planned to be, and an abort plans it to be where it is. -/
theorem pulses_accounted (sqrt : BitVec 32 → BitVec 32) (memory : PulseGen)
    (position : BitVec 32) (pre ops : List Op)
    (hpermits : ∀ p ∈ Transducer.steps (perform sqrt) (start memory position) (pre ++ ops),
      p.1.Permits p.2) :
    let before := Transducer.run (perform sqrt) (start memory position) pre
    let after := Transducer.run (perform sqrt) before ops
    let emitted := (Transducer.steps (perform sqrt) before ops).flatMap emitted
    let accepted := (Transducer.steps (perform sqrt) before ops).flatMap (accepted sqrt)
    (start memory position).curPosition = position ∧
      (∀ x, before.queueEmpty = true → (before.setPosition x).curPosition = x) ∧
      ((∀ op ∈ ops, ∀ x, op ≠ .setPosition x) →
        after.curPosition = before.curPosition + net emitted) ∧
      (before.queueEmpty = true → (∀ op ∈ ops, ∀ halt, op ≠ .abortPlannedMoves halt) →
        ∃ finished queued part, accepted = finished ++ queued ∧
          queued.length = after.plannedMoves.toNat ∧
          emitted = finished.flatMap Move.pulses ++ part ∧ (queued = [] → part = []) ∧
          ∀ m rest, queued = m :: rest → part <+: m.pulses ∧ part.length < m.length) ∧
      (after.queueEmpty = true → after.curPosition = after.position) ∧
      ∀ halt, (after.abortPlannedMoves halt).position = after.curPosition ∧
        (after.abortPlannedMoves halt).curPosition = after.curPosition ∧
        (after.abortPlannedMoves halt).queueEmpty = true := by
  intro before after emitted accepted
  rw [Transducer.steps_append, List.forall_mem_append] at hpermits
  have hbefore : ∃ moves part, before.Owes moves part := owes_run sqrt memory position pre
  have hafter : ∃ moves part, after.Owes moves part := by
    have hrun := owes_run sqrt memory position (pre ++ ops)
    rwa [Transducer.run_append] at hrun
  obtain ⟨moves, part, hbefore⟩ := hbefore
  obtain ⟨moves', part', hafter⟩ := hafter
  refine ⟨?_, fun x hempty => ?_, fun hset => ?_, fun hempty habort => ?_,
    hafter.curPosition_of_empty, fun halt => ?_⟩
  · have hstart := owes_start memory position
    exact hstart.curPosition_of_empty (hstart.queueEmpty_iff.mpr rfl)
  · exact (hbefore.setPosition x).curPosition_of_empty hempty
  · exact hbefore.curPosition_run ops fun p hp =>
      ⟨hpermits.2 p hp, hset p.2 (Transducer.snd_mem_of_mem_steps (perform sqrt) hp)⟩
  · have hmoves := hbefore.queueEmpty_iff.mp hempty
    subst hmoves
    obtain rfl := hbefore.part_of_nil
    obtain ⟨queued, part'', howes, finished, htaken, hdelivered⟩ :=
      Transducer.run_delivers (perform sqrt) Owes
        (fun pg op => pg.Permits op ∧ ∀ halt, op ≠ .abortPlannedMoves halt)
        (PulseGen.accepted sqrt) PulseGen.emitted
        (fun pg op moves part howes hop => howes.delivers op hop) before ops hbefore
        fun p hp => ⟨hpermits.2 p hp,
          habort p.2 (Transducer.snd_mem_of_mem_steps (perform sqrt) hp)⟩
    refine ⟨finished, queued, part'', htaken, howes.plannedMoves.symm, hdelivered,
      fun hnone => ?_, fun m rest hsome => ?_⟩
    · subst hnone
      exact howes.part_of_nil
    · subst hsome
      exact howes.part_prefix
  · obtain ⟨howes, hposition⟩ := hafter.abortPlannedMoves halt
    have hempty := howes.queueEmpty_iff.mpr rfl
    exact ⟨hposition, (howes.curPosition_of_empty hempty).trans hposition, hempty⟩

/-- Three steps planned and taken. -/
def threeSteps : List Op := [.planMoveTo 3 10 0, .step, .step, .step]

theorem pulses_accounted_three :
    (Transducer.run (perform id) (start { maxJerk := 10, acceleration := 100 } 7)
      (.setPosition 0 :: threeSteps)).curPosition = 3 := by
  have haccount := (pulses_accounted id { maxJerk := 10, acceleration := 100 } 7
    [.setPosition 0] threeSteps (by decide +kernel)).2.2.1 (by simp [threeSteps])
  exact haccount.trans (by decide +kernel)

end PulseGen

end MmuFirmware
