import MmuFirmware.Modules.PulseAccount
import MmuFirmware.Modules.Motion

/-!
The pulse generator implements the queue of an axis. The blocks in its ring, less the steps taken
of the first, are the moves of the axis with their steps still to execute; its positions are
those of the axis, modulo the width of a word.
-/
namespace MmuFirmware

namespace PulseGen

/-- Steps in a direction. -/
def signed (forward : Bool) (n : Nat) : Int := if forward then n else -n

theorem natAbs_signed (forward : Bool) (n : Nat) : (signed forward n).natAbs = n := by
  cases forward with
  | true => exact Int.natAbs_natCast n
  | false => exact (Int.natAbs_neg n).trans (Int.natAbs_natCast n)

theorem signed_sub {n k : Nat} (forward : Bool) (h : k ≤ n) :
    signed forward (n - k) = signed forward n - signed forward k := by
  cases forward <;> simp [signed] <;> omega

theorem sign_signed {n : Nat} (forward : Bool) (h : 0 < n) (k : Nat) :
    (signed forward n).sign * k = signed forward k := by
  cases forward with
  | true => simp [signed, Int.sign_eq_one_of_pos (Int.natCast_pos.mpr h)]
  | false => simp [signed, Int.sign_eq_one_of_pos (Int.natCast_pos.mpr h)]

theorem signed_natAbs (n : Int) : signed (decide (0 ≤ n)) n.natAbs = n := by
  rw [signed]
  split
  · next h => exact Int.natAbs_of_nonneg (decide_eq_true_eq.mp h)
  · next h =>
    rw [decide_eq_true_eq] at h
    omega

theorem ofInt_sub (x y : Int) :
    BitVec.ofInt 32 (x - y) = BitVec.ofInt 32 x - BitVec.ofInt 32 y := by
  rw [Int.sub_eq_add_neg, BitVec.ofInt_add, BitVec.ofInt_neg, BitVec.sub_eq_add_neg]

theorem net_eq_signed (forward : Bool) (n : Nat) :
    net (List.replicate n forward) = BitVec.ofInt 32 (signed forward n) := by
  rw [net_replicate, signed]
  cases forward with
  | true => exact (BitVec.ofInt_natCast 32 n).symm
  | false =>
      simp only [Bool.false_eq_true, if_false]
      rw [BitVec.ofInt_neg, BitVec.ofInt_natCast]

/-- The steps still to take of some moves, of the first of which some are taken already. -/
def remaining : List Move → Nat → List Int
  | [], _ => []
  | m :: moves, taken =>
      signed m.forward (m.length - taken) :: moves.map fun m => signed m.forward m.length

theorem remaining_zero (moves : List Move) :
    remaining moves 0 = moves.map fun m => signed m.forward m.length := by
  cases moves <;> rfl

theorem length_remaining (moves : List Move) (taken : Nat) :
    (remaining moves taken).length = moves.length := by
  cases moves with
  | nil => rfl
  | cons m moves => simp [remaining]

theorem remaining_append {moves : List Move} {taken : Nat} (h : moves = [] → taken = 0)
    (moves' : List Move) :
    remaining (moves ++ moves') taken =
      remaining moves taken ++ moves'.map fun m => signed m.forward m.length := by
  cases moves with
  | nil =>
      rw [h rfl]
      exact remaining_zero moves'
  | cons m moves => simp [remaining]

variable {pg : PulseGen} {a : AxisData} {moves : List Move} {part : List Bool}

theorem net_moves (moves : List Move) :
    net (moves.flatMap Move.pulses) =
      BitVec.ofInt 32 (moves.map fun m => signed m.forward m.length).sum := by
  induction moves with
  | nil => rfl
  | cons m moves ih =>
      rw [List.flatMap_cons, net_append, ih, Move.pulses, net_eq_signed, List.map_cons,
        List.sum_cons, BitVec.ofInt_add]

theorem Owes.part_eq {m : Move} (h : pg.Owes (m :: moves) part) :
    part = List.replicate part.length m.forward ∧ part.length < m.length := by
  obtain ⟨hpart, hlt⟩ := h.part_prefix
  exact ⟨(List.prefix_replicate_iff.mp hpart).2, hlt⟩

/-- What is outstanding, less what has been delivered of it. -/
theorem Owes.net_remaining (h : pg.Owes moves part) :
    net (moves.flatMap Move.pulses) - net part =
      BitVec.ofInt 32 (remaining moves part.length).sum := by
  cases moves with
  | nil =>
      rw [h.part_of_nil]
      simp [net, remaining]
  | cons m moves =>
      obtain ⟨hpart, hlt⟩ := h.part_eq
      have hnet : net part = BitVec.ofInt 32 (signed m.forward part.length) := by
        rw [hpart, List.length_replicate]
        exact net_eq_signed m.forward part.length
      have hsum : (remaining (m :: moves) part.length).sum =
          ((m :: moves).map fun m => signed m.forward m.length).sum -
            signed m.forward part.length := by
        rw [remaining, List.sum_cons, List.map_cons, List.sum_cons, signed_sub _ hlt.le]
        abel
      rw [net_moves, hnet, hsum, ofInt_sub]

/-- The generator is in a state the axis is in. -/
structure Implements (pg : PulseGen) (a : AxisData) : Prop where
  blocks : ∃ moves part, pg.Owes moves part ∧
    a.blocks.map MmuFirmware.Block.steps = remaining moves part.length
  position : pg.position = BitVec.ofInt 32 a.position

theorem Implements.congr {a' : AxisData} (h : pg.Implements a) (hblocks : a'.blocks = a.blocks)
    (hposition : a'.position = a.position) : pg.Implements a' := by
  refine ⟨?_, hposition ▸ h.position⟩
  rw [hblocks]
  exact h.blocks

theorem Implements.plannedMoves (h : pg.Implements a) :
    pg.plannedMoves.toNat = a.plannedMoves := by
  obtain ⟨moves, part, howes, hsteps⟩ := h.blocks
  have hlength := congrArg List.length hsteps
  rw [List.length_map, length_remaining] at hlength
  exact howes.plannedMoves.trans hlength.symm

theorem Implements.queueEmpty (h : pg.Implements a) : pg.queueEmpty = a.queueEmpty := by
  obtain ⟨moves, part, howes, hsteps⟩ := h.blocks
  have hlength := congrArg List.length hsteps
  rw [List.length_map, length_remaining] at hlength
  rw [Bool.eq_iff_iff, howes.queueEmpty_iff, AxisData.queueEmpty, List.isEmpty_iff,
    ← List.length_eq_zero_iff, ← List.length_eq_zero_iff, hlength]

theorem Implements.full_iff (h : pg.Implements a) :
    pg.full = true ↔ a.blocks.length = Config.blockBufferSize := by
  obtain ⟨moves, part, howes, hsteps⟩ := h.blocks
  obtain ⟨elems, hqueues, rfl, -, -⟩ := howes.held
  have hlength := congrArg List.length hsteps
  rw [List.length_map, length_remaining, List.length_map] at hlength
  rw [PulseGen.full, hqueues.full_iff, hlength]
  rfl

theorem foldr_steps (blocks : List MmuFirmware.Block) :
    blocks.foldr (fun b steps => b.steps + steps) 0 =
      (blocks.map MmuFirmware.Block.steps).sum := by
  induction blocks with
  | nil => rfl
  | cons b blocks ih => rw [List.foldr_cons, ih, List.map_cons, List.sum_cons]

theorem Implements.curPosition (h : pg.Implements a) :
    pg.curPosition = BitVec.ofInt 32 a.curPosition := by
  obtain ⟨moves, part, howes, hsteps⟩ := h.blocks
  rw [howes.curPosition, AxisData.curPosition, foldr_steps, hsteps, ofInt_sub,
    ← howes.net_remaining, h.position]
  abel

theorem implements_start (memory : PulseGen) {a : AxisData} (hempty : a.blocks = [])
    (hposition : a.position = 0) : (start memory 0).Implements a := by
  refine ⟨⟨[], [], owes_start memory 0, ?_⟩, ?_⟩
  · rw [hempty]
    rfl
  · rw [hposition]
    rfl

theorem Implements.setPosition (h : pg.Implements a) (x : Int) :
    (pg.setPosition (BitVec.ofInt 32 x)).Implements (a.setPosition x) := by
  obtain ⟨moves, part, howes, hsteps⟩ := h.blocks
  exact ⟨⟨moves, part, howes.setPosition _, hsteps⟩, rfl⟩

theorem Implements.abortPlannedMoves (h : pg.Implements a) (halt : Bool) :
    (pg.abortPlannedMoves halt).Implements a.abortPlannedMoves := by
  obtain ⟨moves, part, howes, -⟩ := h.blocks
  obtain ⟨hafter, hposition⟩ := howes.abortPlannedMoves halt
  exact ⟨⟨[], [], hafter, rfl⟩, hposition.trans h.curPosition⟩

theorem setEnabled_queue (a : AxisData) (enabled : Bool) :
    (a.setEnabled enabled).blocks = a.blocks ∧ (a.setEnabled enabled).position = a.position := by
  rw [AxisData.setEnabled]
  split <;> exact ⟨rfl, rfl⟩

theorem toInt_ofInt_sub {target position : Int} (h : |target - position| < 2 ^ 31) :
    (BitVec.ofInt 32 target - BitVec.ofInt 32 position).toInt = target - position := by
  rw [abs_lt] at h
  rw [← ofInt_sub, BitVec.toInt_ofInt, Int.bmod_eq_of_le (by omega) (by omega)]

variable (sqrt : BitVec 32 → BitVec 32)

/-- The move that goes into a queue with room. -/
theorem Implements.queuedMove (h : pg.Implements a) (hroom : pg.full = false) {target : Int}
    (hdistance : |target - a.position| < 2 ^ 31) (feedRate endRate : BitVec 32) :
    pg.queuedMove sqrt (BitVec.ofInt 32 target) feedRate endRate =
      if target = a.position then []
      else [⟨(target - a.position).natAbs, decide (0 ≤ target - a.position)⟩] := by
  have hsub := toInt_ofInt_sub hdistance
  have hfull : ¬ pg.blocks.full = true := Bool.eq_false_iff.mp hroom
  rw [PulseGen.queuedMove, if_neg hfull, h.position]
  have hlength := toNat_abs (BitVec.ofInt 32 target - BitVec.ofInt 32 a.position)
  rw [hsub] at hlength
  by_cases hsame : target = a.position
  · rw [if_pos hsame, if_pos]
    rw [BitVec.le_def, hlength, hsame]
    simp
  · rw [if_neg hsame, if_neg]
    · show [Move.mk (PulseGen.abs (_ - pg.position)).toNat (!(_ - pg.position).slt 0)] = _
      rw [h.position, hlength, slt_zero, hsub]
      simp only [← decide_not, Int.not_lt]
    · rw [BitVec.le_def, hlength, Nat.not_le]
      show 0 < _
      omega

theorem planMoveTo_accepts (target feedRate endRate : BitVec 32) :
    (pg.planMoveTo sqrt target feedRate endRate).1 = !pg.full := by
  rw [PulseGen.planMoveTo, PulseGen.full]
  cases pg.blocks.full with
  | true => rfl
  | false =>
      simp only [Bool.false_eq_true, if_false]
      split <;> rfl

theorem planMoveTo_full (hfull : pg.full = true) (target feedRate endRate : BitVec 32) :
    pg.planMoveTo sqrt target feedRate endRate = (false, pg) := if_pos hfull

/-- A move is planned by the generator as it is by the axis. -/
theorem Implements.planMoveTo (h : pg.Implements a) {target : Int}
    (hdistance : |target - a.position| < 2 ^ 31) (feedRate endRate : Nat) :
    (pg.planMoveTo sqrt (BitVec.ofInt 32 target) (BitVec.ofNat 32 feedRate)
      (BitVec.ofNat 32 endRate)).2.Implements (a.planMoveTo target feedRate endRate) := by
  have hqueued := h.queuedMove sqrt
  have hlength := h.full_iff
  obtain ⟨moves, part, howes, hsteps⟩ := h.blocks
  obtain ⟨hafter, hposition⟩ := howes.queue sqrt (BitVec.ofInt 32 target)
    (BitVec.ofNat 32 feedRate) (BitVec.ofNat 32 endRate)
  rw [AxisData.planMoveTo]
  cases hfull : pg.full with
  | true =>
      rw [if_pos (hlength.mp hfull), planMoveTo_full sqrt hfull]
      exact h.congr rfl rfl
  | false =>
      rw [hqueued hfull hdistance] at hafter hposition
      rw [if_neg fun hall => Bool.eq_false_iff.mp hfull (hlength.mpr hall)]
      by_cases hsame : target = a.position
      · rw [if_pos hsame] at hafter hposition ⊢
        rw [List.append_nil] at hafter
        obtain ⟨hblocks, hat⟩ := setEnabled_queue { a with topRate := max a.topRate feedRate } true
        refine ⟨⟨moves, part, hafter, ?_⟩, ?_⟩
        · rw [hblocks]
          exact hsteps
        · rw [hat]
          exact (hposition.trans (add_zero _)).trans h.position
      · rw [if_neg hsame] at hafter hposition ⊢
        refine ⟨⟨_, part, hafter, ?_⟩, ?_⟩
        · rw [(setEnabled_queue _ true).1, List.map_append, hsteps, remaining_append fun hnil => ?_]
          · simp only [List.map_cons, List.map_nil, signed_natAbs]
          · subst hnil
            rw [howes.part_of_nil]
            rfl
        · rw [(setEnabled_queue _ true).2, hposition, net_moves, List.map_singleton,
            List.sum_singleton, signed_natAbs, ofInt_sub, h.position]
          abel

theorem sampleDiag_queue (a : AxisData) (diag : Bool) :
    (a.sampleDiag diag).blocks = a.blocks ∧ (a.sampleDiag diag).position = a.position := by
  rw [AxisData.sampleDiag]
  split
  · exact ⟨rfl, rfl⟩
  · split
    · exact ⟨rfl, rfl⟩
    · split <;> exact ⟨rfl, rfl⟩

/-- Steps of the first block, as the axis executes them. -/
theorem remaining_take {m : Move} {taken n : Nat} (h : taken + n < m.length) :
    signed m.forward (m.length - taken) - (signed m.forward (m.length - taken)).sign * n =
      signed m.forward (m.length - (taken + n)) := by
  rw [sign_signed _ (by omega), ← Nat.sub_sub, signed_sub (n := m.length - taken) _ (by omega)]

/-- Steps are executed by the generator as they are by the axis. -/
theorem Implements.step (h : pg.Implements a) (diag : Bool) :
    pg.step.2.Implements (a.pulse pg.step.1.pulses.length diag) := by
  obtain ⟨moves, part, howes, hsteps⟩ := h.blocks
  obtain ⟨elems, hholds, rfl⟩ := howes.holds
  cases elems with
  | nil =>
      obtain ⟨hstep, rfl, -⟩ := hholds.step_nil
      obtain ⟨hfetch, hposition, -⟩ := hholds.fetch
      have hnone : a.blocks = [] := List.map_eq_nil_iff.mp hsteps
      rw [hstep, AxisData.pulse, hnone]
      refine ⟨⟨[], [], hfetch.owes, ?_⟩, hposition.trans h.position⟩
      rw [hnone]
      rfl
  | cons block rest =>
      have hadvances := hholds.step_cons
      obtain ⟨b, bs, hblocks⟩ : ∃ b bs, a.blocks = b :: bs := by
        cases hcase : a.blocks with
        | nil =>
            rw [hcase] at hsteps
            cases hsteps
        | cons b bs => exact ⟨b, bs, rfl⟩
      rw [hblocks, List.map_cons, List.map_cons, remaining, List.cons.injEq] at hsteps
      obtain ⟨hfirst, hrest⟩ := hsteps
      have hpart := (howes.part_eq).2
      have htaken : part.length + pg.step.1.pulses.length =
          (pg.fetch.moved block).stepsCompleted.toNat := by
        rw [← List.length_append, hadvances.pulses, List.length_replicate]
      have hleft : b.steps.natAbs = block.steps.toNat - part.length := by
        rw [hfirst, natAbs_signed]
        rfl
      rw [AxisData.pulse, hblocks]
      dsimp only
      refine ⟨?_, ?_⟩
      · rw [(sampleDiag_queue _ diag).1]
        dsimp only
        rcases hadvances.after with ⟨hall, -, hafter⟩ | ⟨hmore, -, hafter⟩
        · rw [if_neg (by omega)]
          refine ⟨_, [], hafter.owes, ?_⟩
          rw [hrest]
          exact (remaining_zero _).symm
        · rw [if_pos (by omega)]
          refine ⟨_, _, hafter.owes, ?_⟩
          rw [List.map_cons, hrest, List.map_cons, remaining, List.length_replicate, hfirst,
            ← htaken]
          exact congrArg (· :: _) (remaining_take (by rw [htaken]; exact hmore))
      · rw [(sampleDiag_queue _ diag).2]
        exact hadvances.position.trans h.position

end PulseGen

end MmuFirmware
