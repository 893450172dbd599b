import MmuFirmware.Modules.AxisTimers
import MmuFirmware.Modules.Trapezoid

/-!
The step rates of a block. In each phase of its ramp the interrupt computes the rate from the
time spent in that phase, in words that may be too narrow for it; where they are not, the rate
follows the ramp.
-/
namespace MmuFirmware
namespace PulseGen

/-- The part of a block's ramp that an interval belongs to. -/
inductive Phase where
  | accelerating | cruising | decelerating
  deriving DecidableEq, Repr

variable (pg : PulseGen) (block : Block)

def phase : Phase :=
  if pg.stepsCompleted ≤ block.accelerateUntil then .accelerating
  else if pg.stepsCompleted > block.decelerateAfter then .decelerating
  else .cruising

/-- The rate the acceleration has reached. -/
def acceleratedRate : BitVec 16 :=
  let rate := mulU24X24toH16 pg.accelerationTime block.accelerationRate +
    block.initialRate.setWidth 16
  if rate > block.nominalRate.setWidth 16 then block.nominalRate.setWidth 16 else rate

/-- By how much braking has lowered the rate. -/
def rateChange : BitVec 16 := mulU24X24toH16 pg.decelerationTime block.accelerationRate

def deceleratedRate : BitVec 16 :=
  if pg.rateChange block > pg.accStepRate then block.finalRate.setWidth 16
  else if (pg.accStepRate - pg.rateChange block).setWidth 32 < block.finalRate then
    block.finalRate.setWidth 16
  else pg.accStepRate - pg.rateChange block

/-- The rate whose interval comes next. -/
def stepRate : BitVec 16 :=
  match pg.phase block with
  | .accelerating => pg.acceleratedRate block
  | .cruising => block.nominalRate.setWidth 16
  | .decelerating => pg.deceleratedRate block

/-- The interval kept for steady motion is that of the nominal rate. -/
def Steady : Prop :=
  pg.stepLoopsNominal ≠ 0 → pg.timerNominal = (calcTimer (block.nominalRate.setWidth 16)).1

variable {pg block}

theorem nextTimer_accelerating (h : pg.phase block = .accelerating) :
    pg.nextTimer block =
      ((calcTimer (pg.stepRate block)).1,
        { pg with
          accStepRate := pg.stepRate block
          stepLoops := (calcTimer (pg.stepRate block)).2
          accelerationTime :=
            pg.accelerationTime + (calcTimer (pg.stepRate block)).1.setWidth 32 }) := by
  rw [stepRate, h, nextTimer, if_pos]
  · rfl
  · by_contra hnot
    rw [phase, if_neg hnot] at h
    split at h <;> cases h

theorem nextTimer_decelerating (h : pg.phase block = .decelerating) :
    pg.nextTimer block =
      ((calcTimer (pg.stepRate block)).1,
        { pg with
          stepLoops := (calcTimer (pg.stepRate block)).2
          decelerationTime :=
            pg.decelerationTime + (calcTimer (pg.stepRate block)).1.setWidth 32 }) := by
  have hnot : ¬ pg.stepsCompleted ≤ block.accelerateUntil := by
    intro hup
    rw [phase, if_pos hup] at h
    cases h
  rw [stepRate, h, nextTimer, if_neg hnot, if_pos]
  · rfl
  · by_contra hcruising
    rw [phase, if_neg hnot, if_neg hcruising] at h
    cases h

theorem nextTimer_cruising (h : pg.phase block = .cruising) (hsteady : pg.Steady block) :
    (pg.nextTimer block).1 = (calcTimer (pg.stepRate block)).1 ∧
      (pg.nextTimer block).2.accStepRate = pg.accStepRate ∧
      (pg.nextTimer block).2.accelerationTime = pg.accelerationTime ∧
      (pg.nextTimer block).2.decelerationTime = pg.decelerationTime ∧
      (pg.nextTimer block).2.Steady block := by
  have hup : ¬ pg.stepsCompleted ≤ block.accelerateUntil := by
    intro hup
    rw [phase, if_pos hup] at h
    cases h
  have hdown : ¬ pg.stepsCompleted > block.decelerateAfter := by
    intro hdown
    rw [phase, if_neg hup, if_pos hdown] at h
    cases h
  rw [stepRate, h, nextTimer, if_neg hup, if_neg hdown]
  by_cases hzero : pg.stepLoopsNominal = 0
  · rw [if_pos hzero]
    exact ⟨rfl, rfl, rfl, rfl, fun _ => rfl⟩
  · rw [if_neg hzero]
    exact ⟨hsteady hzero, rfl, rfl, rfl, hsteady⟩

end PulseGen

/-! The product of the interrupt. -/

/-- What `mulU24X24toH16` computes before its result is cut to a word. -/
def wideProduct (x y : Nat) : Nat :=
  (y / 65536 * x + y / 256 % 256 * x / 256 + y % 256 * (x / 256) / 256 + 128) / 256

theorem toNat_mulU24X24toH16 (longIn1 longIn2 : BitVec 32) :
    (mulU24X24toH16 longIn1 longIn2).toNat =
      wideProduct (longIn1.toNat % 2 ^ 24) (longIn2.toNat % 2 ^ 24) % 2 ^ 16 := by
  rw [mulU24X24toH16, BitVec.toNat_ofNat]
  congr 1
  have hx1 : longIn1.toNat % 256 = longIn1.toNat % 2 ^ 24 % 256 := by omega
  have hx2 : longIn1.toNat / 256 % 256 = longIn1.toNat % 2 ^ 24 / 256 % 256 := by omega
  have hx3 : longIn1.toNat / 65536 % 256 = longIn1.toNat % 2 ^ 24 / 65536 % 256 := by omega
  have hlt := Nat.mod_lt longIn1.toNat (by decide : 0 < 2 ^ 24)
  rw [hx1, hx2, hx3]
  generalize longIn1.toNat % 2 ^ 24 = x at hlt
  have ha : longIn2.toNat % 2 ^ 24 % 256 = longIn2.toNat % 256 := by omega
  have hb : longIn2.toNat % 2 ^ 24 / 256 % 256 = longIn2.toNat / 256 % 256 := by omega
  have hc : longIn2.toNat % 2 ^ 24 / 65536 = longIn2.toNat / 65536 % 256 := by omega
  rw [wideProduct, ha, hb, hc]
  generalize longIn2.toNat % 256 = a2
  generalize longIn2.toNat / 256 % 256 = b2
  generalize longIn2.toNat / 65536 % 256 = c2
  have hx : x = x % 256 + 256 * (x / 256 % 256) + 65536 * (x / 65536 % 256) := by omega
  have hx' : x / 256 = x / 256 % 256 + 256 * (x / 65536 % 256) := by omega
  generalize x % 256 = a1 at hx
  generalize x / 256 % 256 = b1 at hx hx'
  generalize x / 65536 % 256 = c1 at hx hx'
  rw [hx', hx]
  have hhigh : c2 * (a1 + 256 * b1 + 65536 * c1) =
      a1 * c2 + 256 * (b1 * c2) + 65536 * (c1 * c2) := by
    ring
  have hmiddle : b2 * (a1 + 256 * b1 + 65536 * c1) =
      a1 * b2 + 256 * (b1 * b2) + 65536 * (c1 * b2) := by
    ring
  have hlow : a2 * (b1 + 256 * c1) = b1 * a2 + 256 * (c1 * a2) := by
    ring
  rw [hhigh, hmiddle, hlow]
  omega

theorem wideProduct_mono {x x' : Nat} (h : x ≤ x') (y : Nat) :
    wideProduct x y ≤ wideProduct x' y := by
  refine Nat.div_le_div_right (Nat.add_le_add_right (Nat.add_le_add (Nat.add_le_add ?_ ?_) ?_) _)
  · exact Nat.mul_le_mul_left _ h
  · exact Nat.div_le_div_right (Nat.mul_le_mul_left _ h)
  · exact Nat.div_le_div_right (Nat.mul_le_mul_left _ (Nat.div_le_div_right h))

namespace PulseGen

variable {pg pg' : PulseGen} {block : Block}

/-- The operands of the product and its result have the width they need. -/
structure Fits (pg : PulseGen) (block : Block) : Prop where
  accelerating : pg.phase block = .accelerating →
    pg.accelerationTime.toNat < 2 ^ 24 ∧
      wideProduct pg.accelerationTime.toNat (block.accelerationRate.toNat % 2 ^ 24) +
        block.initialRate.toNat < 2 ^ 16
  decelerating : pg.phase block = .decelerating →
    pg.decelerationTime.toNat < 2 ^ 24 ∧
      wideProduct pg.decelerationTime.toNat (block.accelerationRate.toNat % 2 ^ 24) < 2 ^ 16

instance (pg : PulseGen) (block : Block) : Decidable (pg.Fits block) :=
  decidable_of_iff
    ((pg.phase block = .accelerating →
      pg.accelerationTime.toNat < 2 ^ 24 ∧
        wideProduct pg.accelerationTime.toNat (block.accelerationRate.toNat % 2 ^ 24) +
          block.initialRate.toNat < 2 ^ 16) ∧
      (pg.phase block = .decelerating →
        pg.decelerationTime.toNat < 2 ^ 24 ∧
          wideProduct pg.decelerationTime.toNat (block.accelerationRate.toNat % 2 ^ 24) < 2 ^ 16))
    ⟨fun h => ⟨h.1, h.2⟩, fun h => ⟨h.accelerating, h.decelerating⟩⟩

/-- Rates that a word of the interrupt holds. -/
structure Block.Bounded (block : Block) : Prop where
  initial : block.initialRate.toNat ≤ block.nominalRate.toNat
  final : block.finalRate.toNat ≤ block.nominalRate.toNat
  nominal : block.nominalRate.toNat ≤ Config.maxStepFrequency.toNat

theorem Block.Bounded.toNat_setWidth (h : block.Bounded) {rate : BitVec 32}
    (hrate : rate.toNat ≤ block.nominalRate.toNat) : (rate.setWidth 16).toNat = rate.toNat := by
  have hmax : Config.maxStepFrequency.toNat = 40000 := rfl
  have hnominal := h.nominal
  rw [BitVec.toNat_setWidth, Nat.mod_eq_of_lt (by omega)]

theorem toNat_acceleratedRate (h : block.Bounded) (hphase : pg.phase block = .accelerating)
    (hfits : pg.Fits block) :
    (pg.acceleratedRate block).toNat =
      min (wideProduct pg.accelerationTime.toNat (block.accelerationRate.toNat % 2 ^ 24) +
        block.initialRate.toNat) block.nominalRate.toNat := by
  obtain ⟨htime, hproduct⟩ := hfits.accelerating hphase
  have hinitial := h.toNat_setWidth h.initial
  have hnominal := h.toNat_setWidth (Nat.le_refl _)
  have hmul := toNat_mulU24X24toH16 pg.accelerationTime block.accelerationRate
  have hbare := Nat.lt_of_le_of_lt (Nat.le_add_right _ _) hproduct
  rw [Nat.mod_eq_of_lt htime, Nat.mod_eq_of_lt hbare] at hmul
  have hsum : (mulU24X24toH16 pg.accelerationTime block.accelerationRate +
      block.initialRate.setWidth 16).toNat =
        wideProduct pg.accelerationTime.toNat (block.accelerationRate.toNat % 2 ^ 24) +
          block.initialRate.toNat := by
    rw [BitVec.toNat_add_of_lt (by omega), hmul, hinitial]
  rw [acceleratedRate]
  simp only [gt_iff_lt, BitVec.lt_def]
  split <;> omega

theorem toNat_deceleratedRate (h : block.Bounded) (hphase : pg.phase block = .decelerating)
    (hfits : pg.Fits block) :
    (pg.deceleratedRate block).toNat =
      max (pg.accStepRate.toNat -
          wideProduct pg.decelerationTime.toNat (block.accelerationRate.toNat % 2 ^ 24))
        block.finalRate.toNat := by
  obtain ⟨htime, hproduct⟩ := hfits.decelerating hphase
  have hfinal := h.toNat_setWidth h.final
  have hmul := toNat_mulU24X24toH16 pg.decelerationTime block.accelerationRate
  rw [Nat.mod_eq_of_lt htime, Nat.mod_eq_of_lt hproduct] at hmul
  rw [deceleratedRate, rateChange]
  simp only [gt_iff_lt, BitVec.lt_def]
  split
  · omega
  · next hle =>
    have hsub : (pg.accStepRate - mulU24X24toH16 pg.decelerationTime block.accelerationRate).toNat =
        pg.accStepRate.toNat -
          wideProduct pg.decelerationTime.toNat (block.accelerationRate.toNat % 2 ^ 24) := by
      rw [BitVec.toNat_sub_of_le (BitVec.le_def.mpr (Nat.not_lt.mp hle)), hmul]
    have hwide : ((pg.accStepRate -
        mulU24X24toH16 pg.decelerationTime block.accelerationRate).setWidth 32).toNat =
        pg.accStepRate.toNat -
          wideProduct pg.decelerationTime.toNat (block.accelerationRate.toNat % 2 ^ 24) := by
      rw [BitVec.toNat_setWidth, Nat.mod_eq_of_lt, hsub]
      exact (BitVec.isLt _).trans (by decide)
    split <;> omega

/-- The second interval of the block was chosen after the first. -/
structure Later (block : Block) (pg pg' : PulseGen) : Prop where
  stepsCompleted : pg.stepsCompleted.toNat ≤ pg'.stepsCompleted.toNat
  accelerationTime : pg.accelerationTime.toNat ≤ pg'.accelerationTime.toNat
  decelerationTime : pg.decelerationTime.toNat ≤ pg'.decelerationTime.toNat
  accStepRate : pg.phase block = .decelerating → pg'.accStepRate = pg.accStepRate

theorem phase_eq_accelerating_iff :
    pg.phase block = .accelerating ↔ pg.stepsCompleted.toNat ≤ block.accelerateUntil.toNat := by
  rw [phase, ← BitVec.le_def]
  split
  · next hup => exact ⟨fun _ => hup, fun _ => rfl⟩
  · next hup =>
    refine ⟨fun h => ?_, fun h => absurd h hup⟩
    split at h <;> cases h

theorem phase_eq_decelerating_iff :
    pg.phase block = .decelerating ↔ block.accelerateUntil.toNat < pg.stepsCompleted.toNat ∧
      block.decelerateAfter.toNat < pg.stepsCompleted.toNat := by
  rw [phase, ← BitVec.lt_def, ← BitVec.lt_def]
  split
  · next hup => exact ⟨nofun, fun h => absurd hup (BitVec.not_le.mpr h.1)⟩
  · next hup =>
    split
    · next hdown => exact ⟨fun _ => ⟨BitVec.not_le.mp hup, hdown⟩, fun _ => rfl⟩
    · next hdown => exact ⟨nofun, fun h => absurd h.2 hdown⟩

theorem Later.phase_decelerating (h : Later block pg pg')
    (hphase : pg.phase block = .decelerating) : pg'.phase block = .decelerating := by
  rw [phase_eq_decelerating_iff] at hphase ⊢
  have hle := h.stepsCompleted
  omega

theorem Later.trans {pg'' : PulseGen} (h : Later block pg pg') (h' : Later block pg' pg'') :
    Later block pg pg'' where
  stepsCompleted := h.stepsCompleted.trans h'.stepsCompleted
  accelerationTime := h.accelerationTime.trans h'.accelerationTime
  decelerationTime := h.decelerationTime.trans h'.decelerationTime
  accStepRate hphase :=
    (h'.accStepRate (h.phase_decelerating hphase)).trans (h.accStepRate hphase)

theorem Later.accelerating (h : Later block pg pg') (hbounded : block.Bounded)
    (hphase : pg.phase block = .accelerating) (hphase' : pg'.phase block = .accelerating)
    (hfits : pg.Fits block) (hfits' : pg'.Fits block) :
    (pg.stepRate block).toNat ≤ (pg'.stepRate block).toNat := by
  rw [stepRate, stepRate, hphase, hphase']
  dsimp only
  rw [toNat_acceleratedRate hbounded hphase hfits, toNat_acceleratedRate hbounded hphase' hfits']
  have hmono := wideProduct_mono h.accelerationTime (block.accelerationRate.toNat % 2 ^ 24)
  omega

theorem Later.decelerating (h : Later block pg pg') (hbounded : block.Bounded)
    (hphase : pg.phase block = .decelerating) (hfits : pg.Fits block) (hfits' : pg'.Fits block) :
    (pg'.stepRate block).toNat ≤ (pg.stepRate block).toNat := by
  have hphase' := h.phase_decelerating hphase
  rw [stepRate, stepRate, hphase, hphase']
  dsimp only
  rw [toNat_deceleratedRate hbounded hphase hfits, toNat_deceleratedRate hbounded hphase' hfits',
    h.accStepRate hphase]
  have hmono := wideProduct_mono h.decelerationTime (block.accelerationRate.toNat % 2 ^ 24)
  omega

/-- The rate stays between those of the block, and is the nominal one while cruising. -/
structure WithinRamp (block : Block) (pg : PulseGen) : Prop where
  lower : min block.initialRate.toNat block.finalRate.toNat ≤ (pg.stepRate block).toNat
  upper : (pg.stepRate block).toNat ≤ block.nominalRate.toNat
  cruising : pg.phase block = .cruising → (pg.stepRate block).toNat = block.nominalRate.toNat

theorem withinRamp (hbounded : block.Bounded) (hfits : pg.Fits block)
    (hstart : pg.accStepRate.toNat ≤ block.nominalRate.toNat) : WithinRamp block pg := by
  have hinitial := hbounded.initial
  have hfinal := hbounded.final
  cases hphase : pg.phase block with
  | accelerating =>
      have hrate := toNat_acceleratedRate hbounded hphase hfits
      refine ⟨?_, ?_, fun h => absurd (hphase.symm.trans h) (by decide)⟩ <;>
        rw [stepRate, hphase] <;> dsimp only <;> omega
  | cruising =>
      have hrate := hbounded.toNat_setWidth (Nat.le_refl _)
      refine ⟨?_, ?_, fun _ => ?_⟩ <;> rw [stepRate, hphase] <;> dsimp only <;> omega
  | decelerating =>
      have hrate := toNat_deceleratedRate hbounded hphase hfits
      refine ⟨?_, ?_, fun h => absurd (hphase.symm.trans h) (by decide)⟩ <;>
        rw [stepRate, hphase] <;> dsimp only <;> omega

/-! One interrupt. -/

theorem fetch_of_none {rest : List Block} {part : List Bool} (h : pg.Holds (block :: rest) part)
    (hnone : pg.currentBlock = none) :
    pg.fetch.stepsCompleted = 0 ∧ pg.fetch.decelerationTime = 0 ∧
      pg.fetch.accStepRate = block.initialRate.setWidth 16 ∧ pg.fetch.stepLoopsNominal = 0 ∧
      pg.fetch.stepLoops ≤ 4 := by
  have hfront := h.queues.front rfl
  rw [PulseGen.fetch, hnone]
  dsimp only
  rw [if_neg h.queues.nonempty, hfront]
  exact ⟨rfl, rfl, rfl, rfl, calcTimer_loops_le _⟩

theorem fetch_of_some (h : pg.currentBlock ≠ none) : pg.fetch = pg := by
  cases hcurrent : pg.currentBlock with
  | none => exact absurd hcurrent h
  | some cell => rw [PulseGen.fetch, hcurrent]

theorem Steady.nextTimer (h : pg.Steady block) : (pg.nextTimer block).2.Steady block := by
  cases hphase : pg.phase block with
  | accelerating =>
      rw [nextTimer_accelerating hphase]
      exact h
  | cruising => exact (nextTimer_cruising hphase h).2.2.2.2
  | decelerating =>
      rw [nextTimer_decelerating hphase]
      exact h

theorem timer_eq (h : pg.Steady block) :
    (pg.nextTimer block).1 = (calcTimer (pg.stepRate block)).1 := by
  cases hphase : pg.phase block with
  | accelerating => rw [nextTimer_accelerating hphase]
  | cruising => exact (nextTimer_cruising hphase h).1
  | decelerating => rw [nextTimer_decelerating hphase]

/-- The interrupt adds an interval to the time of its phase, which does not wrap. -/
theorem later_nextTimer (hsteady : pg.Steady block) (hfits : pg.Fits block) :
    Later block pg (pg.nextTimer block).2 := by
  have hinterval := (calcTimer (pg.stepRate block)).1.isLt
  have hadd {time : BitVec 32} (htime : time.toNat < 2 ^ 24) :
      time.toNat ≤ (time + (calcTimer (pg.stepRate block)).1.setWidth 32).toNat := by
    have hwide : ((calcTimer (pg.stepRate block)).1.setWidth 32).toNat =
        (calcTimer (pg.stepRate block)).1.toNat := by
      rw [BitVec.toNat_setWidth, Nat.mod_eq_of_lt (by omega)]
    rw [BitVec.toNat_add_of_lt (by omega)]
    exact Nat.le_add_right _ _
  cases hphase : pg.phase block with
  | accelerating =>
      rw [nextTimer_accelerating hphase]
      exact ⟨Nat.le_refl _, hadd (hfits.accelerating hphase).1, Nat.le_refl _,
        fun h => absurd (hphase.symm.trans h) (by decide)⟩
  | cruising =>
      obtain ⟨-, hrate, haccelerating, hdecelerating, -⟩ := nextTimer_cruising hphase hsteady
      have hcompleted := (nextTimer_frame pg block).2.2.2.2.1
      refine ⟨?_, ?_, ?_, fun _ => hrate⟩
      · rw [hcompleted]
      · rw [haccelerating]
      · rw [hdecelerating]
  | decelerating =>
      rw [nextTimer_decelerating hphase]
      exact ⟨Nat.le_refl _, Nat.le_refl _, hadd (hfits.decelerating hphase).1, fun _ => rfl⟩

/-- The rate from which braking starts is never higher than the nominal one. -/
theorem accStepRate_nextTimer (hbounded : block.Bounded) (hsteady : pg.Steady block)
    (h : pg.accStepRate.toNat ≤ block.nominalRate.toNat) :
    (pg.nextTimer block).2.accStepRate.toNat ≤ block.nominalRate.toNat := by
  cases hphase : pg.phase block with
  | accelerating =>
      have hnominal := hbounded.toNat_setWidth (Nat.le_refl _)
      rw [nextTimer_accelerating hphase, stepRate, hphase]
      dsimp only
      rw [acceleratedRate]
      split
      · exact hnominal.le
      · next hle => exact (BitVec.not_lt.mp hle).trans hnominal.le
  | cruising =>
      rw [(nextTimer_cruising hphase hsteady).2.1]
      exact h
  | decelerating =>
      rw [nextTimer_decelerating hphase]
      exact h

/-- The interrupt changes neither the limits of the axis nor what the planner goes on from. -/
structure SamePlanner (pg pg' : PulseGen) : Prop where
  acceleration : pg'.acceleration = pg.acceleration
  maxJerk : pg'.maxJerk = pg.maxJerk
  lastRate : pg'.lastRate = pg.lastRate

theorem samePlanner_nextTimer (pg : PulseGen) (block : Block) :
    pg.SamePlanner (pg.nextTimer block).2 := by
  rw [nextTimer]
  split
  · exact ⟨rfl, rfl, rfl⟩
  · split
    · exact ⟨rfl, rfl, rfl⟩
    · split <;> exact ⟨rfl, rfl, rfl⟩

theorem samePlanner_step (pg : PulseGen) : pg.SamePlanner pg.step.2 := by
  have hfetch : pg.SamePlanner pg.fetch := by
    rw [fetch]
    split
    · exact ⟨rfl, rfl, rfl⟩
    · split <;> exact ⟨rfl, rfl, rfl⟩
  cases hcurrent : pg.fetch.currentBlock with
  | none =>
      rw [pg.step_of_none hcurrent]
      exact hfetch
  | some cell =>
      have hnext := samePlanner_nextTimer (pg.fetch.moved (pg.fetch.blocks.data.get cell))
        (pg.fetch.blocks.data.get cell)
      have hboth : pg.SamePlanner ((pg.fetch.moved (pg.fetch.blocks.data.get cell)).nextTimer
          (pg.fetch.blocks.data.get cell)).2 :=
        ⟨hnext.acceleration.trans hfetch.acceleration, hnext.maxJerk.trans hfetch.maxJerk,
          hnext.lastRate.trans hfetch.lastRate⟩
      rw [pg.step_of_some cell hcurrent, stepBlock]
      dsimp only
      split
      · exact ⟨hboth.acceleration, hboth.maxJerk, hboth.lastRate⟩
      · exact hboth

variable (sqrt : BitVec 32 → BitVec 32) in
/-- The limits of the axis stay as they are set. -/
theorem limits_perform (pg : PulseGen) (op : Op) :
    (pg.perform sqrt op).1.acceleration = pg.acceleration ∧
      (pg.perform sqrt op).1.maxJerk = pg.maxJerk := by
  cases op with
  | planMoveTo target feedRate endRate =>
      show (pg.planMoveTo sqrt target feedRate endRate).2.acceleration = _ ∧
        (pg.planMoveTo sqrt target feedRate endRate).2.maxJerk = _
      rw [PulseGen.planMoveTo]
      split
      · exact ⟨rfl, rfl⟩
      · dsimp only
        split <;> exact ⟨rfl, rfl⟩
  | step => exact ⟨pg.samePlanner_step.acceleration, pg.samePlanner_step.maxJerk⟩
  | abortPlannedMoves halt =>
      show (pg.abortPlannedMoves halt).acceleration = _ ∧ (pg.abortPlannedMoves halt).maxJerk = _
      unfold PulseGen.abortPlannedMoves
      cases pg.currentBlock <;> cases halt <;> exact ⟨rfl, rfl⟩
  | setPosition x => exact ⟨rfl, rfl⟩

theorem mem_queuedBlock {sqrt : BitVec 32 → BitVec 32} {target feedRate endRate : BitVec 32}
    (h : block ∈ pg.queuedBlock sqrt target feedRate endRate) :
    block = pg.planBlock sqrt target feedRate endRate := by
  rw [queuedBlock] at h
  split at h
  · cases h
  · split at h
    · cases h
    · exact List.mem_singleton.mp h

theorem bounded_planBlock {target feedRate endRate : BitVec 32}
    (hacc : pg.acceleration.toNat ≤ 400000000)
    (hfeed : feedRate.toNat ≤ Config.maxStepFrequency.toNat) :
    (pg.planBlock floorSqrt target feedRate endRate).Bounded := by
  have hwellFormed : (pg.planBlock floorSqrt target feedRate endRate).WellFormed := by
    refine wellFormed_trapezoid ?_ ?_ (pg.entrySpeed feedRate) endRate
    · exact hacc
    · exact hfeed
  exact ⟨BitVec.le_def.mp hwellFormed.initialRate, BitVec.le_def.mp hwellFormed.finalRate, hfeed⟩

end PulseGen

end MmuFirmware
