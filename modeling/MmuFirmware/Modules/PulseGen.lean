import MmuFirmware.Hal.CircularBuffer
import MmuFirmware.Modules.SpeedTable

/-!
The pulse generator of one axis: a ring of planned blocks, the trapezoid each of them follows,
and the steps an interrupt takes. Positions and steps are 32 bit words, intervals 16 bit
words. The square root of the C library, cut to an integer, is a parameter: it only decides
the final rate of some blocks.
-/
namespace MmuFirmware

/-- The product of two numbers of three bytes, without its three lowest bytes; the smallest
partial product is left out. -/
def mulU24X24toH16 (longIn1 longIn2 : BitVec 32) : BitVec 16 :=
  let a1 := longIn1.toNat % 256
  let b1 := longIn1.toNat / 256 % 256
  let c1 := longIn1.toNat / 65536 % 256
  let a2 := longIn2.toNat % 256
  let b2 := longIn2.toNat / 256 % 256
  let c2 := longIn2.toNat / 65536 % 256
  let upper := b1 * c2 + 256 * (c1 * c2) + c1 * b2
  let lower := a1 * b2 / 256 + a1 * c2 + b1 * b2 + c1 * a2 + b1 * a2 / 256
  BitVec.ofNat 16 ((256 * upper + lower + 128) / 256)

/-- The index type of `circular_index_t` and the size of `block_buffer`. -/
def blockTemplate : IndexTemplate := ⟨8, 4, by decide, by decide⟩

namespace PulseGen

structure Block where
  steps : BitVec 32 := 0
  direction : Bool := false
  accelerationRate : BitVec 32 := 0
  accelerateUntil : BitVec 32 := 0
  decelerateAfter : BitVec 32 := 0
  nominalRate : BitVec 32 := 0
  initialRate : BitVec 32 := 0
  finalRate : BitVec 32 := 0
  acceleration : BitVec 32 := 0

end PulseGen

structure PulseGen where
  /-- `block_buffer` and `block_index`. -/
  blocks : CircularBuffer PulseGen.Block blockTemplate := { data := Vector.replicate _ {} }
  /-- The cell `current_block` points to. -/
  currentBlock : Option (Fin blockTemplate.size) := none
  position : BitVec 32 := 0
  maxJerk : BitVec 32
  acceleration : BitVec 32
  lastRate : BitVec 32 := 0
  accelerationTime : BitVec 32 := 0
  decelerationTime : BitVec 32 := 0
  accStepRate : BitVec 16 := 0
  stepLoops : Nat := 0
  stepLoopsNominal : Nat := 0
  timerNominal : BitVec 16 := 0
  stepsCompleted : BitVec 32 := 0
  /-- The direction the driver was last given. -/
  dir : Bool := false

namespace PulseGen

variable (sqrt : BitVec 32 → BitVec 32) (pg : PulseGen)

def queueEmpty : Bool := pg.blocks.empty

def full : Bool := pg.blocks.full

def plannedMoves : BitVec blockTemplate.width := pg.blocks.count

def setPosition (x : BitVec 32) : PulseGen := { pg with position := x }

/-- A rate between the smallest one and the nominal one. -/
def limitRate (block : Block) (rate : BitVec 32) : BitVec 32 :=
  let rate := if rate < Config.minStepRate then Config.minStepRate else rate
  if rate > block.nominalRate then block.nominalRate else rate

/-- Half of the block's steps and a part that comes from the difference of squared rates,
rounded for an odd number of steps. -/
def intersection (block : Block) (difference x2 x4 : BitVec 32) : BitVec 32 :=
  (if block.steps &&& 1 = 0 then difference else difference + x2) / x4 + (block.steps >>> 1)

/-- Where a block stops accelerating and starts decelerating, and the rate it ends with. -/
structure Ramps where
  accelerateUntil : BitVec 32
  decelerateAfter : BitVec 32
  finalRate : BitVec 32

def ramps (block : Block) (initialRate finalRate : BitVec 32) : Ramps :=
  let acceleration := if block.acceleration = 0 then 1 else block.acceleration
  let initialRateSqr := initialRate * initialRate
  let nominalRateSqr := block.nominalRate * block.nominalRate
  let finalRateSqr := finalRate * finalRate
  let accelerationX2 := acceleration <<< 1
  let accelerateSteps := (nominalRateSqr - initialRateSqr + accelerationX2 - 1) / accelerationX2
  let decelerateSteps := (nominalRateSqr - finalRateSqr) / accelerationX2
  let accelDecelSteps := accelerateSteps + decelerateSteps
  if accelDecelSteps < block.steps then
    let plateauSteps := block.steps - accelDecelSteps
    ⟨accelerateSteps, accelerateSteps + plateauSteps, finalRate⟩
  else
    -- no cruising: braking starts where the two ramps meet
    let accelerationX4 := acceleration <<< 2
    if finalRateSqr ≥ initialRateSqr then
      let accelerateSteps := intersection block
        (finalRateSqr - initialRateSqr + accelerationX4 - 1) accelerationX2 accelerationX4
      if accelerateSteps > block.steps then
        ⟨block.steps, block.steps, sqrt (accelerationX2 * block.steps + initialRateSqr)⟩
      else ⟨accelerateSteps, accelerateSteps, finalRate⟩
    else
      let decelerateSteps := intersection block (initialRateSqr - finalRateSqr)
        accelerationX2 accelerationX4
      let decelerateSteps := if decelerateSteps > block.steps then block.steps else decelerateSteps
      ⟨block.steps - decelerateSteps, block.steps - decelerateSteps, finalRate⟩

def calculateTrapezoid (block : Block) (entrySpeed exitSpeed : BitVec 32) : Block :=
  let initialRate := limitRate block entrySpeed
  let ramps := ramps sqrt block initialRate (limitRate block exitSpeed)
  { block with
    accelerateUntil := ramps.accelerateUntil
    decelerateAfter := ramps.decelerateAfter
    initialRate := initialRate
    finalRate := ramps.finalRate }

def abs (n : BitVec 32) : BitVec 32 := if n.slt 0 then -n else n

/-- `(rate_t)(ratio * mul)`, for a ratio of `2 ^ 24` to the timer frequency. -/
def accelerationFactor : BitVec 32 := 67

/-- The speed a block starts with: the last one, towards the feed rate by at most the jerk. -/
def entrySpeed (feedRate : BitVec 32) : BitVec 32 :=
  if feedRate ≥ pg.lastRate then
    let change := feedRate - pg.lastRate
    pg.lastRate + if change ≤ pg.maxJerk then change else pg.maxJerk
  else
    let change := pg.lastRate - feedRate
    pg.lastRate - if change ≤ pg.maxJerk then change else pg.maxJerk

/-- The block of a move, in the cell it goes to. -/
def planBlock (target feedRate endRate : BitVec 32) : Block :=
  let steps := target - pg.position
  calculateTrapezoid sqrt
    { pg.blocks.slot with
      steps := abs steps
      direction := !steps.slt 0
      nominalRate := feedRate
      acceleration := pg.acceleration
      accelerationRate := pg.acceleration * accelerationFactor / 8 }
    (pg.entrySpeed feedRate) endRate

/-- A refused move changes nothing; of a dropped one only the length is written, into a cell
that is free. -/
def planMoveTo (target feedRate endRate : BitVec 32) : Bool × PulseGen :=
  if pg.blocks.full then (false, pg)
  else
    let steps := abs (target - pg.position)
    if steps ≤ Config.dropSegments then
      (true, { pg with blocks := pg.blocks.store { pg.blocks.slot with steps := steps } })
    else
      let block := pg.planBlock sqrt target feedRate endRate
      (true,
        { pg with
          blocks := (pg.blocks.store block).advance
          lastRate := block.finalRate
          position := target })

/-- The shift of a whole block. -/
def blockShift (block : Block) : BitVec 32 :=
  if block.direction then block.steps else -block.steps

/-- The shift that the current block has left. -/
def curBlockShift (block : Block) : BitVec 32 :=
  let stepsMissing := block.steps - pg.stepsCompleted
  if block.direction then stepsMissing else -stepsMissing

/-- Roll back the blocks from the index on, of which there are no more than the buffer holds. -/
def rollback (data : Vector Block blockTemplate.size) :
    Nat → CircularIndex blockTemplate → BitVec 32 → BitVec 32
  | 0, _, curPos => curPos
  | fuel + 1, iter, curPos =>
      if iter.empty then curPos
      else rollback data fuel iter.pop
        (curPos - blockShift (data.get ⟨iter.front.toNat, iter.front_lt⟩))

def curPosition : BitVec 32 :=
  match pg.currentBlock with
  | some cell =>
      rollback pg.blocks.data blockTemplate.size pg.blocks.index.pop
        (pg.position - pg.curBlockShift (pg.blocks.data.get cell))
  | none => rollback pg.blocks.data blockTemplate.size pg.blocks.index pg.position

def abortPlannedMoves (halt : Bool) : PulseGen :=
  let pg := { pg with position := pg.curPosition }
  let pg :=
    match pg.currentBlock with
    | some _ => { pg with lastRate := pg.accStepRate.setWidth 32, currentBlock := none }
    | none => pg
  let pg := { pg with blocks := pg.blocks.reset }
  if halt then { pg with lastRate := 0 } else pg

/-- Fetch the next block, if none is current and there is one. -/
def fetch : PulseGen :=
  match pg.currentBlock with
  | some _ => pg
  | none =>
      if pg.blocks.empty then pg
      else
        let block := pg.blocks.front
        let accStepRate := block.initialRate.setWidth 16
        let interval := calcTimer accStepRate
        { pg with
          currentBlock := some ⟨pg.blocks.index.front.toNat, pg.blocks.index.front_lt⟩
          dir := block.direction
          decelerationTime := 0
          accStepRate := accStepRate
          accelerationTime := interval.1.setWidth 32
          stepLoops := interval.2
          stepsCompleted := 0
          stepLoopsNominal := 0 }

/-- The steps of one interrupt: how many, and the steps completed afterwards. -/
def stepMotor (steps : BitVec 32) : Nat → BitVec 32 → Nat × BitVec 32
  | 0, completed => (0, completed)
  | loops + 1, completed =>
      let completed := completed + 1
      if completed ≥ steps then (1, completed)
      else
        let rest := stepMotor steps loops completed
        (rest.1 + 1, rest.2)

/-- The interval to the next interrupt. -/
def nextTimer (block : Block) : BitVec 16 × PulseGen :=
  if pg.stepsCompleted ≤ block.accelerateUntil then
    let rate := mulU24X24toH16 pg.accelerationTime block.accelerationRate +
      block.initialRate.setWidth 16
    let rate :=
      if rate > block.nominalRate.setWidth 16 then block.nominalRate.setWidth 16 else rate
    let interval := calcTimer rate
    (interval.1,
      { pg with
        accStepRate := rate
        stepLoops := interval.2
        accelerationTime := pg.accelerationTime + interval.1.setWidth 32 })
  else if pg.stepsCompleted > block.decelerateAfter then
    let change := mulU24X24toH16 pg.decelerationTime block.accelerationRate
    let rate :=
      if change > pg.accStepRate then block.finalRate.setWidth 16
      else if (pg.accStepRate - change).setWidth 32 < block.finalRate then
        block.finalRate.setWidth 16
      else pg.accStepRate - change
    let interval := calcTimer rate
    (interval.1,
      { pg with
        stepLoops := interval.2
        decelerationTime := pg.decelerationTime + interval.1.setWidth 32 })
  else if pg.stepLoopsNominal = 0 then
    let interval := calcTimer (block.nominalRate.setWidth 16)
    (interval.1,
      { pg with
        timerNominal := interval.1
        stepLoops := interval.2
        stepLoopsNominal := interval.2 })
  else (pg.timerNominal, pg)

/-- The interval to the next interrupt, zero if there is nothing to do, and the directions of
the steps taken. -/
structure Stepped where
  timer : BitVec 16
  pulses : List Bool

/-- The block is done with. -/
def finish : PulseGen := { pg with currentBlock := none, blocks := pg.blocks.retire }

/-- Steps of the current block. -/
def stepBlock (block : Block) : Stepped × PulseGen :=
  let moved := stepMotor block.steps pg.stepLoops pg.stepsCompleted
  let next := { pg with stepsCompleted := moved.2 }.nextTimer block
  (⟨next.1, List.replicate moved.1 pg.dir⟩,
    if moved.2 ≥ block.steps then next.2.finish else next.2)

def step : Stepped × PulseGen :=
  let pg := pg.fetch
  match pg.currentBlock with
  | none => (⟨0, []⟩, pg)
  | some cell => pg.stepBlock (pg.blocks.data.get cell)

theorem step_of_none (h : pg.fetch.currentBlock = none) : pg.step = (⟨0, []⟩, pg.fetch) := by
  simp only [step, h]

theorem step_of_some (cell : Fin blockTemplate.size) (h : pg.fetch.currentBlock = some cell) :
    pg.step = pg.fetch.stepBlock (pg.fetch.blocks.data.get cell) := by
  simp only [step, h]

end PulseGen

end MmuFirmware
