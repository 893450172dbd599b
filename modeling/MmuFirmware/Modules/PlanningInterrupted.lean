import MmuFirmware.Modules.PulseAccount
import MmuFirmware.Lib.Refinement

/-!
`PulseGen::PlanMoveTo` runs with the stepping interrupt enabled. Its statements are taken one at
a time here, with interrupts anywhere between them. The block is prepared in a cell that the
interrupt does not look at, and the call takes effect as a whole when the index is advanced.
-/
namespace MmuFirmware

namespace PulseGen

/-- The arguments of a call. -/
structure Planned where
  target : BitVec 32
  feedRate : BitVec 32
  endRate : BitVec 32
  deriving DecidableEq

/-- The statement a call is at, with what it keeps in its local variables. -/
inductive Stage where
  | checkFull
  | storeSteps
  | checkDropped (steps : BitVec 32)
  | storeDirection (steps : BitVec 32)
  | storeNominalRate
  | storeAcceleration
  | storeAccelerationRate
  | readLastRate
  | calculate (entrySpeed : BitVec 32)
  | storeAccelerateUntil (trapezoid : Block)
  | storeDecelerateAfter (trapezoid : Block)
  | storeInitialRate (trapezoid : Block)
  | storeFinalRate (trapezoid : Block)
  | storeLastRate
  | push
  | storePosition

/-- A write to the cell the next block goes to. -/
def write (pg : PulseGen) (block : Block) : PulseGen := { pg with blocks := pg.blocks.store block }

variable (sqrt : BitVec 32 → BitVec 32)

/-- One statement of a call: what it makes of the generator, and the next statement or the
answer. -/
def execute (c : Planned) (pg : PulseGen) : Stage → PulseGen × (Stage ⊕ Bool)
  | .checkFull => (pg, if pg.blocks.full then .inr false else .inl .storeSteps)
  | .storeSteps =>
      let steps := c.target - pg.position
      (pg.write { pg.blocks.slot with steps := abs steps }, .inl (.checkDropped steps))
  | .checkDropped steps =>
      (pg, if pg.blocks.slot.steps ≤ Config.dropSegments then .inr true
        else .inl (.storeDirection steps))
  | .storeDirection steps =>
      (pg.write { pg.blocks.slot with direction := !steps.slt 0 }, .inl .storeNominalRate)
  | .storeNominalRate =>
      (pg.write { pg.blocks.slot with nominalRate := c.feedRate }, .inl .storeAcceleration)
  | .storeAcceleration =>
      (pg.write { pg.blocks.slot with acceleration := pg.acceleration },
        .inl .storeAccelerationRate)
  | .storeAccelerationRate =>
      let block := pg.blocks.slot
      (pg.write { block with accelerationRate := block.acceleration * accelerationFactor / 8 },
        .inl .readLastRate)
  | .readLastRate => (pg, .inl (.calculate (pg.entrySpeed c.feedRate)))
  | .calculate entrySpeed =>
      (pg, .inl (.storeAccelerateUntil
        (calculateTrapezoid sqrt pg.blocks.slot entrySpeed c.endRate)))
  | .storeAccelerateUntil trapezoid =>
      (pg.write { pg.blocks.slot with accelerateUntil := trapezoid.accelerateUntil },
        .inl (.storeDecelerateAfter trapezoid))
  | .storeDecelerateAfter trapezoid =>
      (pg.write { pg.blocks.slot with decelerateAfter := trapezoid.decelerateAfter },
        .inl (.storeInitialRate trapezoid))
  | .storeInitialRate trapezoid =>
      (pg.write { pg.blocks.slot with initialRate := trapezoid.initialRate },
        .inl (.storeFinalRate trapezoid))
  | .storeFinalRate trapezoid =>
      (pg.write { pg.blocks.slot with finalRate := trapezoid.finalRate }, .inl .storeLastRate)
  | .storeLastRate => ({ pg with lastRate := pg.blocks.slot.finalRate }, .inl .push)
  | .push => ({ pg with blocks := pg.blocks.advance }, .inl .storePosition)
  | .storePosition => ({ pg with position := c.target }, .inr true)

/-- What an interrupt neither reads nor writes. -/
structure Settings where
  lastRate : BitVec 32
  position : BitVec 32
  maxJerk : BitVec 32
  acceleration : BitVec 32

def settings (pg : PulseGen) : Settings := ⟨pg.lastRate, pg.position, pg.maxJerk, pg.acceleration⟩

/-- The generator with another ring and other settings. -/
def reframed (pg : PulseGen)
    (f : CircularBuffer Block blockTemplate → CircularBuffer Block blockTemplate)
    (r : Settings) : PulseGen :=
  { pg with
    blocks := f pg.blocks
    lastRate := r.lastRate
    position := r.position
    maxJerk := r.maxJerk
    acceleration := r.acceleration }

section Reframed

variable {pg : PulseGen}
  {f : CircularBuffer Block blockTemplate → CircularBuffer Block blockTemplate}
  (r : Settings)

theorem nextTimer_reframed (pg : PulseGen) (b : Block) :
    (pg.reframed f r).nextTimer b =
      ((pg.nextTimer b).1, (pg.nextTimer b).2.reframed f r) := by
  rw [nextTimer, nextTimer]
  by_cases haccelerates : pg.stepsCompleted ≤ b.accelerateUntil
  · exact (if_pos haccelerates).trans (by rw [if_pos haccelerates]; rfl)
  · refine (if_neg haccelerates).trans ?_
    rw [if_neg haccelerates]
    by_cases hdecelerates : pg.stepsCompleted > b.decelerateAfter
    · exact (if_pos hdecelerates).trans (by rw [if_pos hdecelerates]; rfl)
    · refine (if_neg hdecelerates).trans ?_
      rw [if_neg hdecelerates]
      by_cases hfirst : pg.stepLoopsNominal = 0
      · exact (if_pos hfirst).trans (by rw [if_pos hfirst]; rfl)
      · exact (if_neg hfirst).trans (by rw [if_neg hfirst]; rfl)

theorem stepBlock_reframed (hretire : ∀ b, f b.retire = (f b).retire) (pg : PulseGen) (b : Block) :
    (pg.reframed f r).stepBlock b =
      ((pg.stepBlock b).1, (pg.stepBlock b).2.reframed f r) := by
  have hsteps : (pg.reframed f r).stepBlock b =
      (⟨(((pg.moved b).reframed f r).nextTimer b).1,
        List.replicate (stepMotor b.steps pg.stepLoops pg.stepsCompleted).1 pg.dir⟩,
        if (stepMotor b.steps pg.stepLoops pg.stepsCompleted).2 ≥ b.steps then
          (((pg.moved b).reframed f r).nextTimer b).2.finish
        else (((pg.moved b).reframed f r).nextTimer b).2) := rfl
  rw [hsteps, nextTimer_reframed, stepBlock]
  dsimp only
  split
  · rw [finish, finish, reframed, reframed, hretire]
    rfl
  · rfl

theorem fetch_of_current (pg : PulseGen) {cell : Fin blockTemplate.size}
    (h : pg.currentBlock = some cell) : pg.fetch = pg := by
  rw [PulseGen.fetch, h]

theorem fetch_of_empty (pg : PulseGen) (h : pg.currentBlock = none)
    (hempty : pg.blocks.empty = true) : pg.fetch = pg := by
  rw [PulseGen.fetch, h]
  exact if_pos hempty

/-- The first block becomes the current one. -/
theorem fetch_of_front (pg : PulseGen) {first : Block} (h : pg.currentBlock = none)
    (hsome : ¬ pg.blocks.empty = true) (hfront : pg.blocks.front = first) :
    pg.fetch =
      { pg with
        currentBlock := some ⟨pg.blocks.index.front.toNat, pg.blocks.index.front_lt⟩
        dir := first.direction
        decelerationTime := 0
        accStepRate := first.initialRate.setWidth 16
        accelerationTime := (calcTimer (first.initialRate.setWidth 16)).1.setWidth 32
        stepLoops := (calcTimer (first.initialRate.setWidth 16)).2
        stepsCompleted := 0
        stepLoopsNominal := 0 } := by
  subst hfront
  rw [PulseGen.fetch, h]
  exact if_neg hsome

theorem fetch_reframed (hindex : ∀ b, (f b).index = b.index)
    (hfront : ¬ pg.blocks.empty = true → (f pg.blocks).front = pg.blocks.front) :
    (pg.reframed f r).fetch = pg.fetch.reframed f r := by
  have hempty : (f pg.blocks).empty = pg.blocks.empty := congrArg CircularIndex.empty (hindex _)
  cases hcurrent : pg.currentBlock with
  | some cell =>
      rw [fetch_of_current pg hcurrent]
      exact fetch_of_current _ hcurrent
  | none =>
      by_cases hnone : pg.blocks.empty = true
      · rw [fetch_of_empty pg hcurrent hnone]
        exact fetch_of_empty _ hcurrent (hempty.trans hnone)
      · rw [fetch_of_front pg hcurrent hnone rfl,
          fetch_of_front (pg.reframed f r) hcurrent (hempty ▸ hnone) (hfront hnone)]
        simp only [reframed, hindex]

/-- An interrupt goes on as before, if the cells it reads are as before. -/
theorem step_reframed (hindex : ∀ b, (f b).index = b.index)
    (hretire : ∀ b, f b.retire = (f b).retire)
    (hfront : ¬ pg.blocks.empty = true → (f pg.blocks).front = pg.blocks.front)
    (hcell : ∀ cell, pg.fetch.currentBlock = some cell →
      (f pg.fetch.blocks).data.get cell = pg.fetch.blocks.data.get cell) :
    (pg.reframed f r).step =
      (pg.step.1, pg.step.2.reframed f r) := by
  have hfetch := fetch_reframed r hindex hfront
  have hnone := (pg.reframed f r).step_of_none
  have hsome := (pg.reframed f r).step_of_some
  rw [hfetch] at hnone hsome
  cases hcurrent : pg.fetch.currentBlock with
  | none =>
      rw [pg.step_of_none hcurrent]
      exact hnone hcurrent
  | some cell =>
      have hget : (pg.fetch.reframed f r).blocks.data.get cell =
          pg.fetch.blocks.data.get cell := hcell cell hcurrent
      rw [pg.step_of_some cell hcurrent, hsome cell hcurrent, hget,
        stepBlock_reframed r hretire]

end Reframed

variable {pg : PulseGen} {elems : List Block} {part : List Bool}

theorem step_reset (pg : PulseGen) (r : Settings) :
    (pg.reframed (fun b => b) r).step = (pg.step.1, pg.step.2.reframed (fun b => b) r) :=
  step_reframed r (fun _ => rfl) (fun _ => rfl) (fun _ => rfl) fun _ _ => rfl

theorem settings_step (pg : PulseGen) : pg.step.2.settings = pg.settings := by
  have hstep : pg.step.2 = pg.step.2.reframed (fun b => b) pg.settings :=
    congrArg Prod.snd (step_reset pg pg.settings)
  rw [hstep]
  rfl

/-- A call that is preparing its block: the block is in the free cell. -/
def drafted (pg : PulseGen) (block : Block) (lastRate : BitVec 32) : PulseGen :=
  { pg with blocks := pg.blocks.store block, lastRate := lastRate }

theorem drafted_slot (pg : PulseGen) : pg.drafted pg.blocks.slot pg.lastRate = pg := by
  have hstore : pg.blocks.store pg.blocks.slot = pg.blocks := by
    rw [CircularBuffer.store, CircularBuffer.slot]
    exact congrArg (fun data => ({ pg.blocks with data := data } : CircularBuffer _ _))
      (Vector.set_getElem_self _)
  rw [drafted, hstore]

/-- An interrupt does not see what is drafted, and leaves it alone. -/
theorem Holds.step_drafted (h : pg.Holds elems part) (hroom : elems.length < blockTemplate.size)
    (block : Block) (lastRate : BitVec 32) :
    (pg.drafted block lastRate).step = (pg.step.1, pg.step.2.drafted block lastRate) := by
  obtain ⟨⟨hqueues, -, hbusy⟩, -, -⟩ := h.fetch
  have hstep := pg.step_reframed (f := fun b => b.store block)
    { pg.settings with lastRate := lastRate } (fun _ => rfl) (fun _ => rfl) (fun hsome => ?_)
    fun cell hcurrent => ?_
  · have hafter : pg.step.2.drafted block lastRate =
        pg.step.2.reframed (fun b => b.store block)
          { pg.step.2.settings with lastRate := lastRate } := rfl
    rw [hafter, settings_step]
    exact hstep
  · cases elems with
    | nil => exact absurd (h.queues.empty_iff.mpr rfl) hsome
    | cons first rest =>
        exact ((h.queues.store hroom block).front rfl).trans (h.queues.front rfl).symm
  · cases hbusy with
    | resting hnone =>
        rw [hnone] at hcurrent
        cases hcurrent
    | @moving first rest cell' hcurrent' hcell hdir hloops hleft =>
        rw [hcurrent'] at hcurrent
        obtain rfl := Option.some.inj hcurrent
        have hstored := (hqueues.store hroom block).front rfl
        have hfront := hqueues.front rfl
        rw [CircularBuffer.front] at hstored hfront
        have hindex : (pg.fetch.blocks.store block).index = pg.fetch.blocks.index := rfl
        simp only [hindex, hcell] at hstored hfront
        exact hstored.trans hfront.symm

theorem Holds.step (h : pg.Holds elems part) :
    ∃ elems' part', pg.step.2.Holds elems' part' ∧ elems'.length ≤ elems.length := by
  cases elems with
  | nil =>
      obtain ⟨hstep, -, -⟩ := h.step_nil
      rw [hstep]
      exact ⟨[], part, h.fetch.1, Nat.le_refl 0⟩
  | cons first rest =>
      rcases h.step_cons.after with ⟨-, -, hafter⟩ | ⟨-, -, hafter⟩
      · exact ⟨rest, [], hafter, Nat.le_succ _⟩
      · exact ⟨first :: rest, _, hafter, Nat.le_refl _⟩

theorem slot_step (h : pg.Holds elems part) (hroom : elems.length < blockTemplate.size) :
    pg.step.2.blocks.slot = pg.blocks.slot := by
  have hstep := congrArg Prod.snd (h.step_drafted hroom pg.blocks.slot pg.lastRate)
  rw [drafted_slot] at hstep
  have hslot := congrArg (fun pg : PulseGen => pg.blocks.slot) hstep
  exact hslot.trans (CircularBuffer.slot_store _ _)

/-! The machine: calls are made one after another, an interrupt comes at any time. -/

structure Interrupted where
  pg : PulseGen
  /-- The call that is under way. -/
  call : Option (Planned × Stage) := none
  /-- What the interrupts did. -/
  stepped : List Stepped := []
  /-- The calls that returned, with what they answered. -/
  answers : List (Planned × Bool) := []

namespace Interrupted

inductive Event where
  | planMoveTo (c : Planned)
  | statement
  | interrupt
  | abortPlannedMoves (halt : Bool)
  | setPosition (x : BitVec 32)

/-- A call is made when none is under way; an abort masks the interrupt. -/
def perform (s : Interrupted) : Event → Interrupted × Unit
  | .interrupt => ({ s with pg := s.pg.step.2, stepped := s.stepped ++ [s.pg.step.1] }, ())
  | .planMoveTo c =>
      (match s.call with
        | none => { s with call := some (c, .checkFull) }
        | some _ => s, ())
  | .statement =>
      (match s.call with
        | none => s
        | some (c, stage) =>
            let done := execute sqrt c s.pg stage
            match done.2 with
            | .inl next => { s with pg := done.1, call := some (c, next) }
            | .inr answer =>
                { s with pg := done.1, call := none, answers := s.answers ++ [(c, answer)] },
        ())
  | .abortPlannedMoves halt =>
      (match s.call with
        | none => { s with pg := s.pg.abortPlannedMoves halt }
        | some _ => s, ())
  | .setPosition x =>
      (match s.call with
        | none => { s with pg := s.pg.setPosition x }
        | some _ => s, ())

end Interrupted

/-- The machine in which a call is a single step. -/
structure Atomic where
  pg : PulseGen
  stepped : List Stepped := []
  answers : List (Planned × Bool) := []

def Atomic.perform (t : Atomic) : Op → Atomic × Unit
  | .step => ({ t with pg := t.pg.step.2, stepped := t.stepped ++ [t.pg.step.1] }, ())
  | .planMoveTo target feedRate endRate =>
      let planned := t.pg.planMoveTo sqrt target feedRate endRate
      ({ t with
          pg := planned.2
          answers := t.answers ++ [(⟨target, feedRate, endRate⟩, planned.1)] }, ())
  | .abortPlannedMoves halt => ({ t with pg := t.pg.abortPlannedMoves halt }, ())
  | .setPosition x => ({ t with pg := t.pg.setPosition x }, ())

/-- A statement with which a call takes effect: the check that refuses it, the check that drops
it, or the advance of the index. -/
def TakesEffect (pg : PulseGen) : Stage → Bool
  | .checkFull => pg.blocks.full
  | .checkDropped _ => pg.blocks.slot.steps ≤ Config.dropSegments
  | .push => true
  | _ => false

def Planned.op (c : Planned) : Op := .planMoveTo c.target c.feedRate c.endRate

/-- What an event amounts to if calls are single steps. -/
def Interrupted.linear (s : Interrupted) : Event → List Op
  | .interrupt => [.step]
  | .statement =>
      match s.call with
      | some (c, stage) => if TakesEffect s.pg stage then [c.op] else []
      | none => []
  | .abortPlannedMoves halt => if s.call.isNone then [.abortPlannedMoves halt] else []
  | .setPosition x => if s.call.isNone then [.setPosition x] else []
  | .planMoveTo _ => []

section Drafts

variable (c : Planned) (pg : PulseGen)

/-- The block as it is stored field by field. -/
def withSteps : Block := { pg.blocks.slot with steps := abs (c.target - pg.position) }

def withDirection : Block :=
  { withSteps c pg with direction := !(c.target - pg.position).slt 0 }

def withNominalRate : Block := { withDirection c pg with nominalRate := c.feedRate }

def withAcceleration : Block := { withNominalRate c pg with acceleration := pg.acceleration }

def prepared : Block :=
  { withAcceleration c pg with
    accelerationRate := pg.acceleration * accelerationFactor / 8 }

def trapezoid : Block := pg.planBlock sqrt c.target c.feedRate c.endRate

/-- The move is too short to be planned. -/
def Dropped : Prop := abs (c.target - pg.position) ≤ Config.dropSegments

/-- What a call has stored, and keeps in its local variables, before a statement. -/
def Drafted (block : Block) (lastRate : BitVec 32) : Stage → Prop
  | .checkFull | .storeSteps => block = pg.blocks.slot ∧ lastRate = pg.lastRate
  | .checkDropped steps =>
      steps = c.target - pg.position ∧ block = withSteps c pg ∧ lastRate = pg.lastRate
  | .storeDirection steps => steps = c.target - pg.position ∧ ¬ Dropped c pg ∧
      block = withSteps c pg ∧ lastRate = pg.lastRate
  | .storeNominalRate =>
      ¬ Dropped c pg ∧ block = withDirection c pg ∧ lastRate = pg.lastRate
  | .storeAcceleration =>
      ¬ Dropped c pg ∧ block = withNominalRate c pg ∧ lastRate = pg.lastRate
  | .storeAccelerationRate =>
      ¬ Dropped c pg ∧ block = withAcceleration c pg ∧ lastRate = pg.lastRate
  | .readLastRate => ¬ Dropped c pg ∧ block = prepared c pg ∧ lastRate = pg.lastRate
  | .calculate entrySpeed => entrySpeed = pg.entrySpeed c.feedRate ∧ ¬ Dropped c pg ∧
      block = prepared c pg ∧ lastRate = pg.lastRate
  | .storeAccelerateUntil t => t = trapezoid sqrt c pg ∧ ¬ Dropped c pg ∧
      block = prepared c pg ∧ lastRate = pg.lastRate
  | .storeDecelerateAfter t => t = trapezoid sqrt c pg ∧ ¬ Dropped c pg ∧
      block = { prepared c pg with accelerateUntil := t.accelerateUntil } ∧
      lastRate = pg.lastRate
  | .storeInitialRate t => t = trapezoid sqrt c pg ∧ ¬ Dropped c pg ∧
      block = { prepared c pg with
        accelerateUntil := t.accelerateUntil
        decelerateAfter := t.decelerateAfter } ∧
      lastRate = pg.lastRate
  | .storeFinalRate t => t = trapezoid sqrt c pg ∧ ¬ Dropped c pg ∧
      block = { prepared c pg with
        accelerateUntil := t.accelerateUntil
        decelerateAfter := t.decelerateAfter
        initialRate := t.initialRate } ∧
      lastRate = pg.lastRate
  | .storeLastRate => ¬ Dropped c pg ∧ block = trapezoid sqrt c pg ∧ lastRate = pg.lastRate
  | .push => ¬ Dropped c pg ∧ block = trapezoid sqrt c pg ∧
      lastRate = (trapezoid sqrt c pg).finalRate
  | .storePosition => False

/-- What a statement of a call amounts to: nothing yet, or the whole call. -/
inductive Progress (done : PulseGen × (Stage ⊕ Bool)) : Bool → Prop where
  | prepares {block : Block} {lastRate : BitVec 32} {next : Stage}
      (hdone : done = (pg.drafted block lastRate, .inl next))
      (hdrafted : Drafted sqrt c pg block lastRate next) (hroom : pg.full = false) :
      Progress done false
  | answers (hdone : done = ((pg.planMoveTo sqrt c.target c.feedRate c.endRate).2,
        .inr (pg.planMoveTo sqrt c.target c.feedRate c.endRate).1)) : Progress done true
  | pushes (hdone : done.2 = .inl .storePosition)
      (hplanned : pg.planMoveTo sqrt c.target c.feedRate c.endRate =
        (true, { done.1 with position := c.target })) : Progress done true

end Drafts

theorem slot_drafted (block : Block) (lastRate : BitVec 32) :
    (pg.drafted block lastRate).blocks.slot = block := CircularBuffer.slot_store _ _

theorem write_drafted (block block' : Block) (lastRate : BitVec 32) :
    (pg.drafted block lastRate).write block' = pg.drafted block' lastRate := by
  have hstore : (pg.blocks.store block).store block' = pg.blocks.store block' := by
    simp only [CircularBuffer.store, Vector.set_set]
  rw [write, drafted, drafted, hstore]

theorem planMoveTo_of_dropped {c : Planned} (hroom : pg.full = false) (h : Dropped c pg) :
    pg.planMoveTo sqrt c.target c.feedRate c.endRate =
      (true, pg.drafted (withSteps c pg) pg.lastRate) := by
  rw [planMoveTo, if_neg (by rw [← PulseGen.full, hroom]; exact Bool.false_ne_true)]
  exact if_pos h

theorem planMoveTo_of_long {c : Planned} (hroom : pg.full = false) (h : ¬ Dropped c pg) :
    pg.planMoveTo sqrt c.target c.feedRate c.endRate =
      (true,
        { pg with
          blocks := (pg.blocks.store (trapezoid sqrt c pg)).advance
          lastRate := (trapezoid sqrt c pg).finalRate
          position := c.target }) := by
  rw [planMoveTo, if_neg (by rw [← PulseGen.full, hroom]; exact Bool.false_ne_true)]
  exact if_neg h

theorem Drafted.statement {c : Planned} {block : Block} {lastRate : BitVec 32} {stage : Stage}
    (h : Drafted sqrt c pg block lastRate stage)
    (hroom : stage = .checkFull ∨ pg.full = false) :
    Progress sqrt c pg (execute sqrt c (pg.drafted block lastRate) stage)
      (TakesEffect (pg.drafted block lastRate) stage) := by
  cases stage with
  | checkFull =>
      obtain ⟨rfl, rfl⟩ := h
      rw [drafted_slot, execute, TakesEffect]
      cases hfull : pg.blocks.full with
      | true =>
          have hplan : pg.planMoveTo sqrt c.target c.feedRate c.endRate = (false, pg) :=
            if_pos hfull
          exact .answers (by rw [hplan]; rfl)
      | false =>
          have hdrafted : Drafted sqrt c pg pg.blocks.slot pg.lastRate .storeSteps := ⟨rfl, rfl⟩
          refine .prepares ?_ hdrafted hfull
          rw [drafted_slot]
          rfl
  | storeSteps =>
      obtain ⟨rfl, rfl⟩ := h
      have hroom := hroom.resolve_left (by simp)
      rw [execute, slot_drafted, write_drafted]
      exact .prepares rfl ⟨rfl, rfl, rfl⟩ hroom
  | checkDropped steps =>
      obtain ⟨rfl, rfl, rfl⟩ := h
      have hroom := hroom.resolve_left (by simp)
      rw [execute, TakesEffect, slot_drafted]
      by_cases hdropped : (withSteps c pg).steps ≤ Config.dropSegments
      · rw [if_pos hdropped, decide_eq_true hdropped]
        exact .answers (by rw [planMoveTo_of_dropped sqrt hroom hdropped])
      · rw [if_neg hdropped, decide_eq_false hdropped]
        exact .prepares rfl ⟨rfl, hdropped, rfl, rfl⟩ hroom
  | storeDirection steps =>
      obtain ⟨rfl, hlong, rfl, rfl⟩ := h
      have hroom := hroom.resolve_left (by simp)
      rw [execute, slot_drafted, write_drafted]
      exact .prepares rfl ⟨hlong, rfl, rfl⟩ hroom
  | storeNominalRate =>
      obtain ⟨hlong, rfl, rfl⟩ := h
      have hroom := hroom.resolve_left (by simp)
      rw [execute, slot_drafted, write_drafted]
      exact .prepares rfl ⟨hlong, rfl, rfl⟩ hroom
  | storeAcceleration =>
      obtain ⟨hlong, rfl, rfl⟩ := h
      have hroom := hroom.resolve_left (by simp)
      rw [execute, slot_drafted, write_drafted]
      exact .prepares rfl ⟨hlong, rfl, rfl⟩ hroom
  | storeAccelerationRate =>
      obtain ⟨hlong, rfl, rfl⟩ := h
      have hroom := hroom.resolve_left (by simp)
      rw [execute, slot_drafted, write_drafted]
      exact .prepares rfl ⟨hlong, rfl, rfl⟩ hroom
  | readLastRate =>
      obtain ⟨hlong, rfl, rfl⟩ := h
      have hroom := hroom.resolve_left (by simp)
      exact .prepares rfl ⟨rfl, hlong, rfl, rfl⟩ hroom
  | calculate entrySpeed =>
      obtain ⟨rfl, hlong, rfl, rfl⟩ := h
      have hroom := hroom.resolve_left (by simp)
      rw [execute, slot_drafted]
      exact .prepares rfl ⟨rfl, hlong, rfl, rfl⟩ hroom
  | storeAccelerateUntil t =>
      obtain ⟨rfl, hlong, rfl, rfl⟩ := h
      have hroom := hroom.resolve_left (by simp)
      rw [execute, slot_drafted, write_drafted]
      exact .prepares rfl ⟨rfl, hlong, rfl, rfl⟩ hroom
  | storeDecelerateAfter t =>
      obtain ⟨rfl, hlong, rfl, rfl⟩ := h
      have hroom := hroom.resolve_left (by simp)
      rw [execute, slot_drafted, write_drafted]
      exact .prepares rfl ⟨rfl, hlong, rfl, rfl⟩ hroom
  | storeInitialRate t =>
      obtain ⟨rfl, hlong, rfl, rfl⟩ := h
      have hroom := hroom.resolve_left (by simp)
      rw [execute, slot_drafted, write_drafted]
      exact .prepares rfl ⟨rfl, hlong, rfl, rfl⟩ hroom
  | storeFinalRate t =>
      obtain ⟨rfl, hlong, rfl, rfl⟩ := h
      have hroom := hroom.resolve_left (by simp)
      rw [execute, slot_drafted, write_drafted]
      exact .prepares rfl ⟨hlong, rfl, rfl⟩ hroom
  | storeLastRate =>
      obtain ⟨hlong, rfl, rfl⟩ := h
      have hroom := hroom.resolve_left (by simp)
      rw [execute, slot_drafted]
      exact .prepares rfl ⟨hlong, rfl, rfl⟩ hroom
  | push =>
      obtain ⟨hlong, rfl, rfl⟩ := h
      have hroom := hroom.resolve_left (by simp)
      exact .pushes rfl (planMoveTo_of_long sqrt hroom hlong)
  | storePosition => exact absurd h id

/-- What a call has prepared does not depend on what interrupts change. -/
theorem Drafted.congr {c : Planned} {pg' : PulseGen} {block : Block} {lastRate : BitVec 32}
    {stage : Stage} (h : Drafted sqrt c pg block lastRate stage)
    (hslot : pg'.blocks.slot = pg.blocks.slot) (hsettings : pg'.settings = pg.settings) :
    Drafted sqrt c pg' block lastRate stage := by
  obtain ⟨hlastRate, hposition, hmaxJerk, hacceleration⟩ := Settings.mk.inj hsettings
  cases stage with
  | storePosition => exact absurd h id
  | _ =>
      simpa only [Drafted, Dropped, trapezoid, planBlock, PulseGen.entrySpeed, prepared,
        withAcceleration, withNominalRate, withDirection, withSteps, hslot, hlastRate, hposition,
        hmaxJerk, hacceleration] using h

/-- Where a call is, against the machine in which it is a single step. -/
inductive Between (s : Interrupted) (t : Atomic) : Prop where
  | idle (hcall : s.call = none) (hpg : s.pg = t.pg) (hanswers : s.answers = t.answers)
  | preparing {c : Planned} {stage : Stage} {block : Block} {lastRate : BitVec 32}
      (hcall : s.call = some (c, stage)) (hpg : s.pg = t.pg.drafted block lastRate)
      (hanswers : s.answers = t.answers) (hdrafted : Drafted sqrt c t.pg block lastRate stage)
      (hroom : stage = .checkFull ∨ t.pg.full = false)
  | pushed {c : Planned} (hcall : s.call = some (c, .storePosition))
      (hpg : t.pg = { s.pg with position := c.target })
      (hanswers : t.answers = s.answers ++ [(c, true)])

structure Linked (s : Interrupted) (t : Atomic) : Prop where
  stepped : s.stepped = t.stepped
  owes : ∃ moves part, t.pg.Owes moves part
  call : Between sqrt s t

theorem Atomic.pg_perform (t : Atomic) (op : Op) :
    (t.perform sqrt op).1.pg = (t.pg.perform sqrt op).1 := by
  cases op <;> rfl

theorem full_step (h : pg.Holds elems part) (hroom : pg.full = false) :
    pg.step.2.full = false := by
  obtain ⟨elems', part', hafter, hle⟩ := h.step
  have hlt : ¬ elems.length = blockTemplate.size := fun hfull => by
    rw [PulseGen.full, h.queues.full_iff.mpr hfull] at hroom
    cases hroom
  have hbound := h.queues.bounded
  apply Bool.eq_false_iff.mpr
  intro hfull
  have hlength := hafter.queues.full_iff.mp hfull
  omega

theorem Between.interrupt {s : Interrupted} {t : Atomic} (h : Between sqrt s t)
    (howes : ∃ moves part, t.pg.Owes moves part) :
    s.pg.step.1 = t.pg.step.1 ∧
      Between sqrt { s with pg := s.pg.step.2, stepped := s.stepped ++ [s.pg.step.1] }
        { t with pg := t.pg.step.2, stepped := t.stepped ++ [t.pg.step.1] } := by
  obtain ⟨moves, part, howes⟩ := howes
  obtain ⟨elems, hholds, -⟩ := howes.holds
  cases h with
  | idle hcall hpg hanswers =>
      rw [hpg]
      exact ⟨rfl, .idle hcall rfl hanswers⟩
  | @preparing c stage block lastRate hcall hpg hanswers hdrafted hroom =>
      by_cases hlt : elems.length < blockTemplate.size
      · rw [hpg, hholds.step_drafted hlt]
        refine ⟨rfl, .preparing hcall rfl hanswers ?_ (hroom.imp_right (full_step hholds))⟩
        exact hdrafted.congr sqrt (slot_step hholds hlt) (settings_step t.pg)
      · have hfull : t.pg.full = true :=
          hholds.queues.full_iff.mpr (Nat.le_antisymm hholds.queues.bounded (Nat.not_lt.mp hlt))
        obtain rfl := hroom.resolve_right (by simp [hfull])
        obtain ⟨rfl, rfl⟩ := hdrafted
        rw [hpg, drafted_slot]
        exact ⟨rfl, .preparing hcall (drafted_slot _).symm hanswers ⟨rfl, rfl⟩ (.inl rfl)⟩
  | @pushed c hcall hpg hanswers =>
      have hstep := step_reset s.pg { s.pg.settings with position := c.target }
      have hreset : t.pg =
          s.pg.reframed (fun b => b) { s.pg.settings with position := c.target } := hpg
      rw [hreset, hstep]
      refine ⟨rfl, .pushed hcall ?_ hanswers⟩
      have hafter : ({ s.pg.step.2 with position := c.target } : PulseGen) =
          s.pg.step.2.reframed (fun b => b)
            { s.pg.step.2.settings with position := c.target } := rfl
      exact hafter ▸ settings_step s.pg ▸ rfl

theorem Interrupted.statement_of_some (s : Interrupted) {c : Planned} {stage : Stage}
    (h : s.call = some (c, stage)) :
    (s.perform sqrt .statement).1 =
      match (execute sqrt c s.pg stage).2 with
      | .inl next => { s with pg := (execute sqrt c s.pg stage).1, call := some (c, next) }
      | .inr answer =>
          { s with
            pg := (execute sqrt c s.pg stage).1
            call := none
            answers := s.answers ++ [(c, answer)] } := by
  rw [perform]
  simp only [h]

theorem Between.statement {s : Interrupted} {t : Atomic} (h : Between sqrt s t) :
    Between sqrt (s.perform sqrt .statement).1
      (Transducer.run (Atomic.perform sqrt) t (s.linear .statement)) := by
  cases h with
  | idle hcall hpg hanswers =>
      have hafter : (s.perform sqrt .statement).1 = s := by
        rw [Interrupted.perform]
        simp only [hcall]
      have hlinear : s.linear .statement = [] := by simp only [Interrupted.linear, hcall]
      rw [hafter, hlinear]
      exact .idle hcall hpg hanswers
  | @preparing c stage block lastRate hcall hpg hanswers hdrafted hroom =>
      have hlinear : s.linear .statement =
          if TakesEffect (t.pg.drafted block lastRate) stage then [c.op] else [] := by
        simp only [Interrupted.linear, hcall, hpg]
      have hprogress := hdrafted.statement sqrt hroom
      rw [s.statement_of_some sqrt hcall, hlinear, hpg]
      generalize TakesEffect (t.pg.drafted block lastRate) stage = effect at hprogress ⊢
      generalize execute sqrt c (t.pg.drafted block lastRate) stage = done at hprogress ⊢
      cases hprogress with
      | prepares hdone hdrafted' hroom' =>
          subst hdone
          exact .preparing rfl rfl hanswers hdrafted' (.inr hroom')
      | answers hdone =>
          subst hdone
          refine .idle rfl rfl ?_
          rw [hanswers]
          rfl
      | pushes hdone hplanned =>
          obtain ⟨after, next⟩ := done
          subst hdone
          have hatomic : (t.perform sqrt c.op).1 =
              { t with
                pg := { after with position := c.target }
                answers := t.answers ++ [(c, true)] } := by
            rw [Planned.op, Atomic.perform]
            dsimp only
            rw [hplanned]
          refine .pushed rfl ?_ ?_
          · exact congrArg Atomic.pg hatomic
          · exact (congrArg Atomic.answers hatomic).trans (by rw [hanswers])
  | @pushed c hcall hpg hanswers =>
      have hlinear : s.linear .statement = [] := by
        simp only [Interrupted.linear, hcall, TakesEffect]
        rfl
      rw [s.statement_of_some sqrt hcall, hlinear]
      exact .idle rfl hpg.symm hanswers.symm

theorem Interrupted.stepped_statement (s : Interrupted) :
    (s.perform sqrt .statement).1.stepped = s.stepped := by
  cases hcall : s.call with
  | none =>
      rw [perform]
      simp only [hcall]
  | some call =>
      obtain ⟨c, stage⟩ := call
      rw [s.statement_of_some sqrt hcall]
      cases (execute sqrt c s.pg stage).2 <;> rfl

theorem Interrupted.stepped_linear (s : Interrupted) (t : Atomic) :
    (Transducer.run (Atomic.perform sqrt) t (s.linear .statement)).stepped = t.stepped := by
  rw [linear]
  split
  · split <;> rfl
  · rfl

theorem Atomic.owes_run {t : Atomic} (h : ∃ moves part, t.pg.Owes moves part) (ops : List Op) :
    ∃ moves part, (Transducer.run (Atomic.perform sqrt) t ops).pg.Owes moves part := by
  apply Transducer.run_invariant (Atomic.perform sqrt)
    (fun t _ => ∃ moves part, t.pg.Owes moves part) t h
  rintro t - op ⟨moves, part, howes⟩
  rw [t.pg_perform sqrt]
  exact howes.after_perform sqrt op

theorem Linked.interrupt {s : Interrupted} {t : Atomic} (h : Linked sqrt s t) :
    Linked sqrt (s.perform sqrt .interrupt).1 (t.perform sqrt .step).1 := by
  obtain ⟨hstep, hbetween⟩ := h.call.interrupt sqrt h.owes
  refine ⟨?_, Atomic.owes_run sqrt h.owes [.step], hbetween⟩
  show s.stepped ++ [s.pg.step.1] = t.stepped ++ [t.pg.step.1]
  rw [h.stepped, hstep]

theorem Linked.planMoveTo {s : Interrupted} {t : Atomic} (h : Linked sqrt s t) (c : Planned) :
    Linked sqrt (s.perform sqrt (.planMoveTo c)).1 t := by
  obtain ⟨hstepped, howes, hcall⟩ := h
  rw [Interrupted.perform]
  cases hcall with
  | idle hcall hpg hanswers =>
      simp only [hcall]
      refine ⟨hstepped, howes, ?_⟩
      exact .preparing rfl (hpg.trans (drafted_slot _).symm) hanswers ⟨rfl, rfl⟩ (.inl rfl)
  | preparing hcall hpg hanswers hdrafted hroom =>
      simp only [hcall]
      exact ⟨hstepped, howes, .preparing hcall hpg hanswers hdrafted hroom⟩
  | pushed hcall hpg hanswers =>
      simp only [hcall]
      exact ⟨hstepped, howes, .pushed hcall hpg hanswers⟩

/-- An operation that comes between the calls. -/
theorem Linked.between {s : Interrupted} {t : Atomic} (h : Linked sqrt s t)
    (change : PulseGen → PulseGen) (op : Op)
    (hop : ∀ t : Atomic, (t.perform sqrt op).1 = { t with pg := change t.pg }) :
    Linked sqrt
      (match s.call with
        | none => { s with pg := change s.pg }
        | some _ => s)
      (Transducer.run (Atomic.perform sqrt) t (if s.call.isNone then [op] else [])) := by
  have howes := Atomic.owes_run sqrt h.owes (if s.call.isNone then [op] else [])
  obtain ⟨hstepped, -, hcall⟩ := h
  cases hcall with
  | idle hcall hpg hanswers =>
      have hrun : Transducer.run (Atomic.perform sqrt) t (if s.call.isNone then [op] else []) =
          { t with pg := change t.pg } := by
        rw [hcall]
        exact hop t
      rw [hrun] at howes ⊢
      simp only [hcall]
      exact ⟨hstepped, howes, .idle rfl (congrArg change hpg) hanswers⟩
  | preparing hcall hpg hanswers hdrafted hroom =>
      simp only [hcall] at howes ⊢
      exact ⟨hstepped, howes, .preparing hcall hpg hanswers hdrafted hroom⟩
  | pushed hcall hpg hanswers =>
      simp only [hcall] at howes ⊢
      exact ⟨hstepped, howes, .pushed hcall hpg hanswers⟩

theorem Linked.perform {s : Interrupted} {t : Atomic} (h : Linked sqrt s t)
    (event : Interrupted.Event) :
    Linked sqrt (s.perform sqrt event).1
      (Transducer.run (Atomic.perform sqrt) t (s.linear event)) := by
  cases event with
  | interrupt => exact h.interrupt sqrt
  | statement =>
      refine ⟨?_, Atomic.owes_run sqrt h.owes _, h.call.statement sqrt⟩
      rw [s.stepped_statement, s.stepped_linear]
      exact h.stepped
  | planMoveTo c => exact h.planMoveTo sqrt c
  | abortPlannedMoves halt =>
      exact h.between sqrt (fun pg => pg.abortPlannedMoves halt) _ fun _ => rfl
  | setPosition x => exact h.between sqrt (fun pg => pg.setPosition x) _ fun _ => rfl

/-- Wherever the interrupts fall, they step as they would between calls, and the calls answer
as they would without interrupts inside. -/
theorem planning_linearizes (memory : PulseGen) (position : BitVec 32)
    (events : List Interrupted.Event) :
    let pg := start memory position
    let s := Transducer.run (Interrupted.perform sqrt) { pg := pg } events
    let ops := Transducer.expanded (Interrupted.perform sqrt) Interrupted.linear { pg := pg } events
    let t := Transducer.run (Atomic.perform sqrt) { pg := pg } ops
    s.stepped = t.stepped ∧ (s.call = none → s.pg = t.pg ∧ s.answers = t.answers) := by
  intro pg s ops t
  have hlinked : Linked sqrt s t :=
    Transducer.run_expands (Interrupted.perform sqrt) (Atomic.perform sqrt) (Linked sqrt)
      Interrupted.linear (fun s t event h => h.perform sqrt event) _ _
      ⟨rfl, ⟨[], [], owes_start memory position⟩, .idle rfl rfl rfl⟩ events
  refine ⟨hlinked.stepped, fun hcall => ?_⟩
  cases hlinked.call with
  | idle hcall' hpg hanswers => exact ⟨hpg, hanswers⟩
  | preparing hcall' => exact absurd (hcall'.symm.trans hcall) nofun
  | pushed hcall' => exact absurd (hcall'.symm.trans hcall) nofun

end PulseGen

end MmuFirmware
