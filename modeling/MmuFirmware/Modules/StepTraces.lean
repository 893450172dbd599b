import MmuFirmware.Modules.StepRates

/-!
The step rates of an axis along a run. `PulseGen::Step` does not keep the rate it turns into an
interval, so the run of a generator is accompanied by what it does not remember: the states in
which the intervals of a block were chosen, and the rate from which each queued block was planned.
-/
namespace MmuFirmware

/-- A generator, and what it does not keep. -/
structure Traced where
  ctrl : PulseGen
  /-- The block of the latest interval. -/
  block : PulseGen.Block := {}
  /-- The generator when each interval of that block was chosen, the latest first. There is none
  while the axis stands still. -/
  chosen : List PulseGen := []
  /-- The queued blocks, and the last rate when each was planned. -/
  entries : List (PulseGen.Block × BitVec 32) := []

namespace Traced

open PulseGen

/-- The rate of the latest interval. -/
def rate (t : Traced) : BitVec 16 :=
  match t.chosen with
  | [] => 0
  | pg :: _ => pg.stepRate t.block

def step (t : Traced) : Traced :=
  match t.ctrl.fetch.currentBlock with
  | none => { t with ctrl := t.ctrl.step.2, chosen := [] }
  | some cell =>
      let block := t.ctrl.fetch.blocks.data.get cell
      let pg := t.ctrl.fetch.moved block
      { ctrl := t.ctrl.step.2
        block := block
        chosen := pg :: if t.ctrl.currentBlock = none then [] else t.chosen
        entries := if pg.stepsCompleted ≥ block.steps then t.entries.tail else t.entries }

def perform (t : Traced) : Op → Traced × Unit
  | .planMoveTo target feedRate endRate =>
      ({ t with
        ctrl := (t.ctrl.perform floorSqrt (.planMoveTo target feedRate endRate)).1
        entries := t.entries ++
          (t.ctrl.queuedBlock floorSqrt target feedRate endRate).map
            fun b => (b, t.ctrl.lastRate) },
        ())
  | .step => (t.step, ())
  | .abortPlannedMoves halt =>
      ({ t with
        ctrl := (t.ctrl.perform floorSqrt (.abortPlannedMoves halt)).1
        chosen := if halt then [] else t.chosen
        entries := [] }, ())
  | .setPosition x => ({ t with ctrl := (t.ctrl.perform floorSqrt (.setPosition x)).1 }, ())

def start (memory : PulseGen) (position : BitVec 32) : Traced :=
  { ctrl := PulseGen.start memory position }

theorem ctrl_perform (t : Traced) (op : Op) :
    (t.perform op).1.ctrl = (t.ctrl.perform floorSqrt op).1 := by
  cases op with
  | step =>
      show t.step.ctrl = t.ctrl.step.2
      rw [step]
      split <;> rfl
  | planMoveTo | abortPlannedMoves | setPosition => rfl

/-- What is traced is the run of the generator. -/
theorem ctrl_run (t : Traced) (ops : List Op) :
    (Transducer.run perform t ops).ctrl =
      Transducer.run (PulseGen.perform floorSqrt) t.ctrl ops := by
  induction ops generalizing t with
  | nil => rfl
  | cons op ops ih => rw [Transducer.run_cons, Transducer.run_cons, ih, ctrl_perform]

/-- The generator goes on from the state an interrupt left it in. -/
structure Resumes (pg after : PulseGen) : Prop where
  stepsCompleted : pg.stepsCompleted = after.stepsCompleted
  accelerationTime : pg.accelerationTime = after.accelerationTime
  decelerationTime : pg.decelerationTime = after.decelerationTime
  accStepRate : pg.accStepRate = after.accStepRate
  stepLoops : pg.stepLoops = after.stepLoops

/-- What the trace knows of the blocks in the ring. -/
structure Tracks (t : Traced) (elems : List PulseGen.Block) : Prop where
  holds : ∃ part, t.ctrl.Holds elems part
  entries : t.entries.map Prod.fst = elems
  last : ∀ e, t.entries.getLast? = some e → t.ctrl.lastRate = e.1.finalRate
  steady : t.ctrl.currentBlock ≠ none → t.ctrl.Steady t.block
  live : t.ctrl.currentBlock ≠ none → ∃ pg older rest,
    elems = t.block :: rest ∧ t.chosen = pg :: older ∧ Resumes t.ctrl (pg.nextTimer t.block).2

theorem tracks_start (memory : PulseGen) (position : BitVec 32) :
    (start memory position).Tracks [] where
  holds := ⟨[], .fresh _, nofun, .resting rfl⟩
  entries := rfl
  last e h := absurd h.symm (Option.some_ne_none e)
  steady h := absurd rfl h
  live h := absurd rfl h

variable {t : Traced} {elems : List PulseGen.Block}

/-- An interrupt with nothing to do: the axis stands still. -/
theorem Tracks.step_nil (h : t.Tracks []) :
    t.step = { t with ctrl := t.ctrl.fetch, chosen := [] } ∧ t.step.Tracks [] := by
  obtain ⟨part, hholds⟩ := h.holds
  obtain ⟨hstep, rfl, hnone⟩ := hholds.step_nil
  have heq : t.step = { t with ctrl := t.ctrl.fetch, chosen := [] } := by
    rw [step, hnone]
    dsimp only
    rw [hstep]
  have hlast := t.ctrl.samePlanner_step.lastRate
  rw [hstep] at hlast
  rw [heq]
  exact ⟨rfl, ⟨⟨[], hholds.fetch.1⟩, h.entries, fun e he => hlast.trans (h.last e he),
    fun hne => absurd hnone hne, fun hne => absurd hnone hne⟩⟩

/-- The interrupt works on the first block, and gives it up at its end. -/
structure Works (t : Traced) (block : PulseGen.Block) (rest : List PulseGen.Block) : Prop where
  advances : ∃ part, t.ctrl.Advances block rest part
  current : t.step.block = block
  chosen : t.step.chosen =
    t.ctrl.fetch.moved block :: if t.ctrl.currentBlock = none then [] else t.chosen
  steady : (t.ctrl.fetch.moved block).Steady block
  after :
    (t.ctrl.fetch.moved block).stepsCompleted.toNat = block.steps.toNat ∧
        t.step.entries = t.entries.tail ∧ t.step.ctrl.currentBlock = none ∧ t.step.Tracks rest ∨
      (t.ctrl.fetch.moved block).stepsCompleted.toNat < block.steps.toNat ∧
        t.step.entries = t.entries ∧ t.step.ctrl.currentBlock ≠ none ∧
        t.step.Tracks (block :: rest)

theorem Tracks.step_cons {block : PulseGen.Block} {rest : List PulseGen.Block}
    (h : t.Tracks (block :: rest)) :
    t.Works block rest := by
  obtain ⟨part, hholds⟩ := h.holds
  have hadvances := hholds.step_cons
  obtain ⟨cell, hcell, hblock⟩ := hadvances.current
  have heq : t.step =
      { ctrl := t.ctrl.step.2
        block := block
        chosen := t.ctrl.fetch.moved block :: if t.ctrl.currentBlock = none then [] else t.chosen
        entries :=
          if (t.ctrl.fetch.moved block).stepsCompleted ≥ block.steps then t.entries.tail
          else t.entries } := by
    rw [step, hcell]
    dsimp only
    rw [hblock]
  have hsteady : (t.ctrl.fetch.moved block).Steady block := by
    by_cases hnone : t.ctrl.currentBlock = none
    · have hnominal := (fetch_of_none hholds hnone).2.2.2.1
      exact fun hne => absurd hnominal hne
    · have hsteady := h.steady hnone
      obtain ⟨pg, older, rest', helems, -, -⟩ := h.live hnone
      rw [fetch_of_some hnone]
      rw [← (List.cons.inj helems).1] at hsteady
      exact hsteady
  have hlast : t.step.ctrl.lastRate = t.ctrl.lastRate := by
    rw [heq]
    exact t.ctrl.samePlanner_step.lastRate
  refine ⟨⟨part, hadvances⟩, by rw [heq], by rw [heq], hsteady, ?_⟩
  rcases hadvances.after with ⟨hall, hafter, hrest⟩ | ⟨hmore, hafter, hrest⟩
  · have hnone : t.step.ctrl.currentBlock = none := by
      rw [heq, hafter]
      rfl
    have hentries : t.step.entries = t.entries.tail := by
      rw [heq]
      exact if_pos (BitVec.le_def.mpr hall.ge)
    refine .inl ⟨hall, hentries, hnone, ⟨?_, ?_, fun e he => hlast.trans ?_,
      fun hne => absurd hnone hne, fun hne => absurd hnone hne⟩⟩
    · rw [heq]
      exact ⟨[], hrest⟩
    · rw [hentries, List.map_tail, h.entries]
      rfl
    · rw [hentries, List.getLast?_tail] at he
      split at he
      · cases he
      · exact h.last e he
  · have hnot : ¬ (t.ctrl.fetch.moved block).stepsCompleted ≥ block.steps :=
      fun hdone => Nat.not_le.mpr hmore (BitVec.le_def.mp hdone)
    have hentries : t.step.entries = t.entries := by
      rw [heq]
      exact if_neg hnot
    refine .inr ⟨hmore, hentries, ?_, ⟨?_, ?_, fun e he => ?_, fun _ => ?_, fun _ => ?_⟩⟩
    · rw [heq, hafter, (nextTimer_frame _ block).2.1]
      show t.ctrl.fetch.currentBlock ≠ none
      rw [hcell]
      exact Option.some_ne_none cell
    · rw [heq]
      exact ⟨_, hrest⟩
    · rw [hentries]
      exact h.entries
    · rw [hentries] at he
      exact hlast.trans (h.last e he)
    · rw [heq, hafter]
      exact hsteady.nextTimer
    · rw [heq, hafter]
      exact ⟨_, _, rest, rfl, rfl, ⟨rfl, rfl, rfl, rfl, rfl⟩⟩

theorem Tracks.planMoveTo (h : t.Tracks elems) (target feedRate endRate : BitVec 32) :
    (t.perform (.planMoveTo target feedRate endRate)).1.Tracks
      (elems ++ t.ctrl.queuedBlock floorSqrt target feedRate endRate) := by
  obtain ⟨part, hholds⟩ := h.holds
  obtain ⟨hafter, hqueues⟩ := hholds.queue floorSqrt target feedRate endRate
  obtain ⟨blocks, position, lastRate, hframe⟩ := hqueues.frame
  refine ⟨⟨part, hafter⟩, ?_, ?_, ?_, ?_⟩
  · show (t.entries ++ List.map _ _).map Prod.fst = _
    rw [List.map_append, h.entries, List.map_map]
    exact congrArg (elems ++ ·) (List.map_id _)
  · show ∀ e, (t.entries ++ (t.ctrl.queuedBlock floorSqrt target feedRate endRate).map
      fun b => (b, t.ctrl.lastRate)).getLast? = some e →
      (t.ctrl.planMoveTo floorSqrt target feedRate endRate).2.lastRate = e.1.finalRate
    rw [hqueues.lastRate, queuedBlock]
    split
    · rw [List.map_nil, List.append_nil]
      exact h.last
    · split
      · rw [List.map_nil, List.append_nil]
        exact h.last
      · intro e he
        rw [List.map_singleton, List.getLast?_concat] at he
        rw [← Option.some.inj he]
        rfl
  · show (t.ctrl.planMoveTo floorSqrt target feedRate endRate).2.currentBlock ≠ none →
      (t.ctrl.planMoveTo floorSqrt target feedRate endRate).2.Steady t.block
    rw [hframe]
    exact h.steady
  · show (t.ctrl.planMoveTo floorSqrt target feedRate endRate).2.currentBlock ≠ none →
      ∃ pg older rest, _ = t.block :: rest ∧ t.chosen = pg :: older ∧
        Resumes (t.ctrl.planMoveTo floorSqrt target feedRate endRate).2 _
    rw [hframe]
    intro hne
    obtain ⟨pg, older, rest, helems, hchosen, hresumes⟩ := h.live hne
    rw [helems]
    exact ⟨pg, older, rest ++ _, List.cons_append, hchosen, ⟨hresumes.stepsCompleted,
      hresumes.accelerationTime, hresumes.decelerationTime, hresumes.accStepRate,
      hresumes.stepLoops⟩⟩

theorem Tracks.abortPlannedMoves (h : t.Tracks elems) (halt : Bool) :
    (t.perform (.abortPlannedMoves halt)).1.Tracks [] := by
  obtain ⟨part, hholds⟩ := h.holds
  have hnone := t.ctrl.currentBlock_abort halt
  have hqueues : (t.ctrl.abortPlannedMoves halt).blocks.Queues [] := by
    unfold PulseGen.abortPlannedMoves
    cases t.ctrl.currentBlock <;> cases halt <;> exact hholds.queues.reset
  exact ⟨⟨[], hqueues, nofun, .resting hnone⟩, rfl,
    fun e he => absurd he.symm (Option.some_ne_none e), fun hne => absurd hnone hne, fun hne => absurd hnone hne⟩

theorem Tracks.setPosition (h : t.Tracks elems) (x : BitVec 32) :
    (t.perform (.setPosition x)).1.Tracks elems := by
  obtain ⟨part, hholds⟩ := h.holds
  refine ⟨⟨part, hholds.queues, hholds.positive, ?_⟩, h.entries, h.last, h.steady,
    fun hne => ?_⟩
  · cases hholds.busy with
    | resting hnone => exact .resting hnone
    | moving hcurrent hcell hdir hloops hleft =>
        exact .moving hcurrent hcell hdir hloops hleft
  · obtain ⟨pg, older, rest, helems, hchosen, hresumes⟩ := h.live hne
    exact ⟨pg, older, rest, helems, hchosen, ⟨hresumes.stepsCompleted,
      hresumes.accelerationTime, hresumes.decelerationTime, hresumes.accStepRate,
      hresumes.stepLoops⟩⟩

theorem Tracks.step (h : t.Tracks elems) : ∃ elems', (t.perform .step).1.Tracks elems' := by
  cases elems with
  | nil => exact ⟨[], h.step_nil.2⟩
  | cons block rest =>
      rcases h.step_cons.after with ⟨-, -, -, hrest⟩ | ⟨-, -, -, hrest⟩
      · exact ⟨rest, hrest⟩
      · exact ⟨block :: rest, hrest⟩

theorem Tracks.perform (h : t.Tracks elems) (op : Op) :
    ∃ elems', (t.perform op).1.Tracks elems' := by
  cases op with
  | step => exact h.step
  | planMoveTo target feedRate endRate => exact ⟨_, h.planMoveTo target feedRate endRate⟩
  | abortPlannedMoves halt => exact ⟨[], h.abortPlannedMoves halt⟩
  | setPosition x => exact ⟨elems, h.setPosition x⟩

/-! Along the ramp. -/

/-- The intervals of a block have been chosen one after the other, from operands that fit. -/
structure Ramped (t : Traced) (elems : List PulseGen.Block) : Prop where
  tracks : t.Tracks elems
  acceleration : t.ctrl.acceleration.toNat ≤ 400000000
  bounded : ∀ b ∈ elems, b.Bounded
  current : t.chosen ≠ [] → t.block.Bounded
  chosen : ∀ pg ∈ t.chosen, pg.Fits t.block ∧ pg.accStepRate.toNat ≤ t.block.nominalRate.toNat
  sorted : t.chosen.Pairwise fun pg older => Later t.block older pg
  live : t.ctrl.currentBlock ≠ none → t.ctrl.accStepRate.toNat ≤ t.block.nominalRate.toNat ∧
    ∀ pg ∈ t.chosen, Later t.block pg t.ctrl

/-- The operands of the next interval fit. -/
def NextFits (t : Traced) : Prop :=
  match t.ctrl.fetch.currentBlock with
  | none => True
  | some cell =>
      (t.ctrl.fetch.moved (t.ctrl.fetch.blocks.data.get cell)).Fits
        (t.ctrl.fetch.blocks.data.get cell)

instance (t : Traced) : Decidable t.NextFits :=
  match h : t.ctrl.fetch.currentBlock with
  | none => .isTrue (by rw [NextFits, h]; trivial)
  | some cell =>
      decidable_of_iff ((t.ctrl.fetch.moved (t.ctrl.fetch.blocks.data.get cell)).Fits
        (t.ctrl.fetch.blocks.data.get cell)) (by rw [NextFits, h])

theorem Ramped.step_cons {block : PulseGen.Block} {rest : List PulseGen.Block}
    (h : t.Ramped (block :: rest))
    (hfits : t.NextFits) : ∃ elems', t.step.Ramped elems' := by
  have hworks := h.tracks.step_cons
  obtain ⟨part, hadvances⟩ := hworks.advances
  obtain ⟨cell, hcell, hblock⟩ := hadvances.current
  have hbounded := h.bounded block List.mem_cons_self
  have hrest : ∀ b ∈ rest, b.Bounded := fun b hb => h.bounded b (List.mem_cons_of_mem block hb)
  have hfits : (t.ctrl.fetch.moved block).Fits block := by
    rw [NextFits, hcell] at hfits
    dsimp only at hfits
    rw [hblock] at hfits
    exact hfits
  have hacc : t.step.ctrl.acceleration.toNat ≤ 400000000 := by
    have hsame : t.step.ctrl.acceleration = t.ctrl.acceleration :=
      (congrArg PulseGen.acceleration (t.ctrl_perform .step)).trans
        (t.ctrl.limits_perform floorSqrt .step).1
    rw [hsame]
    exact h.acceleration
  -- the generator as it chooses the interval, after all intervals of the block before
  have hstart : (t.ctrl.fetch.moved block).accStepRate.toNat ≤ block.nominalRate.toNat ∧
      ∀ pg ∈ (if t.ctrl.currentBlock = none then [] else t.chosen),
        pg.Fits block ∧ pg.accStepRate.toNat ≤ block.nominalRate.toNat ∧
          Later block pg (t.ctrl.fetch.moved block) := by
    obtain ⟨part, hholds⟩ := h.tracks.holds
    by_cases hnone : t.ctrl.currentBlock = none
    · have hinitial := (fetch_of_none hholds hnone).2.2.1
      rw [if_pos hnone]
      refine ⟨?_, nofun⟩
      show t.ctrl.fetch.accStepRate.toNat ≤ _
      rw [hinitial, hbounded.toNat_setWidth hbounded.initial]
      exact hbounded.initial
    · obtain ⟨pg, older, rest', helems, -, -⟩ := h.tracks.live hnone
      obtain ⟨rfl, rfl⟩ := List.cons.inj helems
      obtain ⟨hrate, hlater⟩ := h.live hnone
      have hprogress := hadvances.progress
      rw [fetch_of_some hnone] at hprogress ⊢
      rw [if_neg hnone]
      refine ⟨hrate, fun pg hpg => ⟨(h.chosen pg hpg).1, (h.chosen pg hpg).2, ?_⟩⟩
      refine (hlater pg hpg).trans ⟨hprogress.le, Nat.le_refl _, Nat.le_refl _, fun _ => rfl⟩
  have hsorted : (t.ctrl.fetch.moved block ::
      if t.ctrl.currentBlock = none then [] else t.chosen).Pairwise
        fun pg older => Later block older pg := by
    refine List.pairwise_cons.mpr ⟨fun pg hpg => (hstart.2 pg hpg).2.2, ?_⟩
    split
    · exact .nil
    · next hne =>
      obtain ⟨pg, older, rest', helems, -, -⟩ := h.tracks.live hne
      obtain ⟨rfl, rfl⟩ := List.cons.inj helems
      exact h.sorted
  have hchosen : ∀ pg ∈ t.ctrl.fetch.moved block ::
      (if t.ctrl.currentBlock = none then [] else t.chosen),
      pg.Fits block ∧ pg.accStepRate.toNat ≤ block.nominalRate.toNat := by
    intro pg hpg
    rcases List.mem_cons.mp hpg with rfl | hpg
    · exact ⟨hfits, hstart.1⟩
    · exact ⟨(hstart.2 pg hpg).1, (hstart.2 pg hpg).2.1⟩
  rw [← hworks.chosen, ← hworks.current] at hsorted hchosen
  have hcurrent : t.step.chosen ≠ [] → t.step.block.Bounded := by
    rw [hworks.current]
    exact fun _ => hbounded
  rcases hworks.after with ⟨-, -, hnone, htracks⟩ | ⟨hmore, -, -, htracks⟩
  · exact ⟨rest, htracks, hacc, hrest, hcurrent, hchosen, hsorted, fun hne => absurd hnone hne⟩
  · refine ⟨block :: rest, htracks, hacc, h.bounded, hcurrent, hchosen, hsorted, fun _ => ?_⟩
    have hctrl : t.step.ctrl = ((t.ctrl.fetch.moved block).nextTimer block).2 := by
      refine (t.ctrl_perform .step).trans ?_
      rcases hadvances.after with ⟨hall, -, -⟩ | ⟨-, hafter, -⟩
      · omega
      · exact hafter
    have hlater := later_nextTimer hworks.steady hfits
    rw [hworks.current, hctrl, hworks.chosen]
    refine ⟨accStepRate_nextTimer hbounded hworks.steady hstart.1, fun pg hpg => ?_⟩
    rcases List.mem_cons.mp hpg with rfl | hpg
    · exact hlater
    · exact (hstart.2 pg hpg).2.2.trans hlater

/-- The feed rate of a planned move is within what the interrupt can do. -/
def FeedWithin : Op → Prop
  | .planMoveTo _ feedRate _ => feedRate.toNat ≤ Config.maxStepFrequency.toNat
  | _ => True

theorem Ramped.perform (h : t.Ramped elems) (op : Op) (hfeed : FeedWithin op)
    (hfits : op = .step → t.NextFits) : ∃ elems', (t.perform op).1.Ramped elems' := by
  have hacc : (t.perform op).1.ctrl.acceleration.toNat ≤ 400000000 := by
    have hsame := t.ctrl.limits_perform floorSqrt op
    rw [ctrl_perform, hsame.1]
    exact h.acceleration
  cases op with
  | step =>
      cases elems with
      | nil =>
          obtain ⟨heq, htracks⟩ := h.tracks.step_nil
          obtain ⟨part, hholds⟩ := h.tracks.holds
          have hnone := hholds.step_nil.2.2
          refine ⟨[], htracks, hacc, nofun, ?_, ?_, ?_, ?_⟩
          all_goals rw [show (t.perform .step).1 = _ from heq]
          · exact fun hne => absurd rfl hne
          · exact nofun
          · exact .nil
          · exact fun hne => absurd hnone hne
      | cons block rest => exact h.step_cons (hfits rfl)
  | planMoveTo target feedRate endRate =>
      obtain ⟨part, hholds⟩ := h.tracks.holds
      obtain ⟨blocks, position, lastRate, hframe⟩ :=
        (hholds.queue floorSqrt target feedRate endRate).2.frame
      refine ⟨_, h.tracks.planMoveTo target feedRate endRate, hacc, ?_, h.current, h.chosen,
        h.sorted, ?_⟩
      · intro b hb
        rcases List.mem_append.mp hb with hold | hnew
        · exact h.bounded b hold
        · rw [mem_queuedBlock hnew]
          exact bounded_planBlock h.acceleration hfeed
      · show (t.ctrl.planMoveTo floorSqrt target feedRate endRate).2.currentBlock ≠ none →
          (t.ctrl.planMoveTo floorSqrt target feedRate endRate).2.accStepRate.toNat ≤ _ ∧
            ∀ pg ∈ t.chosen,
              Later t.block pg (t.ctrl.planMoveTo floorSqrt target feedRate endRate).2
        rw [hframe]
        intro hne
        obtain ⟨hrate, hlater⟩ := h.live hne
        exact ⟨hrate, fun pg hpg => ⟨(hlater pg hpg).stepsCompleted,
          (hlater pg hpg).accelerationTime, (hlater pg hpg).decelerationTime,
          (hlater pg hpg).accStepRate⟩⟩
  | abortPlannedMoves halt =>
      have hnone := t.ctrl.currentBlock_abort halt
      have hsub : (t.perform (.abortPlannedMoves halt)).1.chosen.Sublist t.chosen := by
        show (if halt then [] else t.chosen).Sublist t.chosen
        cases halt
        · exact .refl _
        · exact List.nil_sublist _
      refine ⟨[], h.tracks.abortPlannedMoves halt, hacc, nofun, fun hne => ?_,
        fun pg hpg => h.chosen pg (hsub.subset hpg), h.sorted.sublist hsub,
        fun hne => absurd hnone hne⟩
      exact h.current fun hnil => hne (List.sublist_nil.mp (hnil ▸ hsub))
  | setPosition x =>
      refine ⟨elems, h.tracks.setPosition x, hacc, h.bounded, h.current, h.chosen, h.sorted,
        fun hne => ?_⟩
      obtain ⟨hrate, hlater⟩ := h.live hne
      exact ⟨hrate, fun pg hpg => ⟨(hlater pg hpg).stepsCompleted,
        (hlater pg hpg).accelerationTime, (hlater pg hpg).decelerationTime,
        (hlater pg hpg).accStepRate⟩⟩

theorem ramped_start (memory : PulseGen) (position : BitVec 32)
    (hacc : memory.acceleration.toNat ≤ 400000000) : (start memory position).Ramped [] :=
  ⟨tracks_start memory position, hacc, nofun, fun hne => absurd rfl hne, nofun, .nil,
    fun hne => absurd rfl hne⟩

/-- The intervals of the current block follow its ramp: the rate does not fall while it
accelerates, is the nominal one while it cruises, and does not rise while it brakes. -/
def FollowsRamp (t : Traced) : Prop :=
  t.chosen.Pairwise (fun pg older =>
      (older.phase t.block = .accelerating → pg.phase t.block = .accelerating →
        older.stepRate t.block ≤ pg.stepRate t.block) ∧
      (older.phase t.block = .decelerating →
        pg.phase t.block = .decelerating ∧ pg.stepRate t.block ≤ older.stepRate t.block)) ∧
    ∀ pg ∈ t.chosen, WithinRamp t.block pg

theorem Ramped.followsRamp (h : t.Ramped elems) : t.FollowsRamp := by
  have hbounded : ∀ pg ∈ t.chosen, t.block.Bounded :=
    fun pg hpg => h.current (List.ne_nil_of_mem hpg)
  refine ⟨h.sorted.imp_of_mem fun {pg older} hpg holder hlater => ⟨fun hphase hphase' => ?_,
    fun hphase => ⟨hlater.phase_decelerating hphase, ?_⟩⟩, fun pg hpg => ?_⟩
  · exact BitVec.le_def.mpr (hlater.accelerating (hbounded pg hpg) hphase hphase'
      (h.chosen older holder).1 (h.chosen pg hpg).1)
  · exact BitVec.le_def.mpr (hlater.decelerating (hbounded pg hpg) hphase
      (h.chosen older holder).1 (h.chosen pg hpg).1)
  · exact withinRamp (hbounded pg hpg) (h.chosen pg hpg).1 (h.chosen pg hpg).2

/-- The interval to the next interrupt is that of the step rate. -/
theorem Tracks.timer (h : t.Tracks elems) (hbusy : t.ctrl.queueEmpty = false) :
    t.ctrl.step.1.timer = (calcTimer t.step.rate).1 := by
  obtain ⟨part, hholds⟩ := h.holds
  cases elems with
  | nil =>
      have hempty : t.ctrl.queueEmpty = true := hholds.queues.empty_iff.mpr rfl
      rw [hempty] at hbusy
      cases hbusy
  | cons block rest =>
      have hworks := h.step_cons
      obtain ⟨part, hadvances⟩ := hworks.advances
      rw [hadvances.timer, timer_eq hworks.steady, rate, hworks.chosen, hworks.current]

theorem tracks_run (memory : PulseGen) (position : BitVec 32) (ops : List Op) :
    ∃ elems, (Transducer.run perform (start memory position) ops).Tracks elems :=
  Transducer.run_invariant perform (fun t _ => ∃ elems, t.Tracks elems) _
    ⟨[], tracks_start memory position⟩ (fun _ _ op ⟨_, h⟩ => h.perform op) ops

/-- Every interval is that of the step rate, and as long as the operands of the products in the
interrupt fit, the step rates of every block follow its ramp. -/
theorem step_rates_follow_ramp (memory : PulseGen) (position : BitVec 32) (ops : List Op)
    (hacc : memory.acceleration.toNat ≤ 65535 * 200) (hfeed : ∀ op ∈ ops, FeedWithin op)
    (hfits : ∀ p ∈ Transducer.steps perform (start memory position) ops,
      p.2 = .step → p.1.NextFits) :
    (∀ p ∈ Transducer.steps perform (start memory position) ops, p.2 = .step →
      p.1.ctrl.queueEmpty = false → p.1.ctrl.step.1.timer = (calcTimer p.1.step.rate).1) ∧
      (Transducer.run perform (start memory position) ops).FollowsRamp := by
  have hstart := ramped_start memory position (hacc.trans (by decide))
  have hguarantee := Transducer.steps_guarantee perform (fun t => ∃ elems, t.Ramped elems)
    (fun t op => FeedWithin op ∧ (op = .step → t.NextFits)) (fun _ _ => True)
    (fun t op ⟨_, h⟩ hop => ⟨h.perform op hop.1 hop.2, trivial⟩) _ ⟨[], hstart⟩ ops
    (fun p hp => ⟨hfeed p.2 (Transducer.snd_mem_of_mem_steps perform hp), hfits p hp⟩)
  obtain ⟨elems, hramped⟩ := hguarantee.1
  refine ⟨fun p hp _ hbusy => ?_, hramped.followsRamp⟩
  obtain ⟨elems, hramped⟩ := (hguarantee.2 p hp).1
  exact hramped.tracks.timer hbusy

theorem step_rates_follow_ramp_short :
    (Transducer.run perform (start { maxJerk := 100, acceleration := 800 } 0)
      [.planMoveTo 3 10000 0, .step, .step, .step]).FollowsRamp :=
  (step_rates_follow_ramp { maxJerk := 100, acceleration := 800 } 0
    [.planMoveTo 3 10000 0, .step, .step, .step] (by decide)
    (by simp [FeedWithin, Config.maxStepFrequency]) (by decide +kernel)).2

/-! A ramp so slow that its time outgrows three bytes. -/

section Slow

def slowAxis : PulseGen := { maxJerk := 100, acceleration := 8 }

def slowBlock : PulseGen.Block :=
  (PulseGen.start slowAxis 0).planBlock floorSqrt 1000000000 40000 0

/-- The long move is planned and the axis stepped. -/
def slowRun (n : Nat) : Traced :=
  Transducer.run perform (start slowAxis 0)
    (.planMoveTo 1000000000 40000 0 :: List.replicate n .step)

theorem slowRun_succ (n : Nat) : slowRun (n + 1) = (slowRun n).step := by
  rw [slowRun, List.replicate_succ', ← List.cons_append, Transducer.run_append]
  rfl

/-- After so many interrupts; the generator when the latest interval was chosen. -/
structure Slow (n : Nat) (t : Traced) (pg : PulseGen) : Prop where
  tracks : t.Tracks [slowBlock]
  live : t.ctrl.currentBlock ≠ none
  latest : ∃ older, t.chosen = pg :: older
  completed : pg.stepsCompleted.toNat ≤ 4 * n

theorem stepMotor_le (steps : BitVec 32) (loops : Nat) (completed : BitVec 32) :
    (stepMotor steps loops completed).2.toNat ≤ completed.toNat + loops := by
  induction loops generalizing completed with
  | zero => exact Nat.le_refl _
  | succ loops ih =>
      have hnext : (completed + 1).toNat ≤ completed.toNat + 1 := by
        rw [BitVec.toNat_add]
        exact Nat.mod_le _ _
      rw [stepMotor]
      dsimp only
      split
      · dsimp only
        omega
      · have hrest := ih (completed + 1)
        dsimp only
        omega

theorem slowBlock_accelerates {pg : PulseGen} {n : Nat} (hn : n ≤ 200000)
    (h : pg.stepsCompleted.toNat ≤ 4 * n) : pg.phase slowBlock = .accelerating := by
  have huntil : 1000000 ≤ slowBlock.accelerateUntil.toNat := by decide +kernel
  rw [phase_eq_accelerating_iff]
  omega

/-- The interrupt goes on with the block. -/
theorem slow_step {t : Traced} {n : Nat} (htracks : t.Tracks [slowBlock]) (hn : n ≤ 200000)
    (hcompleted : (t.ctrl.fetch.moved slowBlock).stepsCompleted.toNat ≤ 4 * n) :
    Slow n t.step (t.ctrl.fetch.moved slowBlock) := by
  have hworks := htracks.step_cons
  have hsteps : 1000000 ≤ slowBlock.steps.toNat := by decide +kernel
  rcases hworks.after with ⟨hall, -, -, -⟩ | ⟨-, -, hlive, htracks'⟩
  · omega
  · exact ⟨htracks', hlive, ⟨_, hworks.chosen⟩, hcompleted⟩

theorem slow_one : ∃ pg, Slow 1 (slowRun 1) pg ∧ pg.accelerationTime.toNat < 2 ^ 24 := by
  have hplanned := (tracks_start slowAxis 0).planMoveTo 1000000000 40000 0
  have hqueued : (start slowAxis 0).ctrl.queuedBlock floorSqrt 1000000000 40000 0 =
      [slowBlock] := by
    rw [queuedBlock, if_neg (by decide), if_neg (by decide)]
    rfl
  rw [hqueued, List.nil_append] at hplanned
  obtain ⟨part, hholds⟩ := hplanned.holds
  have hfetched := fetch_of_none hholds rfl
  have hzero : slowRun 0 = ((start slowAxis 0).perform (.planMoveTo 1000000000 40000 0)).1 := rfl
  rw [slowRun_succ, hzero]
  refine ⟨_, slow_step hplanned (by decide) ?_, ?_⟩
  · refine (stepMotor_le _ _ _).trans ?_
    rw [hfetched.1]
    exact (Nat.zero_add _).trans_le hfetched.2.2.2.2
  · decide +kernel

/-- One interrupt further the time is longer by an interval. -/
theorem slow_succ {t : Traced} {pg : PulseGen} {n : Nat} (h : Slow n t pg) (hn : n < 200000) :
    ∃ pg', Slow (n + 1) t.step pg' ∧ (∃ older, t.step.chosen = pg' :: pg :: older) ∧
      pg'.accelerationTime =
        pg.accelerationTime + (calcTimer (pg.stepRate slowBlock)).1.setWidth 32 := by
  obtain ⟨older, hlatest⟩ := h.latest
  obtain ⟨pg', older', rest, hblock, hchosen, hresumes⟩ := h.tracks.live h.live
  obtain ⟨hblock, -⟩ := List.cons.inj hblock
  rw [hlatest] at hchosen
  obtain ⟨rfl, rfl⟩ := List.cons.inj hchosen
  have hphase := slowBlock_accelerates (by omega) h.completed
  rw [← hblock, nextTimer_accelerating hphase] at hresumes
  have hfetch := fetch_of_some h.live
  refine ⟨t.ctrl.fetch.moved slowBlock, slow_step h.tracks (by omega) ?_, ⟨older, ?_⟩, ?_⟩
  · refine (stepMotor_le _ _ _).trans ?_
    rw [hfetch, hresumes.stepsCompleted, hresumes.stepLoops]
    have hloops := calcTimer_loops_le (pg.stepRate slowBlock)
    have hcompleted := h.completed
    dsimp only
    omega
  · rw [h.tracks.step_cons.chosen, if_neg h.live, hlatest]
  · rw [hfetch]
    exact hresumes.accelerationTime

/-- The run passes the three bytes. -/
theorem slow_passes : ∃ n t pg pg', Slow n t pg ∧ n < 200000 ∧ t = slowRun n ∧
    pg.accelerationTime.toNat < 2 ^ 24 ∧ Slow (n + 1) t.step pg' ∧
    (∃ older, t.step.chosen = pg' :: pg :: older) ∧ 2 ^ 24 ≤ pg'.accelerationTime.toNat ∧
    pg'.accelerationTime.toNat ≤ pg.accelerationTime.toNat + maxInterval := by
  by_contra hnot
  have hbelow : ∀ n, 1 ≤ n → n ≤ 200000 → ∃ pg, Slow n (slowRun n) pg ∧
      pg.accelerationTime.toNat < 2 ^ 24 ∧ 100 * (n - 1) ≤ pg.accelerationTime.toNat := by
    intro n hpos
    induction n, hpos using Nat.le_induction with
    | base =>
        obtain ⟨pg, hslow, htime⟩ := slow_one
        exact fun _ => ⟨pg, hslow, htime, Nat.zero_le _⟩
    | succ n hpos ih =>
        intro hn
        obtain ⟨pg, hslow, htime, hgrown⟩ := ih (by omega)
        obtain ⟨pg', hslow', hlatest, hnext⟩ := slow_succ hslow (by omega)
        obtain ⟨hlow, hhigh⟩ := calcTimer_bounds (pg.stepRate slowBlock)
        have hwide : ((calcTimer (pg.stepRate slowBlock)).1.setWidth 32).toNat =
            (calcTimer (pg.stepRate slowBlock)).1.toNat := by
          rw [BitVec.toNat_setWidth, Nat.mod_eq_of_lt (by rw [maxInterval] at hhigh; omega)]
        have hsum : pg'.accelerationTime.toNat =
            pg.accelerationTime.toNat + (calcTimer (pg.stepRate slowBlock)).1.toNat := by
          rw [hnext, BitVec.toNat_add_of_lt (by rw [hwide, maxInterval] at *; omega), hwide]
        rw [slowRun_succ]
        refine ⟨pg', hslow', ?_, by omega⟩
        by_contra hlong
        exact hnot ⟨n, slowRun n, pg, pg', hslow, by omega, rfl, htime, hslow', hlatest,
          Nat.le_of_not_lt hlong, by omega⟩
  obtain ⟨pg, -, htime, hgrown⟩ := hbelow 200000 (by decide) (Nat.le_refl _)
  omega

theorem slow_rate {pg : PulseGen} {n : Nat} (h : pg.stepsCompleted.toNat ≤ 4 * n)
    (hn : n ≤ 200000) :
    (pg.stepRate slowBlock).toNat = 120 + wideProduct (pg.accelerationTime.toNat % 2 ^ 24) 67 := by
  have hphase := slowBlock_accelerates hn h
  have hrate : (slowBlock.accelerationRate.toNat % 2 ^ 24) = 67 := by decide +kernel
  have hinitial : slowBlock.initialRate.setWidth 16 = 120 := by decide +kernel
  have hnominal : slowBlock.nominalRate.setWidth 16 = 40000 := by decide +kernel
  have htime := Nat.mod_lt pg.accelerationTime.toNat (by decide : 0 < 2 ^ 24)
  have hmul := toNat_mulU24X24toH16 pg.accelerationTime slowBlock.accelerationRate
  have hwide : wideProduct (pg.accelerationTime.toNat % 2 ^ 24) 67 ≤ 67 := by
    rw [wideProduct]
    simp only [Nat.reduceDiv, Nat.reduceMod, Nat.zero_mul, Nat.zero_div, Nat.zero_add]
    omega
  rw [hrate, Nat.mod_eq_of_lt (by omega)] at hmul
  have hsum : (mulU24X24toH16 pg.accelerationTime slowBlock.accelerationRate + 120).toNat =
      120 + wideProduct (pg.accelerationTime.toNat % 2 ^ 24) 67 := by
    have hlt : wideProduct (pg.accelerationTime.toNat % 2 ^ 24) 67 + 120 < 2 ^ 16 :=
      (Nat.add_le_add_right hwide _).trans_lt (by decide)
    rw [BitVec.toNat_add_of_lt (by rw [hmul]; exact hlt), hmul]
    exact Nat.add_comm _ _
  rw [stepRate, hphase]
  dsimp only
  rw [acceleratedRate, hinitial, hnominal, if_neg, hsum]
  rw [gt_iff_lt, BitVec.lt_def, hsum, not_lt]
  exact (Nat.add_le_add_left hwide 120).trans (by decide)

/-- Once its time has outgrown three bytes the acceleration starts again from the initial rate. -/
theorem ramp_not_followed :
    ¬ ∀ (memory : PulseGen) (position : BitVec 32) (ops : List Op),
      memory.acceleration.toNat ≤ 65535 * 200 → (∀ op ∈ ops, FeedWithin op) →
        (Transducer.run perform (start memory position) ops).FollowsRamp := by
  intro h
  obtain ⟨n, t, pg, pg', hslow, hn, rfl, htime, hslow', ⟨older, hlatest⟩, hover, hinterval⟩ :=
    slow_passes
  have hfeed : ∀ op ∈ Op.planMoveTo 1000000000 40000 0 :: List.replicate (n + 1) Op.step,
      FeedWithin op := by
    intro op hop
    rcases List.mem_cons.mp hop with rfl | hstep
    · exact Nat.le_refl _
    · rw [List.eq_of_mem_replicate hstep]
      trivial
  have hfollows : (slowRun (n + 1)).FollowsRamp := h slowAxis 0 _ (by decide) hfeed
  obtain ⟨pg'', older'', rest, hblock, -, -⟩ := hslow'.tracks.live hslow'.live
  obtain ⟨hblock, -⟩ := List.cons.inj hblock
  rw [slowRun_succ] at hfollows
  have hpairs := hfollows.1
  rw [hlatest, ← hblock] at hpairs
  have hrises := ((List.pairwise_cons.mp hpairs).1 pg List.mem_cons_self).1
    (slowBlock_accelerates (by omega) hslow.completed)
    (slowBlock_accelerates (by omega) hslow'.completed)
  rw [BitVec.le_def, slow_rate hslow.completed (by omega), slow_rate hslow'.completed (by omega),
    wideProduct, wideProduct] at hrises
  simp only [Nat.reduceDiv, Nat.reduceMod, Nat.zero_mul, Nat.zero_div, Nat.zero_add] at hrises
  rw [maxInterval] at hinterval
  omega

end Slow

end Traced
end MmuFirmware
