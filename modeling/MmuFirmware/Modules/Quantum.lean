import MmuFirmware.Modules.StepTraces

/-!
How close two stepping interrupts come. The next one belongs to the axis with the shortest rest.
An axis that waits has more than a quantum left, but the rest of one that was stepped is its old
rest and the interval of its rate, which for a fast axis is shorter than a quantum.
-/
namespace MmuFirmware

namespace PulseGen

variable {pg : PulseGen} {block : PulseGen.Block}

/-- The rate of the interval that the next interrupt chooses. -/
def upcomingRate (pg : PulseGen) : BitVec 16 :=
  match pg.fetch.currentBlock with
  | none => 0
  | some cell =>
      (pg.fetch.moved (pg.fetch.blocks.data.get cell)).stepRate (pg.fetch.blocks.data.get cell)

/-- Whatever the interrupt makes of the products, no rate is above the nominal one. -/
theorem stepRate_le (hbounded : block.Bounded)
    (hstart : pg.accStepRate.toNat ≤ block.nominalRate.toNat) :
    (pg.stepRate block).toNat ≤ block.nominalRate.toNat := by
  have hnominal := hbounded.toNat_setWidth (Nat.le_refl _)
  have hfinal := hbounded.toNat_setWidth hbounded.final
  have hle := hbounded.final
  cases hphase : pg.phase block with
  | accelerating =>
      rw [stepRate, hphase]
      dsimp only
      rw [acceleratedRate]
      simp only [gt_iff_lt, BitVec.lt_def]
      split <;> omega
  | cruising =>
      rw [stepRate, hphase]
      exact hnominal.le
  | decelerating =>
      rw [stepRate, hphase]
      dsimp only
      rw [deceleratedRate]
      simp only [gt_iff_lt, BitVec.lt_def]
      split
      · omega
      · next hchange =>
        have hsub := BitVec.toNat_sub_of_le (BitVec.le_def.mpr (Nat.not_lt.mp hchange))
        split <;> omega

end PulseGen

namespace Traced

open PulseGen

variable {t : Traced} {elems : List PulseGen.Block}

theorem rate_step (t : Traced) : t.step.rate = t.ctrl.upcomingRate := by
  cases hcell : t.ctrl.fetch.currentBlock with
  | none =>
      simp only [step, upcomingRate, hcell]
      rfl
  | some cell =>
      simp only [step, upcomingRate, hcell]
      rfl

/-- All blocks are to run at a feed rate up to a given one, and so does the current one. -/
structure Gentle (t : Traced) (feedRate : Nat) (elems : List PulseGen.Block) : Prop where
  tracks : t.Tracks elems
  acceleration : t.ctrl.acceleration.toNat ≤ 400000000
  bounded : ∀ b ∈ elems, b.Bounded
  slow : ∀ b ∈ elems, b.nominalRate.toNat ≤ feedRate
  live : t.ctrl.currentBlock ≠ none → t.ctrl.accStepRate.toNat ≤ t.block.nominalRate.toNat

variable {feedRate : Nat}

/-- The rate with which the interrupt goes on with the first block. -/
theorem Gentle.accStepRate_moved {block : PulseGen.Block} {rest : List PulseGen.Block}
    (h : t.Gentle feedRate (block :: rest)) :
    (t.ctrl.fetch.moved block).accStepRate.toNat ≤ block.nominalRate.toNat := by
  obtain ⟨part, hholds⟩ := h.tracks.holds
  have hbounded := h.bounded block List.mem_cons_self
  show t.ctrl.fetch.accStepRate.toNat ≤ _
  by_cases hnone : t.ctrl.currentBlock = none
  · rw [(fetch_of_none hholds hnone).2.2.1, hbounded.toNat_setWidth hbounded.initial]
    exact hbounded.initial
  · obtain ⟨pg, older, rest', helems, -, -⟩ := h.tracks.live hnone
    rw [fetch_of_some hnone, (List.cons.inj helems).1]
    exact h.live hnone

theorem Gentle.upcomingRate_le (h : t.Gentle feedRate elems) :
    t.ctrl.upcomingRate.toNat ≤ feedRate := by
  cases elems with
  | nil =>
      obtain ⟨part, hholds⟩ := h.tracks.holds
      rw [upcomingRate, hholds.step_nil.2.2]
      exact Nat.zero_le _
  | cons block rest =>
      have hworks := h.tracks.step_cons
      obtain ⟨part, hadvances⟩ := hworks.advances
      obtain ⟨cell, hcell, hblock⟩ := hadvances.current
      rw [upcomingRate, hcell]
      dsimp only
      rw [hblock]
      exact (stepRate_le (h.bounded block List.mem_cons_self) h.accStepRate_moved).trans
        (h.slow block List.mem_cons_self)

theorem Gentle.step (h : t.Gentle feedRate elems) : ∃ elems', t.step.Gentle feedRate elems' := by
  have hacc : t.step.ctrl.acceleration.toNat ≤ 400000000 := by
    have hsame : t.step.ctrl.acceleration = t.ctrl.acceleration :=
      (congrArg PulseGen.acceleration (t.ctrl_perform .step)).trans
        (t.ctrl.limits_perform floorSqrt .step).1
    rw [hsame]
    exact h.acceleration
  cases elems with
  | nil =>
      obtain ⟨heq, htracks⟩ := h.tracks.step_nil
      obtain ⟨part, hholds⟩ := h.tracks.holds
      have hnone := hholds.step_nil.2.2
      refine ⟨[], htracks, hacc, nofun, nofun, fun hne => ?_⟩
      rw [heq] at hne
      exact absurd hnone hne
  | cons block rest =>
      have hworks := h.tracks.step_cons
      obtain ⟨part, hadvances⟩ := hworks.advances
      rcases hworks.after with ⟨-, -, hnone, htracks⟩ | ⟨hmore, -, -, htracks⟩
      · exact ⟨rest, htracks, hacc, fun b hb => h.bounded b (List.mem_cons_of_mem block hb),
          fun b hb => h.slow b (List.mem_cons_of_mem block hb), fun hne => absurd hnone hne⟩
      · refine ⟨block :: rest, htracks, hacc, h.bounded, h.slow, fun _ => ?_⟩
        have hctrl : t.step.ctrl = ((t.ctrl.fetch.moved block).nextTimer block).2 := by
          refine (t.ctrl_perform .step).trans ?_
          rcases hadvances.after with ⟨hall, -, -⟩ | ⟨-, hafter, -⟩
          · omega
          · exact hafter
        rw [hworks.current, hctrl]
        exact accStepRate_nextTimer (h.bounded block List.mem_cons_self) hworks.steady
          h.accStepRate_moved

/-- The feed rate of a planned move is up to a given one. -/
def FeedUpTo (feedRate : Nat) : Op → Prop
  | .planMoveTo _ rate _ => rate.toNat ≤ feedRate
  | _ => True

theorem Gentle.perform (hmax : feedRate ≤ Config.maxStepFrequency.toNat)
    (h : t.Gentle feedRate elems) (op : Op) (hfeed : FeedUpTo feedRate op) :
    ∃ elems', (t.perform op).1.Gentle feedRate elems' := by
  have hacc : (t.perform op).1.ctrl.acceleration.toNat ≤ 400000000 := by
    rw [ctrl_perform, (t.ctrl.limits_perform floorSqrt op).1]
    exact h.acceleration
  cases op with
  | step => exact h.step
  | planMoveTo target rate endRate =>
      obtain ⟨part, hholds⟩ := h.tracks.holds
      obtain ⟨blocks, position, lastRate, hframe⟩ :=
        (hholds.queue floorSqrt target rate endRate).2.frame
      have hlive : (t.perform (.planMoveTo target rate endRate)).1.ctrl =
          { t.ctrl with blocks := blocks, position := position, lastRate := lastRate } := hframe
      refine ⟨_, h.tracks.planMoveTo target rate endRate, hacc, ?_, ?_, ?_⟩
      · intro b hb
        rcases List.mem_append.mp hb with hold | hnew
        · exact h.bounded b hold
        · rw [mem_queuedBlock hnew]
          exact bounded_planBlock h.acceleration (Nat.le_trans hfeed hmax)
      · intro b hb
        rcases List.mem_append.mp hb with hold | hnew
        · exact h.slow b hold
        · rw [mem_queuedBlock hnew]
          exact hfeed
      · rw [hlive]
        exact h.live
  | abortPlannedMoves halt =>
      exact ⟨[], h.tracks.abortPlannedMoves halt, hacc, nofun, nofun,
        fun hne => absurd (t.ctrl.currentBlock_abort halt) hne⟩
  | setPosition x =>
      exact ⟨elems, h.tracks.setPosition x, hacc, h.bounded, h.slow, h.live⟩

theorem gentle_start (memory : PulseGen) (position : BitVec 32)
    (hacc : memory.acceleration.toNat ≤ 400000000) :
    (start memory position).Gentle feedRate [] :=
  ⟨tracks_start memory position, hacc, nofun, nofun, fun hne => absurd rfl hne⟩

end Traced

namespace PulseGen

/-- A generator whose trace is known. -/
def Tracked (pg : PulseGen) : Prop := ∃ t : Traced, ∃ elems, t.ctrl = pg ∧ t.Tracks elems

/-- One whose moves have all been planned at a feed rate up to a given one. -/
def GentleUpTo (feedRate : Nat) (pg : PulseGen) : Prop :=
  ∃ t : Traced, ∃ elems, t.ctrl = pg ∧ t.Gentle feedRate elems

variable {pg : PulseGen}

theorem Tracked.perform (h : pg.Tracked) (op : Op) : (pg.perform floorSqrt op).1.Tracked := by
  obtain ⟨t, elems, rfl, htracks⟩ := h
  obtain ⟨elems', htracks'⟩ := htracks.perform op
  exact ⟨(t.perform op).1, elems', t.ctrl_perform op, htracks'⟩

theorem GentleUpTo.perform {feedRate : Nat} (hmax : feedRate ≤ Config.maxStepFrequency.toNat)
    (h : pg.GentleUpTo feedRate) (op : Op) (hfeed : Traced.FeedUpTo feedRate op) :
    (pg.perform floorSqrt op).1.GentleUpTo feedRate := by
  obtain ⟨t, elems, rfl, hgentle⟩ := h
  obtain ⟨elems', hgentle'⟩ := hgentle.perform hmax op hfeed
  exact ⟨(t.perform op).1, elems', t.ctrl_perform op, hgentle'⟩

end PulseGen

namespace TimedAxis

/-- If the interrupt steps the axis and goes on with it, then at a rate whose interval is at least a
quantum, or the axis has a rest that makes up for what is missing. -/
def Unhurried (a : TimedAxis) : Prop :=
  a.due = true → a.ctrl.queueEmpty = false →
    (stepLoops a.ctrl.upcomingRate).1.toNat ≤ Config.quantumRate ∨
      Config.stepTimerQuantum.toNat ≤
        a.residual.toNat + (calcTimer a.ctrl.upcomingRate).1.toNat

instance (a : TimedAxis) : Decidable a.Unhurried := inferInstanceAs (Decidable (_ → _ → _ ∨ _))

variable {a : TimedAxis}

/-- The timer of a stepped axis is its rest and the interval of its rate. -/
theorem Sound.timer_busy (h : a.Sound) (htracks : a.ctrl.Tracked)
    (hdue : a.due = true) (hbusy : a.ctrl.queueEmpty = false) :
    a.serve.timer ≠ 0 ∧ a.serve.timer.toNat =
      a.residual.toNat + (calcTimer a.ctrl.upcomingRate).1.toNat := by
  obtain ⟨t, elems, hctrl, htracks⟩ := htracks
  have hserves := h.serves
  have hne : a.serve.timer ≠ 0 := by
    intro hzero
    have hempty := (hserves.rest.mp hzero).1
    rw [hbusy] at hempty
    cases hempty
  have hinterval : a.serve.interval = some a.ctrl.step.1.timer := by
    rw [serve, if_pos hdue]
  have htimer := htracks.timer (by rw [hctrl]; exact hbusy)
  rw [Traced.rate_step, hctrl] at htimer
  refine ⟨hne, ?_⟩
  rw [hserves.timer hne, hinterval, Option.getD_some, htimer]

theorem Sound.quantum_le_timer_iff (h : a.Sound)
    (htracks : a.ctrl.Tracked) :
    (a.serve.timer ≠ 0 → Config.stepTimerQuantum ≤ a.serve.timer) ↔ a.Unhurried := by
  by_cases hdue : a.due = true
  · cases hempty : a.ctrl.queueEmpty with
    | true =>
        have hzero : a.serve.timer = 0 :=
          h.serves.rest.mpr ⟨hempty, (due_iff.mp hdue).1⟩
        refine ⟨fun _ _ hbusy => ?_, fun _ hne => absurd hzero hne⟩
        rw [hempty] at hbusy
        cases hbusy
    | false =>
        obtain ⟨hne, htimer⟩ := h.timer_busy htracks hdue hempty
        have hiff := quantum_le_calcTimer_iff a.ctrl.upcomingRate
        rw [BitVec.le_def, htimer]
        refine ⟨fun hlong _ _ => .inr (hlong hne), fun hunhurried _ => ?_⟩
        rcases hunhurried hdue hempty with hrate | hrest
        · exact (hiff.mpr hrate).trans (Nat.le_add_left _ _)
        · exact hrest
  · refine ⟨fun _ h => absurd h hdue, fun _ hne => ?_⟩
    have hserve : a.serve = ⟨a.residual, none, a.ctrl⟩ := by rw [serve, if_neg hdue]
    rw [hserve] at hne ⊢
    rw [due_iff, not_and] at hdue
    by_contra hshort
    exact hdue (BitVec.le_of_lt (BitVec.not_le.mp hshort)) (.inl hne)

/-- An axis whose rate is low enough is unhurried. -/
theorem unhurried_of_le (h : a.ctrl.upcomingRate.toNat ≤ Config.quantumRate) : a.Unhurried := by
  intro _ _
  have hrate : Config.quantumRate = 7823 := rfl
  have hstep : (stepLoops a.ctrl.upcomingRate).1 = a.ctrl.upcomingRate := by
    have hnot (limit : BitVec 16) (hlimit : Config.quantumRate ≤ limit.toNat) :
        ¬ a.ctrl.upcomingRate > limit :=
      fun hlt => Nat.not_lt.mpr (h.trans hlimit) (BitVec.lt_def.mp hlt)
    rw [stepLoops, if_neg (hnot Config.maxStepFrequency (by decide)),
      if_neg (hnot 20000 (by decide)), if_neg (hnot 10000 (by decide))]
  rw [hstep]
  exact .inl h

end TimedAxis

namespace AxisTimers

open PulseGen (floorSqrt)

variable {m : AxisTimers}

theorem closest_eq (next timer : BitVec 16) :
    closest next timer = next ∨ closest next timer = timer := by
  rw [closest]
  split
  · exact .inr rfl
  · exact .inl rfl

/-- The next interrupt is that of an axis. -/
theorem nextInterval_eq (m : AxisTimers) : ∃ axis, m.nextInterval = (m axis).serve.timer := by
  rw [nextInterval]
  rcases closest_eq (closest (m .pulley).serve.timer (m .selector).serve.timer)
    (m .idler).serve.timer with hfirst | hidler
  · rw [hfirst]
    rcases closest_eq (m .pulley).serve.timer (m .selector).serve.timer with hpulley | hselector
    · exact ⟨.pulley, hpulley⟩
    · exact ⟨.selector, hselector⟩
  · exact ⟨.idler, hidler⟩

theorem le_nextInterval_iff (quantum : BitVec 16) (h : m.nextInterval ≠ 0) :
    quantum ≤ m.nextInterval ↔
      ∀ axis, (m axis).serve.timer ≠ 0 → quantum ≤ (m axis).serve.timer := by
  refine ⟨fun hle axis hne => BitVec.le_trans hle (nextInterval_le hne), fun hall => ?_⟩
  obtain ⟨axis, haxis⟩ := m.nextInterval_eq
  rw [haxis] at h ⊢
  exact hall axis h

/-- Every operation of the event on a generator is an allowed one. -/
def Event.Obeys (Allowed : PulseGen.Op → Prop) : Event → Prop
  | .planMoveTo _ target feedRate endRate => Allowed (.planMoveTo target feedRate endRate)
  | .abortPlannedMoves _ halt => Allowed (.abortPlannedMoves halt)
  | .setPosition _ x => Allowed (.setPosition x)
  | .interrupt => Allowed .step

variable {Allowed : PulseGen.Op → Prop} {P : PulseGen → Prop}

theorem forall_ctrl_operate {m : AxisTimers} (axis : Axis) (op : PulseGen.Op)
    (hP : P ((m axis).ctrl.perform floorSqrt op).1) (h : ∀ axis, P (m axis).ctrl) (axis' : Axis) :
    P (m.operate floorSqrt axis op axis').ctrl := by
  show P (if axis' = axis then _ else m axis').ctrl
  split
  · exact hP
  · exact h axis'

/-- What every allowed operation preserves for a generator, the axes keep. -/
theorem forall_ctrl_perform (hP : ∀ pg op, Allowed op → P pg → P (pg.perform floorSqrt op).1)
    (m : AxisTimers) (event : Event) (hevent : event.Obeys Allowed) (h : ∀ axis, P (m axis).ctrl) :
    ∀ axis, P ((m.perform floorSqrt event).1 axis).ctrl := by
  cases event with
  | planMoveTo axis target feedRate endRate =>
      exact forall_ctrl_operate axis _ (hP _ _ hevent (h axis)) h
  | abortPlannedMoves axis halt => exact forall_ctrl_operate axis _ (hP _ _ hevent (h axis)) h
  | setPosition axis x => exact forall_ctrl_operate axis _ (hP _ _ hevent (h axis)) h
  | interrupt =>
      intro axis
      show P (m axis).serve.ctrl
      rw [TimedAxis.serve]
      split
      · exact hP _ .step hevent (h axis)
      · exact h axis

theorem forall_ctrl_run (hP : ∀ pg op, Allowed op → P pg → P (pg.perform floorSqrt op).1)
    (m : AxisTimers) (events : List Event) (hevents : ∀ event ∈ events, event.Obeys Allowed)
    (h : ∀ axis, P (m axis).ctrl) :
    ∀ axis, P (Transducer.run (perform floorSqrt) m events axis).ctrl := by
  induction events generalizing m with
  | nil => exact h
  | cons event events ih =>
      rw [List.forall_mem_cons] at hevents
      rw [Transducer.run_cons]
      exact ih _ hevents.2 (forall_ctrl_perform hP m event hevents.1 h)

theorem tracked_run (memory : Axis → PulseGen) (position : Axis → BitVec 32)
    (events : List Event) (axis : Axis) :
    (Transducer.run (perform floorSqrt) (start memory position) events axis).ctrl.Tracked :=
  @forall_ctrl_run (fun _ => True) PulseGen.Tracked (fun _ op _ h => h.perform op) _ events
    (fun event _ => by cases event <;> trivial)
    (fun axis => ⟨_, [], rfl, Traced.tracks_start (memory axis) (position axis)⟩) axis

/-- In every state a run reaches, an interrupt that is followed by another one is followed by it
after a quantum or later, if and only if every axis is unhurried; and so it is as long as no move
is planned at a feed rate above `Config.quantumRate`. -/
theorem interval_at_least_quantum_iff (memory : Axis → PulseGen) (position : Axis → BitVec 32)
    (events : List Event) :
    let m := Transducer.run (perform floorSqrt) (start memory position) events
    (m.step.1 ≠ 0 → (Config.stepTimerQuantum ≤ m.step.1 ↔ ∀ axis, (m axis).Unhurried)) ∧
      ((∀ axis, (memory axis).acceleration.toNat ≤ 65535 * 200) →
        (∀ event ∈ events, event.Obeys (Traced.FeedUpTo Config.quantumRate)) →
          ∀ axis, (m axis).Unhurried) := by
  intro m
  have hsound : m.Sound :=
    Transducer.run_invariant (perform floorSqrt) (fun m _ => m.Sound) _
      (sound_start memory position) (fun m _ event h => h.perform floorSqrt event) events
  have htracked := tracked_run memory position events
  refine ⟨fun hnext => ?_, fun hacc hfeed axis => ?_⟩
  · have hiff := le_nextInterval_iff Config.stepTimerQuantum hnext
    exact hiff.trans (forall_congr' fun axis => (hsound axis).quantum_le_timer_iff (htracked axis))
  · have hstart (axis : Axis) :
        (start memory position axis).ctrl.GentleUpTo Config.quantumRate :=
      ⟨_, [], rfl, Traced.gentle_start (memory axis) (position axis)
        ((hacc axis).trans (by decide))⟩
    have hgentle := @forall_ctrl_run _ (PulseGen.GentleUpTo Config.quantumRate)
      (fun _ op hop h => h.perform (by decide) op hop) _ events hfeed hstart axis
    obtain ⟨t, elems, hctrl, hgentle⟩ := hgentle
    have hrate := hgentle.upcomingRate_le
    rw [hctrl] at hrate
    exact TimedAxis.unhurried_of_le hrate

/-- The selector is moved at its default rate of 45 mm/s, or slower, with the steepest acceleration
its register allows. -/
def selectorRun (feedRate : BitVec 32) : List Event :=
  [.planMoveTo .selector 4000 feedRate 0, .interrupt, .interrupt, .interrupt, .interrupt]

def selectorMemory : PulseGen := { maxJerk := 200, acceleration := 65535 * 200 }

theorem interval_at_least_quantum_iff_slow :
    let m := Transducer.run (perform floorSqrt) (start (fun _ => selectorMemory) fun _ => 0)
      (selectorRun 7000)
    Config.stepTimerQuantum ≤ m.step.1 := by
  intro m
  have hiff := interval_at_least_quantum_iff (fun _ => selectorMemory) (fun _ => 0)
    (selectorRun 7000)
  refine (hiff.1 (by decide +kernel)).mpr (hiff.2 (fun _ => by decide) ?_)
  intro event hevent
  simp only [selectorRun, List.mem_cons, List.not_mem_nil, or_false] at hevent
  rcases hevent with rfl | rfl | rfl | rfl | rfl
  · exact (by decide : 7000 ≤ Config.quantumRate)
  all_goals trivial

/-- At 9000 steps per second the interrupt comes after 222 ticks. -/
theorem interval_below_quantum :
    ¬ ∀ (memory : Axis → PulseGen) (position : Axis → BitVec 32) (events : List Event),
      (∀ event ∈ events, event.Obeys (Traced.FeedUpTo Config.maxStepFrequency.toNat)) →
        let m := Transducer.run (perform floorSqrt) (start memory position) events
        m.step.1 ≠ 0 → Config.stepTimerQuantum ≤ m.step.1 := by
  intro h
  have hlong := h (fun _ => selectorMemory) (fun _ => 0) (selectorRun 9000) (by
    intro event hevent
    simp only [selectorRun, List.mem_cons, List.not_mem_nil, or_false] at hevent
    rcases hevent with rfl | rfl | rfl | rfl | rfl
    · exact (by decide : 9000 ≤ 40000)
    all_goals trivial) (by decide +kernel)
  revert hlong
  decide +kernel

end AxisTimers
end MmuFirmware
