import MmuFirmware.Modules.PulseAccount
import MmuFirmware.Modules.Globals

/-!
`Motion::Step`, which the stepping interrupt calls: the three axes share one timer. Each axis
keeps the rest of its own interval; an axis whose rest is within a quantum is stepped, and the
interrupt comes again after the shortest rest. Intervals are 16 bit words.
-/
namespace MmuFirmware

/-- The pulse generator of an axis and the rest of its interval. -/
structure TimedAxis where
  ctrl : PulseGen
  residual : BitVec 16 := 0

namespace TimedAxis

/-- What one interrupt makes of an axis. -/
structure Served where
  timer : BitVec 16
  /-- What `PulseGen::Step` returned, if it was called. -/
  interval : Option (BitVec 16)
  ctrl : PulseGen

/-- An axis whose interval is over within a quantum, and which is not at rest. -/
def due (a : TimedAxis) : Bool :=
  a.residual ≤ Config.stepTimerQuantum && (a.residual != 0 || !a.ctrl.queueEmpty)

def serve (a : TimedAxis) : Served :=
  if a.due then
    let stepped := a.ctrl.step
    let next := stepped.1.timer
    ⟨if next ≠ 0 then a.residual + next else 0, some next, stepped.2⟩
  else ⟨a.residual, none, a.ctrl⟩

end TimedAxis

/-- The axes the stepping interrupt serves. -/
def AxisTimers := Axis → TimedAxis

namespace AxisTimers

/-- The shortest interval, where zero stands for none. -/
def closest (next timer : BitVec 16) : BitVec 16 :=
  if timer ≠ 0 ∧ (next = 0 ∨ timer < next) then timer else next

def nextInterval (m : AxisTimers) : BitVec 16 :=
  closest (closest (m .pulley).serve.timer (m .selector).serve.timer) (m .idler).serve.timer

/-- The interval to the next interrupt, and the axes after this one. -/
def step (m : AxisTimers) : BitVec 16 × AxisTimers :=
  let next := m.nextInterval
  (next, fun axis =>
    let served := (m axis).serve
    { ctrl := served.ctrl
      residual := if served.timer ≠ 0 then served.timer - next else 0 })

end AxisTimers

namespace PulseGen

variable {sqrt : BitVec 32 → BitVec 32} {pg : PulseGen}

/-- An interval the tables give. -/
def InTable (timer : BitVec 16) : Prop := 100 ≤ timer.toNat ∧ timer.toNat ≤ maxInterval

/-- Its queue is in order and the interval kept for steady motion is one of the tables. -/
structure Sound (pg : PulseGen) : Prop where
  owes : ∃ moves part, pg.Owes moves part
  nominal : pg.currentBlock ≠ none → pg.stepLoopsNominal ≠ 0 → InTable pg.timerNominal

theorem nextTimer_inTable (block : Block)
    (h : pg.stepLoopsNominal ≠ 0 → InTable pg.timerNominal) :
    InTable (pg.nextTimer block).1 ∧
      ((pg.nextTimer block).2.stepLoopsNominal ≠ 0 →
        InTable (pg.nextTimer block).2.timerNominal) := by
  rw [nextTimer]
  split
  · exact ⟨calcTimer_bounds _, h⟩
  · split
    · exact ⟨calcTimer_bounds _, h⟩
    · split
      · exact ⟨calcTimer_bounds _, fun _ => calcTimer_bounds _⟩
      · next hnominal => exact ⟨h hnominal, h⟩

theorem Sound.fetch (h : pg.Sound) : pg.fetch.Sound := by
  obtain ⟨moves, part, howes⟩ := h.owes
  refine ⟨⟨moves, part, howes.fetch.1⟩, ?_⟩
  have hnominal := h.nominal
  rw [PulseGen.fetch]
  cases hcurrent : pg.currentBlock with
  | some cell =>
      rw [hcurrent] at hnominal
      exact fun _ => hnominal (Option.some_ne_none cell)
  | none =>
      dsimp only
      split
      · exact fun hne => absurd hcurrent hne
      · exact fun _ hne => absurd rfl hne

theorem Sound.fetch_idle (h : pg.Sound) (hempty : pg.queueEmpty = true) :
    pg.fetch.currentBlock = none := by
  obtain ⟨moves, part, howes⟩ := h.owes
  have hmoves := howes.queueEmpty_iff.mp hempty
  subst hmoves
  obtain ⟨elems, -, hmoves, -, hbusy⟩ := howes.fetch.1.held
  rw [List.map_eq_nil_iff] at hmoves
  subst hmoves
  cases hbusy with
  | resting hnone => exact hnone

theorem Sound.fetch_busy (h : pg.Sound) (hsome : pg.queueEmpty = false) :
    pg.fetch.currentBlock ≠ none := by
  obtain ⟨moves, part, howes⟩ := h.owes
  refine howes.fetch.2.2 fun hnil => ?_
  rw [howes.queueEmpty_iff.mpr hnil] at hsome
  cases hsome

/-- An interrupt finds an interval of the tables, unless there is nothing to do. -/
theorem Sound.step (h : pg.Sound) :
    pg.step.2.Sound ∧ (pg.queueEmpty = true → pg.step.1.timer = 0) ∧
      (pg.queueEmpty = false → InTable pg.step.1.timer) := by
  obtain ⟨moves, part, howes⟩ := h.owes
  obtain ⟨-, moves', part', howes', -⟩ := howes.step
  have hidle := h.fetch_idle
  have hbusy := h.fetch_busy
  have hnominal := h.fetch.nominal
  cases hcurrent : pg.fetch.currentBlock with
  | none =>
      rw [pg.step_of_none hcurrent] at howes' ⊢
      exact ⟨⟨⟨moves', part', howes'⟩, hnominal⟩, fun _ => rfl,
        fun hsome => absurd hcurrent (hbusy hsome)⟩
  | some cell =>
      have hne : pg.fetch.currentBlock ≠ none := by
        rw [hcurrent]
        exact Option.some_ne_none cell
      rw [pg.step_of_some cell hcurrent] at howes' ⊢
      generalize pg.fetch.blocks.data.get cell = block at howes' ⊢
      have hnext := @nextTimer_inTable { pg.fetch with
        stepsCompleted := (stepMotor block.steps pg.fetch.stepLoops pg.fetch.stepsCompleted).2 }
        block (hnominal hne)
      refine ⟨⟨⟨moves', part', howes'⟩, ?_⟩, fun hempty => absurd (hidle hempty) hne,
        fun _ => hnext.1⟩
      rw [stepBlock]
      dsimp only
      split
      · exact fun hfinished => absurd rfl hfinished
      · exact fun _ => hnext.2

variable (sqrt) in
theorem planMoveTo_frame (pg : PulseGen) (target feedRate endRate : BitVec 32) :
    (pg.planMoveTo sqrt target feedRate endRate).2.currentBlock = pg.currentBlock ∧
      (pg.planMoveTo sqrt target feedRate endRate).2.stepLoopsNominal = pg.stepLoopsNominal ∧
      (pg.planMoveTo sqrt target feedRate endRate).2.timerNominal = pg.timerNominal := by
  rw [PulseGen.planMoveTo]
  split
  · exact ⟨rfl, rfl, rfl⟩
  · dsimp only
    split <;> exact ⟨rfl, rfl, rfl⟩

variable (sqrt) in
theorem Sound.perform (h : pg.Sound) (op : Op) : (pg.perform sqrt op).1.Sound := by
  obtain ⟨moves, part, howes⟩ := h.owes
  refine ⟨howes.after_perform sqrt op, ?_⟩
  cases op with
  | step => exact h.step.1.nominal
  | planMoveTo target feedRate endRate =>
      obtain ⟨hcurrent, hloops, htimer⟩ := pg.planMoveTo_frame sqrt target feedRate endRate
      show (pg.planMoveTo sqrt target feedRate endRate).2.currentBlock ≠ none →
        (pg.planMoveTo sqrt target feedRate endRate).2.stepLoopsNominal ≠ 0 →
          InTable (pg.planMoveTo sqrt target feedRate endRate).2.timerNominal
      rw [hcurrent, hloops, htimer]
      exact h.nominal
  | abortPlannedMoves halt => exact fun hne => absurd (pg.currentBlock_abort halt) hne
  | setPosition x => exact h.nominal

theorem sound_start (memory : PulseGen) (position : BitVec 32) : (start memory position).Sound :=
  ⟨⟨[], [], owes_start memory position⟩, fun hne => absurd rfl hne⟩

end PulseGen

namespace TimedAxis

/-- The queue is in order and the rest is no longer than an interval and a quantum. -/
structure Sound (a : TimedAxis) : Prop where
  ctrl : a.ctrl.Sound
  bounded : a.residual.toNat ≤ maxInterval + Config.stepTimerQuantum.toNat

/-- The axis has nothing to do: its queue is empty and its last interval is over, to within a
quantum. -/
def AtRest (a : TimedAxis) : Prop :=
  a.ctrl.queueEmpty = true ∧ a.residual ≤ Config.stepTimerQuantum

variable {a : TimedAxis}

/-- What an interrupt does to an axis. -/
structure Serves (a : TimedAxis) : Prop where
  /-- No axis is stepped earlier than a quantum before its interval is over. -/
  early : a.serve.interval ≠ none → a.residual ≤ Config.stepTimerQuantum
  /-- An axis whose interval is over and which has moves left is stepped. -/
  late : a.residual = 0 → a.ctrl.queueEmpty = false → a.serve.interval ≠ none
  /-- The sum of the rest and the next interval fits into the timer. -/
  fits : ∀ interval, a.serve.interval = some interval → interval ≠ 0 →
    a.residual.toNat + interval.toNat < 2 ^ 16
  /-- The rest goes on from the old one by what the pulse generator returned. -/
  timer : a.serve.timer ≠ 0 →
    a.serve.timer.toNat = a.residual.toNat + (a.serve.interval.getD 0).toNat
  rest : a.serve.timer = 0 ↔ a.AtRest
  bounded : a.serve.timer.toNat ≤ maxInterval + Config.stepTimerQuantum.toNat
  ctrl : a.serve.ctrl.Sound

theorem due_iff : a.due = true ↔
    a.residual ≤ Config.stepTimerQuantum ∧ (a.residual ≠ 0 ∨ a.ctrl.queueEmpty = false) := by
  simp [due, bne_iff_ne]

/-- The axis is stepped and has steps left. -/
theorem Sound.serves_busy (h : a.Sound) (hdue : a.due = true)
    (hsome : a.ctrl.queueEmpty = false) : a.Serves := by
  obtain ⟨hsound, -, hbusy⟩ := h.ctrl.step
  obtain ⟨hlow, hhigh⟩ := hbusy hsome
  have hresidual := (due_iff.mp hdue).1
  have hquantum := BitVec.le_def.mp hresidual
  have hrange : maxInterval + Config.stepTimerQuantum.toNat < 2 ^ 16 := by decide
  have hne : a.ctrl.step.1.timer ≠ 0 := by
    intro hzero
    rw [hzero] at hlow
    exact absurd hlow (by decide)
  have hserve : a.serve =
      ⟨a.residual + a.ctrl.step.1.timer, some a.ctrl.step.1.timer, a.ctrl.step.2⟩ := by
    rw [serve, if_pos hdue]
    dsimp only
    rw [if_pos hne]
  have hsum : (a.residual + a.ctrl.step.1.timer).toNat =
      a.residual.toNat + a.ctrl.step.1.timer.toNat :=
    BitVec.toNat_add_of_lt (by omega)
  have htimer : a.residual + a.ctrl.step.1.timer ≠ 0 := by
    intro hzero
    rw [hzero] at hsum
    have hnone : (0 : BitVec 16).toNat = 0 := rfl
    omega
  rw [← Bool.not_eq_true] at hsome
  constructor
  · exact fun _ => hresidual
  · rw [hserve]
    exact fun _ _ => Option.some_ne_none _
  · rw [hserve]
    intro interval hinterval _
    rw [← Option.some.inj hinterval]
    omega
  · rw [hserve]
    exact fun _ => hsum
  · rw [hserve]
    exact ⟨fun hzero => absurd hzero htimer, fun hrest => absurd hrest.1 hsome⟩
  · rw [hserve]
    dsimp only
    omega
  · rw [hserve]
    exact hsound

/-- The axis is stepped and comes to rest. -/
theorem Sound.serves_finished (h : a.Sound) (hdue : a.due = true)
    (hempty : a.ctrl.queueEmpty = true) : a.Serves := by
  obtain ⟨hsound, hidle, -⟩ := h.ctrl.step
  have hresidual := (due_iff.mp hdue).1
  have hserve : a.serve = ⟨0, some 0, a.ctrl.step.2⟩ := by
    rw [serve, if_pos hdue]
    dsimp only
    rw [hidle hempty, if_neg (fun hne => hne rfl)]
  constructor
  · exact fun _ => hresidual
  · rw [hempty]
    nofun
  · rw [hserve]
    intro interval hinterval hne
    exact absurd (Option.some.inj hinterval).symm hne
  · rw [hserve]
    exact fun hne => absurd rfl hne
  · rw [hserve]
    exact ⟨fun _ => ⟨hempty, hresidual⟩, fun _ => rfl⟩
  · rw [hserve]
    exact Nat.zero_le _
  · rw [hserve]
    exact hsound

/-- The axis waits on, or is at rest already. -/
theorem Sound.serves_waiting (h : a.Sound) (hdue : ¬ a.due = true) : a.Serves := by
  have hserve : a.serve = ⟨a.residual, none, a.ctrl⟩ := by rw [serve, if_neg hdue]
  rw [due_iff, not_and_or, not_or, not_not, Bool.not_eq_false] at hdue
  constructor
  · rw [hserve]
    exact fun hne => absurd rfl hne
  · rw [hserve]
    intro hzero hsome
    rcases hdue with hlate | hrest
    · rw [hzero] at hlate
      exact absurd (by decide) hlate
    · rw [hsome] at hrest
      cases hrest.2
  · rw [hserve]
    nofun
  · rw [hserve]
    exact fun _ => rfl
  · rw [hserve]
    constructor
    · intro hzero
      rcases hdue with hlate | hrest
      · dsimp only at hzero
        rw [hzero] at hlate
        exact absurd (by decide) hlate
      · refine ⟨hrest.2, ?_⟩
        rw [hrest.1]
        decide
    · intro hatRest
      rcases hdue with hlate | hrest
      · exact absurd hatRest.2 hlate
      · exact hrest.1
  · rw [hserve]
    exact h.bounded
  · rw [hserve]
    exact h.ctrl

theorem Sound.serves (h : a.Sound) : a.Serves := by
  by_cases hdue : a.due = true
  · cases hempty : a.ctrl.queueEmpty with
    | false => exact h.serves_busy hdue hempty
    | true => exact h.serves_finished hdue hempty
  · exact h.serves_waiting hdue

end TimedAxis

namespace AxisTimers

theorem closest_eq_zero_iff {next timer : BitVec 16} :
    closest next timer = 0 ↔ next = 0 ∧ timer = 0 := by
  rw [closest]
  split
  · next h => exact ⟨fun hzero => absurd hzero h.1, fun hzero => hzero.2⟩
  · next h =>
    refine ⟨fun hzero => ⟨hzero, ?_⟩, fun hzero => hzero.1⟩
    by_contra hne
    exact h ⟨hne, .inl hzero⟩

theorem closest_le_left {next : BitVec 16} (timer : BitVec 16) (h : next ≠ 0) : closest next timer ≤ next := by
  rw [closest]
  split
  · next hcloser =>
    exact BitVec.le_of_lt (hcloser.2.resolve_left h)
  · exact BitVec.le_refl next

theorem closest_le_right (next : BitVec 16) {timer : BitVec 16} (h : timer ≠ 0) :
    closest next timer ≤ timer := by
  rw [closest]
  split
  · exact BitVec.le_refl timer
  · next hfurther =>
    rw [not_and_or, not_or, not_not] at hfurther
    exact BitVec.not_lt.mp (hfurther.resolve_left h).2

variable {m : AxisTimers}

theorem nextInterval_eq_zero_iff : m.nextInterval = 0 ↔ ∀ axis, (m axis).serve.timer = 0 := by
  rw [nextInterval, closest_eq_zero_iff, closest_eq_zero_iff]
  constructor
  · rintro ⟨⟨hpulley, hselector⟩, hidler⟩ axis
    cases axis with
    | pulley => exact hpulley
    | selector => exact hselector
    | idler => exact hidler
  · exact fun h => ⟨⟨h .pulley, h .selector⟩, h .idler⟩

/-- The interrupt comes again before any axis is due. -/
theorem nextInterval_le {axis : Axis} (h : (m axis).serve.timer ≠ 0) :
    m.nextInterval ≤ (m axis).serve.timer := by
  rw [nextInterval]
  cases axis with
  | idler => exact closest_le_right _ h
  | selector =>
      have hle := closest_le_right (m .pulley).serve.timer h
      refine BitVec.le_trans (closest_le_left _ fun hzero => ?_) hle
      exact h (closest_eq_zero_iff.mp hzero).2
  | pulley =>
      have hle := closest_le_left (m .selector).serve.timer h
      refine BitVec.le_trans (closest_le_left _ fun hzero => ?_) hle
      exact h (closest_eq_zero_iff.mp hzero).1

def Sound (m : AxisTimers) : Prop := ∀ axis, (m axis).Sound

/-- The rest of an axis is what is left of its timer when the interrupt comes again. -/
theorem residual_step {axis : Axis} (h : (m axis).serve.timer ≠ 0) :
    (m.step.2 axis).residual.toNat + m.nextInterval.toNat = (m axis).serve.timer.toNat := by
  have hle := nextInterval_le h
  have hresidual : (m.step.2 axis).residual = (m axis).serve.timer - m.nextInterval := by
    rw [step]
    dsimp only
    rw [if_pos h]
  rw [hresidual, BitVec.toNat_sub_of_le hle, Nat.sub_add_cancel (BitVec.le_def.mp hle)]

theorem residual_step_of_zero {axis : Axis} (h : (m axis).serve.timer = 0) :
    (m.step.2 axis).residual = 0 := by
  rw [step]
  dsimp only
  rw [if_neg (not_not.mpr h)]

theorem Sound.step (h : m.Sound) : m.step.2.Sound := by
  intro axis
  refine ⟨(h axis).serves.ctrl, ?_⟩
  by_cases hzero : (m axis).serve.timer = 0
  · rw [residual_step_of_zero hzero]
    exact Nat.zero_le _
  · have hresidual := residual_step hzero
    have hbounded := (h axis).serves.bounded
    omega

/-! Runs. -/

inductive Event where
  | planMoveTo (axis : Axis) (target feedRate endRate : BitVec 32)
  | abortPlannedMoves (axis : Axis) (halt : Bool)
  | setPosition (axis : Axis) (x : BitVec 32)
  | interrupt

def operate (sqrt : BitVec 32 → BitVec 32) (m : AxisTimers) (axis : Axis) (op : PulseGen.Op) :
    AxisTimers :=
  fun axis' =>
    if axis' = axis then { m axis with ctrl := ((m axis).ctrl.perform sqrt op).1 } else m axis'

def perform (sqrt : BitVec 32 → BitVec 32) (m : AxisTimers) : Event → AxisTimers × Unit
  | .planMoveTo axis target feedRate endRate =>
      (m.operate sqrt axis (.planMoveTo target feedRate endRate), ())
  | .abortPlannedMoves axis halt => (m.operate sqrt axis (.abortPlannedMoves halt), ())
  | .setPosition axis x => (m.operate sqrt axis (.setPosition x), ())
  | .interrupt => (m.step.2, ())

/-- The axes as they are constructed, whatever their memory held. -/
def start (memory : Axis → PulseGen) (position : Axis → BitVec 32) : AxisTimers :=
  fun axis => { ctrl := PulseGen.start (memory axis) (position axis) }

variable (sqrt : BitVec 32 → BitVec 32)

theorem Sound.operate (h : m.Sound) (axis : Axis) (op : PulseGen.Op) :
    (m.operate sqrt axis op).Sound := by
  intro axis'
  show (if axis' = axis then _ else m axis').Sound
  split
  · exact ⟨(h axis).ctrl.perform sqrt op, (h axis).bounded⟩
  · exact h axis'

theorem residual_operate (m : AxisTimers) (axis axis' : Axis) (op : PulseGen.Op) :
    (m.operate sqrt axis' op axis).residual = (m axis).residual := by
  show (if axis = axis' then _ else m axis).residual = _
  split
  · next heq => rw [heq]
  · rfl

theorem Sound.perform (h : m.Sound) (event : Event) : (m.perform sqrt event).1.Sound := by
  cases event with
  | planMoveTo axis target feedRate endRate => exact h.operate sqrt axis _
  | abortPlannedMoves axis halt => exact h.operate sqrt axis _
  | setPosition axis x => exact h.operate sqrt axis _
  | interrupt => exact h.step

theorem sound_start (memory : Axis → PulseGen) (position : Axis → BitVec 32) :
    (start memory position).Sound :=
  fun axis => ⟨PulseGen.sound_start (memory axis) (position axis), Nat.zero_le _⟩

/-- The axis is active in this interrupt: it is stepped or waits for its interval to end. -/
def Active (axis : Axis) : AxisTimers × Event → Prop
  | (m, .interrupt) => (m axis).serve.timer ≠ 0
  | _ => True

/-- What the pulse generator of the axis returned. -/
def returned (axis : Axis) : AxisTimers × Event → Nat
  | (m, .interrupt) => ((m axis).serve.interval.getD 0).toNat
  | _ => 0

/-- The time from this interrupt to the next. -/
def elapsed : AxisTimers × Event → Nat
  | (m, .interrupt) => m.step.1.toNat
  | _ => 0

theorem Sound.residual_perform (h : m.Sound) {axis : Axis} {event : Event}
    (hactive : Active axis (m, event)) :
    (m axis).residual.toNat + returned axis (m, event) =
      elapsed (m, event) + ((m.perform sqrt event).1 axis).residual.toNat := by
  cases event with
  | interrupt =>
      have htimer := (h axis).serves.timer hactive
      have hresidual := residual_step hactive
      show _ + ((m axis).serve.interval.getD 0).toNat =
        m.nextInterval.toNat + (m.step.2 axis).residual.toNat
      omega
  | planMoveTo axis' target feedRate endRate =>
      show (m axis).residual.toNat + 0 = 0 + (m.operate sqrt axis' _ axis).residual.toNat
      rw [residual_operate, Nat.add_zero, Nat.zero_add]
  | abortPlannedMoves axis' halt =>
      show (m axis).residual.toNat + 0 = 0 + (m.operate sqrt axis' _ axis).residual.toNat
      rw [residual_operate, Nat.add_zero, Nat.zero_add]
  | setPosition axis' x =>
      show (m axis).residual.toNat + 0 = 0 + (m.operate sqrt axis' _ axis).residual.toNat
      rw [residual_operate, Nat.add_zero, Nat.zero_add]

/-- Over a stretch in which the axis is active all its intervals are elapsed or its rest. -/
theorem Sound.residual_run (h : m.Sound) (axis : Axis) (events : List Event)
    (hactive : ∀ p ∈ Transducer.steps (AxisTimers.perform sqrt) m events, Active axis p) :
    (m axis).residual.toNat +
        ((Transducer.steps (AxisTimers.perform sqrt) m events).map (returned axis)).sum =
      ((Transducer.steps (AxisTimers.perform sqrt) m events).map elapsed).sum +
        (Transducer.run (AxisTimers.perform sqrt) m events axis).residual.toNat := by
  induction events generalizing m with
  | nil => simp
  | cons event events ih =>
      rw [Transducer.steps_cons, List.forall_mem_cons] at hactive
      have hhere := h.residual_perform sqrt hactive.1
      have hrest := ih (h.perform sqrt event) hactive.2
      rw [Transducer.steps_cons, List.map_cons, List.sum_cons, List.map_cons, List.sum_cons,
        Transducer.run_cons]
      omega

/-- Along every run: from a time on at which an axis has no rest, and while it is active, the
intervals its pulse generator returned are the time elapsed and its rest; in every interrupt
each axis is stepped in time and no sum or difference wraps, it is inactive only if it was at
rest, which leaves no rest behind; and the interrupt returns zero just if all axes are. -/
theorem no_drift (memory : Axis → PulseGen) (position : Axis → BitVec 32)
    (pre events : List Event) :
    let before := Transducer.run (perform sqrt) (start memory position) pre
    let calls := Transducer.steps (perform sqrt) before events
    (∀ axis, (before axis).residual = 0 → (∀ p ∈ calls, Active axis p) →
      (calls.map (returned axis)).sum =
        (calls.map elapsed).sum +
          (Transducer.run (perform sqrt) before events axis).residual.toNat) ∧
      (∀ axis, (start memory position axis).residual = 0) ∧
      ∀ m, (m, Event.interrupt) ∈ calls →
        (∀ axis, (m axis).Serves) ∧
          (∀ axis, Active axis (m, .interrupt) → m.step.1 ≤ (m axis).serve.timer) ∧
          (∀ axis, ¬ Active axis (m, .interrupt) →
            (m axis).AtRest ∧ (m.step.2 axis).residual = 0) ∧
          (m.step.1 = 0 ↔ ∀ axis, (m axis).AtRest) := by
  intro before calls
  have hsound : before.Sound :=
    Transducer.run_invariant (perform sqrt) (fun m _ => m.Sound) _ (sound_start memory position)
      (fun m _ event h => h.perform sqrt event) pre
  refine ⟨fun axis hzero hactive => ?_, fun _ => rfl, fun m hm => ?_⟩
  · have hrun := hsound.residual_run sqrt axis events hactive
    have hnone : (before axis).residual.toNat = 0 := by
      rw [hzero]
      rfl
    rw [hnone, Nat.zero_add] at hrun
    exact hrun
  · have hm : m.Sound :=
      Transducer.steps_invariant (perform sqrt) Sound (fun m event h => h.perform sqrt event)
        before hsound events _ hm
    refine ⟨fun axis => (hm axis).serves, fun axis hactive => nextInterval_le hactive,
      fun axis hinactive => ?_, ?_⟩
    · have hzero : (m axis).serve.timer = 0 := not_not.mp hinactive
      exact ⟨(hm axis).serves.rest.mp hzero, residual_step_of_zero hzero⟩
    · show m.nextInterval = 0 ↔ _
      rw [nextInterval_eq_zero_iff]
      exact forall_congr' fun axis => (hm axis).serves.rest

end AxisTimers

end MmuFirmware
