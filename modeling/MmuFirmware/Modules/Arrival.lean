import MmuFirmware.Modules.AxisTimers
import MmuFirmware.Lib.Progress

/-!
The axes arrive. Every second interrupt, at the latest, takes a step of some axis that is not at
rest or puts one to rest; so what is planned is done after a number of interrupts that does not
depend on the rates.
-/
namespace MmuFirmware

namespace PulseGen

/-- The number of steps that are still to be taken. -/
def stepsLeft (moves : List Move) (part : List Bool) : Nat :=
  (moves.flatMap Move.pulses).length - part.length

variable {pg : PulseGen} {moves : List Move} {part : List Bool}

theorem Owes.length_part_le (h : pg.Owes moves part) :
    part.length ≤ (moves.flatMap Move.pulses).length := by
  cases moves with
  | nil =>
      rw [h.part_of_nil]
      exact Nat.zero_le _
  | cons m rest =>
      have hlt := h.part_prefix.2
      rw [List.flatMap_cons, List.length_append, Move.pulses, List.length_replicate]
      omega

/-- An interrupt of a busy axis takes a step. -/
theorem Holds.pulses_ne_nil {block : Block} {rest : List Block}
    (h : pg.Holds (block :: rest) part) : pg.step.1.pulses ≠ [] := by
  have hadvances := h.step_cons
  obtain ⟨⟨-, -, hbusy⟩, -, hcurrent⟩ := h.fetch
  have hne := hcurrent (List.cons_ne_nil block rest)
  cases hbusy with
  | resting hnone => exact absurd hnone hne
  | moving hcurrent' hcell hdir hloops hleft =>
      intro hnone
      have hlength := congrArg List.length hadvances.pulses
      rw [hnone, List.append_nil, List.length_replicate, List.length_replicate] at hlength
      exact absurd hlength hadvances.progress.ne

/-- What an interrupt takes of the steps that are left. -/
theorem Owes.stepsLeft_step (h : pg.Owes moves part) :
    ∃ moves' part', pg.step.2.Owes moves' part' ∧
      Delivers Move.pulses moves part [] pg.step.1.pulses moves' part' ∧
      stepsLeft moves' part' + pg.step.1.pulses.length = stepsLeft moves part ∧
      (pg.queueEmpty = false → 0 < pg.step.1.pulses.length) := by
  obtain ⟨-, moves', part', howes, hdelivers⟩ := h.step
  refine ⟨moves', part', howes, hdelivers, ?_, fun hsome => ?_⟩
  · obtain ⟨finished, hmoves, hpart⟩ := hdelivers
    have hle := h.length_part_le
    have hle' := howes.length_part_le
    have hlength := congrArg List.length hpart
    rw [List.append_nil] at hmoves
    rw [stepsLeft, stepsLeft, hmoves, List.flatMap_append, List.length_append]
    rw [List.length_append, List.length_append] at hlength
    rw [hmoves, List.flatMap_append, List.length_append] at hle
    omega
  · obtain ⟨elems, hholds, rfl⟩ := h.holds
    cases elems with
    | nil =>
        have hempty := h.queueEmpty_iff.mpr rfl
        rw [hsome] at hempty
        cases hempty
    | cons block rest => exact List.length_pos_iff.mpr hholds.pulses_ne_nil

end PulseGen

namespace TimedAxis

/-- An axis that is to be served once more, even if it has no step left. -/
def stirs (a : TimedAxis) : Nat := if a.ctrl.queueEmpty = true ∧ a.residual = 0 then 0 else 1

/-- The steps that are left to the axis, and whether it stirs. -/
def Ahead (a : TimedAxis) (k : Nat) : Prop :=
  ∃ moves part, a.ctrl.Owes moves part ∧ k = PulseGen.stepsLeft moves part + a.stirs

/-- The axis with the rest it has until the next interrupt. -/
def waiting (a : TimedAxis) (next : BitVec 16) : TimedAxis :=
  { ctrl := a.serve.ctrl, residual := if a.serve.timer ≠ 0 then a.serve.timer - next else 0 }

variable {a : TimedAxis} {k : Nat}

theorem stirs_le (a : TimedAxis) : a.stirs ≤ 1 := by
  rw [stirs]
  split <;> omega

theorem stirs_of_busy (h : a.ctrl.queueEmpty = false) : a.stirs = 1 := by
  rw [stirs, h]
  rfl

theorem stirs_of_residual (h : a.residual ≠ 0) : a.stirs = 1 := if_neg fun hrest => h hrest.2

theorem due_stirs (h : a.due = true) : a.stirs = 1 := by
  rcases (due_iff.mp h).2 with hresidual | hbusy
  · exact stirs_of_residual hresidual
  · exact stirs_of_busy hbusy

/-- An axis that is due comes nearer. -/
theorem Ahead.serve_due (h : a.Ahead k) (hsound : a.Sound) (hdue : a.due = true)
    (next : BitVec 16) : ∃ k' < k, (a.waiting next).Ahead k' := by
  obtain ⟨moves, part, howes, rfl⟩ := h
  obtain ⟨moves', part', howes', hdelivers, hleft, hpulses⟩ := howes.stepsLeft_step
  have hctrl : a.serve.ctrl = a.ctrl.step.2 := by rw [serve, if_pos hdue]
  have hafter : (a.waiting next).ctrl.Owes moves' part' := by
    rw [waiting, hctrl]
    exact howes'
  have hstirs := due_stirs hdue
  refine ⟨_, ?_, moves', part', hafter, rfl⟩
  cases hempty : a.ctrl.queueEmpty with
  | false =>
      have hpos := hpulses hempty
      have hle := stirs_le (a.waiting next)
      omega
  | true =>
      have hmoves' : moves' = [] := by
        obtain ⟨finished, hmoves, -⟩ := hdelivers
        rw [howes.queueEmpty_iff.mp hempty, List.append_nil] at hmoves
        exact (List.append_eq_nil_iff.mp hmoves.symm).2
      have htimer : a.serve.timer = 0 :=
        hsound.serves.rest.mpr ⟨hempty, (due_iff.mp hdue).1⟩
      have hrest : (a.waiting next).stirs = 0 :=
        if_pos ⟨hafter.queueEmpty_iff.mpr hmoves', if_neg (not_not.mpr htimer)⟩
      omega

/-- An axis that waits comes no further away. -/
theorem Ahead.serve_waiting (h : a.Ahead k) (hdue : ¬ a.due = true) (next : BitVec 16) :
    ∃ k' ≤ k, (a.waiting next).Ahead k' := by
  obtain ⟨moves, part, howes, rfl⟩ := h
  have hserve : a.serve = ⟨a.residual, none, a.ctrl⟩ := by rw [serve, if_neg hdue]
  have hafter : (a.waiting next).ctrl.Owes moves part := by
    rw [waiting, hserve]
    exact howes
  refine ⟨_, ?_, moves, part, hafter, rfl⟩
  by_cases hrest : a.ctrl.queueEmpty = true ∧ a.residual = 0
  · have hstill : (a.waiting next).stirs = 0 := by
      rw [stirs, waiting, hserve]
      exact if_pos ⟨hrest.1, if_neg (not_not.mpr hrest.2)⟩
    omega
  · have hstirs : a.stirs = 1 := if_neg hrest
    have hle := stirs_le (a.waiting next)
    omega

theorem Ahead.waiting (h : a.Ahead k) (hsound : a.Sound) (next : BitVec 16) :
    ∃ k' ≤ k, (a.waiting next).Ahead k' := by
  by_cases hdue : a.due = true
  · obtain ⟨k', hlt, hafter⟩ := h.serve_due hsound hdue next
    exact ⟨k', hlt.le, hafter⟩
  · exact h.serve_waiting hdue next

/-- The axis that waits the shortest is due in the next interrupt, or is at rest by then. -/
theorem Ahead.serve_closest (h : a.Ahead k) (hdue : ¬ a.due = true) (htimer : a.serve.timer ≠ 0) :
    (a.waiting a.serve.timer).due = true ∨ ∃ k' < k, (a.waiting a.serve.timer).Ahead k' := by
  obtain ⟨moves, part, howes, rfl⟩ := h
  have hserve : a.serve = ⟨a.residual, none, a.ctrl⟩ := by rw [serve, if_neg hdue]
  have hzero : (a.waiting a.serve.timer).residual = 0 :=
    (if_pos htimer).trans (BitVec.sub_self _)
  have hctrl : (a.waiting a.serve.timer).ctrl = a.ctrl := by
    rw [TimedAxis.waiting, hserve]
  cases hempty : a.ctrl.queueEmpty with
  | false =>
      refine .inl (due_iff.mpr ⟨?_, .inr (hctrl.symm ▸ hempty)⟩)
      rw [hzero]
      decide
  | true =>
      refine .inr ⟨_, ?_, moves, part, hctrl.symm ▸ howes, rfl⟩
      have hresidual : a.residual ≠ 0 := by
        rw [hserve] at htimer
        exact htimer
      have hstirs := stirs_of_residual hresidual
      have hstill : (a.waiting a.serve.timer).stirs = 0 := by
        rw [stirs, hctrl]
        exact if_pos ⟨hempty, hzero⟩
      omega

end TimedAxis

namespace AxisTimers

variable {m : AxisTimers}

theorem step_eq (m : AxisTimers) (axis : Axis) :
    m.step.2 axis = (m axis).waiting m.nextInterval := rfl

/-- Some axis waits just as long as all do. -/
theorem exists_closest (m : AxisTimers) : ∃ axis, (m axis).serve.timer = m.nextInterval := by
  have hchoice : ∀ next timer : BitVec 16,
      closest next timer = next ∨ closest next timer = timer := by
    intro next timer
    rw [closest]
    split
    · exact .inr rfl
    · exact .inl rfl
  rw [nextInterval]
  rcases hchoice (closest (m .pulley).serve.timer (m .selector).serve.timer)
    (m .idler).serve.timer with hothers | hidler
  · rcases hchoice (m .pulley).serve.timer (m .selector).serve.timer with hpulley | hselector
    · exact ⟨.pulley, by rw [hothers, hpulley]⟩
    · exact ⟨.selector, by rw [hothers, hselector]⟩
  · exact ⟨.idler, hidler.symm⟩

/-- The steps that are left to all axes, and the axes that stir. -/
def Ahead (m : AxisTimers) (k : Nat) : Prop :=
  m.Sound ∧ ∃ left : Axis → Nat, (∀ axis, (m axis).Ahead (left axis)) ∧
    k = left .pulley + left .selector + left .idler

theorem Ahead.step {k : Nat} (h : m.Ahead k) : ∃ k' ≤ k, m.step.2.Ahead k' := by
  obtain ⟨hsound, left, hleft, rfl⟩ := h
  choose left' hle hafter using fun axis => (hleft axis).waiting (hsound axis) m.nextInterval
  refine ⟨_, ?_, hsound.step, left', hafter, rfl⟩
  have hpulley := hle .pulley
  have hselector := hle .selector
  have hidler := hle .idler
  omega

/-- An axis that comes nearer takes all of them nearer. -/
theorem Ahead.step_lt {k : Nat} (h : m.Ahead k) {axis : Axis}
    (hnearer : ∀ k, (m axis).Ahead k → ∃ k' < k, (m.step.2 axis).Ahead k') :
    ∃ k' < k, m.step.2.Ahead k' := by
  obtain ⟨hsound, left, hleft, rfl⟩ := h
  have hall : ∀ axis', ∃ k' ≤ left axis', (axis' = axis → k' < left axis') ∧
      (m.step.2 axis').Ahead k' := by
    intro axis'
    by_cases hthis : axis' = axis
    · subst hthis
      obtain ⟨k', hlt, hafter⟩ := hnearer _ (hleft axis')
      exact ⟨k', hlt.le, fun _ => hlt, hafter⟩
    · obtain ⟨k', hle, hafter⟩ := (hleft axis').waiting (hsound axis') m.nextInterval
      exact ⟨k', hle, fun hsame => absurd hsame hthis, hafter⟩
  choose left' hle hlt hafter using hall
  refine ⟨_, ?_, hsound.step, left', hafter, rfl⟩
  have hpulley := hle .pulley
  have hselector := hle .selector
  have hidler := hle .idler
  have hthis := hlt axis rfl
  cases axis <;> omega

/-- If no axis is due, the next interrupt is for one that waits. -/
theorem Ahead.nextInterval_ne_zero {k : Nat} (h : m.Ahead (k + 1))
    (hnone : ∀ axis, ¬ (m axis).due = true) : m.nextInterval ≠ 0 := by
  obtain ⟨hsound, left, hleft, hsum⟩ := h
  intro hzero
  have hall : ∀ axis, left axis = 0 := by
    intro axis
    obtain ⟨moves, part, howes, hcount⟩ := hleft axis
    obtain ⟨hempty, hresidual⟩ :=
      (hsound axis).serves.rest.mp (nextInterval_eq_zero_iff.mp hzero axis)
    have hover : (m axis).residual = 0 := by
      by_contra hne
      exact hnone axis (TimedAxis.due_iff.mpr ⟨hresidual, .inl hne⟩)
    rw [hcount, howes.queueEmpty_iff.mp hempty, TimedAxis.stirs, if_pos ⟨hempty, hover⟩]
    exact Nat.zero_sub _
  have hpulley := hall .pulley
  have hselector := hall .selector
  have hidler := hall .idler
  omega

theorem Ahead.two {k : Nat} (h : m.Ahead (k + 1)) : ∃ k' ≤ k, m.step.2.step.2.Ahead k' := by
  have hfirst : ∀ {axis : Axis}, (∀ k, (m axis).Ahead k → ∃ k' < k, (m.step.2 axis).Ahead k') →
      ∃ k' ≤ k, m.step.2.step.2.Ahead k' := by
    intro axis hnearer
    obtain ⟨k', hlt, hafter⟩ := h.step_lt hnearer
    obtain ⟨k'', hle, hafter'⟩ := hafter.step
    exact ⟨k'', by omega, hafter'⟩
  by_cases hsome : ∃ axis, (m axis).due = true
  · obtain ⟨axis, hdue⟩ := hsome
    exact hfirst fun k hk => hk.serve_due (h.1 axis) hdue m.nextInterval
  · have hnone := not_exists.mp hsome
    have hnext := h.nextInterval_ne_zero hnone
    obtain ⟨axis, htimer⟩ := m.exists_closest
    have hclosest : ∀ k, (m axis).Ahead k →
        (m.step.2 axis).due = true ∨ ∃ k' < k, (m.step.2 axis).Ahead k' := by
      intro k hk
      have hstep := hk.serve_closest (hnone axis) (htimer ▸ hnext)
      rw [htimer] at hstep
      exact hstep
    by_cases hdue : (m.step.2 axis).due = true
    · obtain ⟨k', hle, hafter⟩ := h.step
      obtain ⟨k'', hlt, hafter'⟩ :=
        hafter.step_lt fun k hk => hk.serve_due (hafter.1 axis) hdue _
      exact ⟨k'', by omega, hafter'⟩
    · exact hfirst fun k hk => (hclosest k hk).resolve_left hdue

variable (sqrt : BitVec 32 → BitVec 32)

/-- The steps an interrupt takes of an axis. -/
def emitted (axis : Axis) : AxisTimers × Event → List Bool
  | (m, .interrupt) => if (m axis).due then (m axis).ctrl.step.1.pulses else []
  | _ => []

theorem atRest_of_ahead_zero (h : m.Ahead 0) (axis : Axis) :
    (m axis).ctrl.queueEmpty = true ∧ (m axis).AtRest := by
  obtain ⟨-, left, hleft, hsum⟩ := h
  have hnone : left axis = 0 := by cases axis <;> omega
  obtain ⟨moves, part, -, hcount⟩ := hleft axis
  have hstill : (m axis).stirs = 0 := by omega
  rw [TimedAxis.stirs] at hstill
  have hrest : (m axis).ctrl.queueEmpty = true ∧ (m axis).residual = 0 := by
    by_contra hstirs
    rw [if_neg hstirs] at hstill
    cases hstill
  refine ⟨hrest.1, hrest.1, ?_⟩
  rw [hrest.2]
  decide

/-- An interrupt delivers what it takes of the steps an axis owes, and plans nothing. -/
theorem delivers_interrupt (axis : Axis) {moves : List PulseGen.Move} {part : List Bool}
    (h : (m axis).ctrl.Owes moves part) :
    (m.step.2 axis).ctrl.position = (m axis).ctrl.position ∧
      ∃ moves' part', (m.step.2 axis).ctrl.Owes moves' part' ∧
        Delivers PulseGen.Move.pulses moves part [] (emitted axis (m, .interrupt)) moves'
          part' := by
  rw [step_eq, TimedAxis.waiting, TimedAxis.serve, emitted]
  by_cases hdue : (m axis).due = true
  · rw [if_pos hdue, if_pos hdue]
    exact h.step
  · rw [if_neg hdue, if_neg hdue]
    exact ⟨rfl, moves, part, h, .refl moves part⟩

theorem position_repeated (h : m.Sound) (axis : Axis) (n : Nat) :
    (Transducer.repeated (perform sqrt) .interrupt m n axis).ctrl.position =
      (m axis).ctrl.position := by
  induction n generalizing m with
  | zero => rfl
  | succ n ih =>
      obtain ⟨moves, part, howes⟩ := (h axis).ctrl.owes
      rw [Transducer.repeated_succ]
      exact (ih h.step).trans (delivers_interrupt axis howes).1

theorem delivers_repeated (axis : Axis) {moves : List PulseGen.Move} {part : List Bool}
    (h : (m axis).ctrl.Owes moves part) (n : Nat) :
    ∃ moves' part',
      (Transducer.repeated (perform sqrt) .interrupt m n axis).ctrl.Owes moves' part' ∧
        Delivers PulseGen.Move.pulses moves part []
          ((Transducer.steps (perform sqrt) m (List.replicate n .interrupt)).flatMap
            (emitted axis)) moves' part' := by
  obtain ⟨moves', part', howes, hdelivers⟩ :=
    Transducer.run_delivers (perform sqrt) (fun m moves part => (m axis).ctrl.Owes moves part)
      (fun _ event => event = .interrupt) (fun _ => []) (emitted axis)
      (fun m event moves part howes hevent => by
        subst hevent
        exact (delivers_interrupt axis howes).2) m (List.replicate n .interrupt) h
      fun p hp => List.eq_of_mem_replicate (Transducer.snd_mem_of_mem_steps _ hp)
  refine ⟨moves', part', howes, ?_⟩
  have hnothing : ((Transducer.steps (perform sqrt) m (List.replicate n .interrupt)).flatMap
      fun _ => ([] : List PulseGen.Move)) = [] := by simp
  rw [hnothing] at hdelivers
  exact hdelivers

/-- Whatever was planned, aborted and stepped before: once nothing more is planned every axis takes
all the steps that are outstanding, is where it was planned to be and at rest after a number of
interrupts that only depends on the number of these steps. -/
theorem axes_arrive (memory : Axis → PulseGen) (position : Axis → BitVec 32)
    (events : List Event) :
    let m := Transducer.run (perform sqrt) (start memory position) events
    ∃ (moves : Axis → List PulseGen.Move) (part : Axis → List Bool),
      (∀ axis, (m axis).ctrl.Owes (moves axis) (part axis)) ∧
      ∀ n, 2 * (PulseGen.stepsLeft (moves .pulley) (part .pulley) +
          PulseGen.stepsLeft (moves .selector) (part .selector) +
          PulseGen.stepsLeft (moves .idler) (part .idler) + 3) ≤ n →
        let calls := List.replicate n Event.interrupt
        let after := Transducer.run (perform sqrt) m calls
        after.step.1 = 0 ∧ ∀ axis,
          (after axis).ctrl.queueEmpty = true ∧
            (after axis).ctrl.curPosition = (m axis).ctrl.position ∧
            part axis ++ (Transducer.steps (perform sqrt) m calls).flatMap (emitted axis) =
              (moves axis).flatMap PulseGen.Move.pulses := by
  intro m
  have hsound : m.Sound :=
    Transducer.run_invariant (perform sqrt) (fun m _ => m.Sound) _ (sound_start memory position)
      (fun m _ event h => h.perform sqrt event) events
  choose moves part howes using fun axis => (hsound axis).ctrl.owes
  refine ⟨moves, part, howes, fun n hn => ?_⟩
  intro calls after
  have hahead : m.Ahead (PulseGen.stepsLeft (moves .pulley) (part .pulley) + (m .pulley).stirs +
      (PulseGen.stepsLeft (moves .selector) (part .selector) + (m .selector).stirs) +
      (PulseGen.stepsLeft (moves .idler) (part .idler) + (m .idler).stirs)) :=
    ⟨hsound, fun axis => PulseGen.stepsLeft (moves axis) (part axis) + (m axis).stirs,
      fun axis => ⟨moves axis, part axis, howes axis, rfl⟩, rfl⟩
  have hpulley := (m .pulley).stirs_le
  have hselector := (m .selector).stirs_le
  have hidler := (m .idler).stirs_le
  have harrived : after.Ahead 0 :=
    Transducer.ahead_zero_of_two (perform sqrt) .interrupt Ahead (fun m k h => h.step)
      (fun m k h => h.two) m _ hahead n (by omega)
  refine ⟨?_, fun axis => ?_⟩
  · exact nextInterval_eq_zero_iff.mpr fun axis =>
      (harrived.1 axis).serves.rest.mpr (atRest_of_ahead_zero harrived axis).2
  · obtain ⟨moves', part', howes', finished, hmoves, hpart⟩ :=
      delivers_repeated sqrt axis (howes axis) n
    have hempty := (atRest_of_ahead_zero harrived axis).1
    have hnil := howes'.queueEmpty_iff.mp hempty
    subst hnil
    rw [howes'.part_of_nil, List.append_nil] at hpart
    rw [List.append_nil, List.append_nil] at hmoves
    refine ⟨hempty, ?_, hpart.trans (by rw [hmoves])⟩
    exact (howes'.curPosition_of_empty hempty).trans (position_repeated sqrt hsound axis n)

end AxisTimers

end MmuFirmware
