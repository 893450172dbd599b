import MmuFirmware.Modules.MotionAxis
import MmuFirmware.Hal.DriverSetup

/-!
The axes the main loop works with are implemented by the pulse generators, the driver objects
and the stepping interrupt: every run of these, whatever the interrupts and the chips do, is a
run of the axes, in which steps of the first block are executed and the DIAG pin is sampled
just when an interrupt steps the axis.
-/
namespace MmuFirmware

namespace AxisData

/-- A call on the axis, when the registers of its driver read as given. -/
def call (a : AxisData) (registers : TMCRegisters) : MotionAxis.Call → AxisData
  | .initAxis => ({ a with registers } : AxisData).initAxis.2
  | .setEnabled enabled => if enabled then a.setEnabled true else a.disable
  | .setMode mode => a.setMode mode
  | .stallGuardReset => a.stallGuardReset
  | .planStallGuardThreshold sgThrs => { a with sgThrs }
  | .setIRun iRun => { a with iRun }
  | .planMoveTo pos feedRate endRate => a.planMoveTo pos feedRate endRate
  | .setPosition pos => a.setPosition pos
  | .abortPlannedMoves _ => a.abortPlannedMoves
  | .checkForErrors => ({ a with registers } : AxisData).checkForErrors.2

def answer (a : AxisData) (registers : TMCRegisters) : MotionAxis.Call → Bool
  | .initAxis => ({ a with registers } : AxisData).initAxis.1
  | .checkForErrors => ({ a with registers } : AxisData).checkForErrors.1
  | _ => true

end AxisData

/-- What happens to the axes: a call on one of them, or steps of some of them with the sample
taken after. -/
inductive AxesEvent where
  | call (axis : Axis) (registers : TMCRegisters) (c : MotionAxis.Call)
  | pulses (steps : Axis → Option (Nat × Bool))

def performAxes (axes : Axis → AxisData) : AxesEvent → (Axis → AxisData) × Unit
  | .call axis registers c =>
      (fun axis' => if axis' = axis then (axes axis).call registers c else axes axis', ())
  | .pulses steps =>
      (fun axis =>
        match steps axis with
        | some (n, diag) => (axes axis).pulse n diag
        | none => axes axis, ())

/-- No move is longer than a word can say. -/
def PermitsAxes (axes : Axis → AxisData) : AxesEvent → Prop
  | .call axis _ (.planMoveTo pos _ _) => |pos - (axes axis).position| < 2 ^ 31
  | _ => True

instance (axes : Axis → AxisData) (event : AxesEvent) : Decidable (PermitsAxes axes event) :=
  match event with
  | .call axis _ (.planMoveTo pos _ _) =>
      inferInstanceAs (Decidable (|pos - (axes axis).position| < 2 ^ 31))
  | .call _ _ .initAxis | .call _ _ (.setEnabled _) | .call _ _ (.setMode _)
  | .call _ _ .stallGuardReset | .call _ _ (.planStallGuardThreshold _) | .call _ _ (.setIRun _)
  | .call _ _ (.setPosition _) | .call _ _ (.abortPlannedMoves _) | .call _ _ .checkForErrors
  | .pulses _ => inferInstanceAs (Decidable True)

namespace MotionAxis

variable {χ : Type*} (m : TMC2130.Chip χ) (sqrt : BitVec 32 → BitVec 32)

/-- What the registers of the driver read as, in the order they are read. -/
def registers (x : MotionAxis χ) : TMCRegisters :=
  let gstat := TMC2130.readRegister m x.chip .gstat
  { gstat := .ofBitVec gstat.1
    drvStatus := .ofBitVec (TMC2130.readRegister m gstat.2 .drvStatus).1
    ioin := .ofBitVec (TMC2130.readRegister m x.chip .ioin).1 }

/-- The axis is in the state its parts are in. -/
structure Implements (x : MotionAxis χ) (a : AxisData) : Prop where
  sound : x.timed.Sound
  queue : x.ctrl.Implements a
  threshold : x.drv.sgFilterThreshold.toNat = a.sgFilterThreshold
  counter : x.drv.sgFilterCounter.toNat = a.sgFilterCounter
  errorFlags : x.drv.errorFlags = a.errorFlags
  initialized : x.drv.initialized = a.initialized
  enabled : x.enabled = a.enabled
  drvEnabled : x.drv.enabled = a.enabled
  queueFull : x.queueFull = a.queueFull
  sgThrs : x.params.sgThrs = a.sgThrs.toBitVec
  iRun : x.currents.iRun = a.iRun.toBitVec

variable {m} {sqrt} {x : MotionAxis χ} {a : AxisData}

theorem Implements.setEnabled (h : x.Implements a) (enabled : Bool) :
    (x.setEnabled enabled).Implements (a.setEnabled enabled) := by
  rw [MotionAxis.setEnabled, AxisData.setEnabled, h.enabled]
  by_cases hsame : enabled = a.enabled
  · rw [if_neg (not_not.mpr hsame), if_pos hsame]
    exact h
  · have hother : x.drv.enabled ≠ enabled := by
      rw [h.drvEnabled]
      exact Ne.symm hsame
    rw [if_pos hsame, if_neg hsame, TMC2130.setEnabled, if_pos hother]
    exact ⟨h.sound, h.queue.congr rfl rfl, h.threshold, h.threshold, h.errorFlags,
      h.initialized, rfl, rfl, h.queueFull, h.sgThrs, h.iRun⟩

theorem Implements.needsQueueEmpty (h : x.Implements a) : x.Implements a.needsQueueEmpty :=
  ⟨h.sound, h.queue.congr rfl rfl, h.threshold, h.counter, h.errorFlags, h.initialized,
    h.enabled, h.drvEnabled, h.queueFull, h.sgThrs, h.iRun⟩

theorem Implements.disable (h : x.Implements a) : x.disable.Implements a.disable :=
  h.needsQueueEmpty.setEnabled false

theorem bitsSet_eq (register : BitVec 32) (mask : UInt32) :
    TMC2130.bitsSet register mask.toBitVec = testBits (.ofBitVec register) mask := by
  rw [Bool.eq_iff_iff, TMC2130.bitsSet, testBits, bne_iff_ne, bne_iff_ne, Ne, Ne,
    ← UInt32.toBitVec_inj]
  rfl

theorem foreign_iff (ioin : BitVec 32) :
    TMC2130.foreign ioin = true ↔
      (UInt32.ofBitVec ioin) >>> (24 : UInt32) ≠ 0x11 ∨
        testBits (.ofBitVec ioin) 0x40 = false := by
  rw [TMC2130.foreign, Bool.or_eq_true, bne_iff_ne, Ne, Ne, ← UInt32.toBitVec_inj, ← bitsSet_eq,
    TMC2130.bitsSet, bne_eq_false_iff_eq, beq_iff_eq]
  rfl

theorem Implements.initAxis (h : x.Implements a) :
    (x.initAxis m).2.Implements ({ a with registers := x.registers m } : AxisData).initAxis.2 ∧
      (x.initAxis m).1 = ({ a with registers := x.registers m } : AxisData).initAxis.1 := by
  have hdisabled :
      x.disable.Implements ({ a with registers := x.registers m } : AxisData).disable :=
    Implements.disable ⟨h.sound, h.queue.congr rfl rfl, h.threshold, h.counter, h.errorFlags,
      h.initialized, h.enabled, h.drvEnabled, h.queueFull, h.sgThrs, h.iRun⟩
  have hchip : x.disable.chip = x.chip := by
    rw [MotionAxis.disable, MotionAxis.setEnabled]
    split <;> rfl
  have hregisters : ({ a with registers := x.registers m } : AxisData).disable.registers =
      x.registers m := by
    rw [AxisData.disable, AxisData.setEnabled]
    split <;> rfl
  rw [MotionAxis.initAxis, AxisData.initAxis]
  generalize ({ a with registers := x.registers m } : AxisData).disable = a' at *
  dsimp only
  rw [TMC2130.init, AxisData.initDriver, hchip]
  dsimp only
  rw [hregisters]
  have hforeign : TMC2130.foreign (TMC2130.readRegister m x.chip .ioin).1 = true ↔
      (x.registers m).ioin >>> (24 : UInt32) ≠ 0x11 ∨
        testBits (x.registers m).ioin 0x40 = false := foreign_iff _
  by_cases hrecognised : TMC2130.foreign (TMC2130.readRegister m x.chip .ioin).1 = true
  · rw [if_pos hrecognised, if_pos (hforeign.mp hrecognised)]
    exact ⟨⟨hdisabled.sound, hdisabled.queue.congr rfl rfl, rfl, hdisabled.counter,
      hdisabled.errorFlags, rfl, hdisabled.enabled, hdisabled.drvEnabled, hdisabled.queueFull,
      hdisabled.sgThrs, hdisabled.iRun⟩, rfl⟩
  · rw [if_neg hrecognised, if_neg fun hf => hrecognised (hforeign.mpr hf)]
    refine ⟨⟨hdisabled.sound, hdisabled.queue.congr rfl rfl, rfl, hdisabled.counter, ?_, rfl,
      hdisabled.enabled, hdisabled.drvEnabled, hdisabled.queueFull, hdisabled.sgThrs,
      hdisabled.iRun⟩, rfl⟩
    dsimp only
    rw [hdisabled.errorFlags]

theorem Implements.checkForErrors (h : x.Implements a) :
    (x.checkForErrors m).2.Implements
        ({ a with registers := x.registers m } : AxisData).checkForErrors.2 ∧
      (x.checkForErrors m).1 =
        ({ a with registers := x.registers m } : AxisData).checkForErrors.1 := by
  rw [MotionAxis.checkForErrors, AxisData.checkForErrors, TMC2130.checkForErrors, h.initialized]
  dsimp only
  by_cases hinit : a.initialized = true
  · rw [if_pos hinit, if_pos hinit]
    refine ⟨⟨h.sound, h.queue.congr rfl rfl, h.threshold, h.counter, ?_, rfl,
      h.enabled, h.drvEnabled, h.queueFull, h.sgThrs, h.iRun⟩, ?_⟩
    · rw [h.errorFlags]
      simp only [registers, ← bitsSet_eq]
      rfl
    · rw [h.errorFlags]
      simp only [registers, ← bitsSet_eq]
      refine congrArg₂ _ ?_ rfl
      rw [Bool.eq_iff_iff, bne_iff_ne, bne_iff_ne, Ne, Ne, ← UInt32.toBitVec_inj]
      rfl
  · rw [if_neg hinit, if_neg hinit]
    exact ⟨⟨h.sound, h.queue.congr rfl rfl, h.threshold, h.counter, h.errorFlags,
      h.initialized, h.enabled, h.drvEnabled, h.queueFull, h.sgThrs, h.iRun⟩, rfl⟩

/-- The generator goes on as the axis does; the driver is left alone. -/
theorem Implements.ctrl (h : x.Implements a) {pg : PulseGen} {a' : AxisData}
    (hsound : pg.Sound) (hqueue : pg.Implements a')
    (hframe : ∃ position blocks topRate misused,
      a' = { a with position := position, blocks := blocks, topRate := topRate,
                    misused := misused }) :
    ({ x with ctrl := pg } : MotionAxis χ).Implements a' := by
  obtain ⟨position, blocks, topRate, misused, rfl⟩ := hframe
  exact ⟨⟨hsound, h.sound.bounded⟩, hqueue, h.threshold, h.counter, h.errorFlags, h.initialized,
    h.enabled, h.drvEnabled, h.queueFull, h.sgThrs, h.iRun⟩

theorem enable_eq (x : MotionAxis χ) :
    (if !x.enabled then x.setEnabled true else x) = x.setEnabled true := by
  rw [MotionAxis.setEnabled]
  cases x.enabled <;> rfl

theorem planMoveTo_eq (x : MotionAxis χ) (pos feedRate endRate : BitVec 32) :
    x.planMoveTo sqrt pos feedRate endRate =
      if x.ctrl.full then { x with queueFull := true }
      else
        ({ x with ctrl := (x.ctrl.planMoveTo sqrt pos feedRate endRate).2 } :
          MotionAxis χ).setEnabled true := by
  have haccepts : (x.ctrl.planMoveTo sqrt pos feedRate endRate).1 = !x.ctrl.full :=
    PulseGen.planMoveTo_accepts sqrt pos feedRate endRate
  rw [MotionAxis.planMoveTo]
  dsimp only
  rw [haccepts]
  cases hfull : x.ctrl.full with
  | true =>
      rw [PulseGen.planMoveTo_full sqrt hfull]
      rfl
  | false =>
      exact enable_eq { x with ctrl := (x.ctrl.planMoveTo sqrt pos feedRate endRate).2 }

theorem Implements.planMoveTo (h : x.Implements a) {pos : Int}
    (hdistance : |pos - a.position| < 2 ^ 31) (feedRate endRate : Nat) :
    (x.planMoveTo sqrt (BitVec.ofInt 32 pos) (BitVec.ofNat 32 feedRate)
      (BitVec.ofNat 32 endRate)).Implements (a.planMoveTo pos feedRate endRate) := by
  have hqueue := h.queue.planMoveTo sqrt hdistance feedRate endRate
  have hsound := h.sound.ctrl.perform sqrt
    (.planMoveTo (BitVec.ofInt 32 pos) (BitVec.ofNat 32 feedRate) (BitVec.ofNat 32 endRate))
  have hfull := h.queue.full_iff
  rw [planMoveTo_eq]
  rw [AxisData.planMoveTo] at hqueue ⊢
  by_cases hroom : x.ctrl.full = true
  · rw [PulseGen.planMoveTo_full sqrt hroom] at hqueue
    rw [if_pos (hfull.mp hroom)] at hqueue ⊢
    rw [if_pos hroom]
    exact ⟨h.sound, hqueue, h.threshold, h.counter, h.errorFlags,
      h.initialized, h.enabled, h.drvEnabled, rfl, h.sgThrs, h.iRun⟩
  · rw [if_neg fun hall => hroom (hfull.mpr hall)] at hqueue ⊢
    rw [if_neg hroom]
    by_cases hsame : pos = a.position
    · rw [if_pos hsame] at hqueue ⊢
      obtain ⟨hblocks, hat⟩ :=
        PulseGen.setEnabled_queue { a with topRate := max a.topRate feedRate } true
      exact (h.ctrl hsound (hqueue.congr hblocks.symm hat.symm) ⟨_, _, _, _, rfl⟩).setEnabled true
    · rw [if_neg hsame] at hqueue ⊢
      obtain ⟨hblocks, hat⟩ := PulseGen.setEnabled_queue
        { a with
          blocks := a.blocks ++ [{ steps := pos - a.position, feedRate, endRate }]
          position := pos
          topRate := max a.topRate feedRate } true
      exact (h.ctrl hsound (hqueue.congr hblocks.symm hat.symm) ⟨_, _, _, _, rfl⟩).setEnabled true

theorem Implements.call (h : x.Implements a) (c : Call)
    (hdistance : ∀ pos feedRate endRate, c = .planMoveTo pos feedRate endRate →
      |pos - a.position| < 2 ^ 31) :
    (x.call m sqrt c).Implements (a.call (x.registers m) c) ∧
      x.answer m c = a.answer (x.registers m) c := by
  cases c with
  | initAxis => exact h.initAxis
  | setEnabled enabled =>
      refine ⟨?_, rfl⟩
      cases enabled with
      | true => exact h.setEnabled true
      | false => exact h.disable
  | setMode mode =>
      exact ⟨⟨h.sound, h.queue.congr rfl rfl, h.threshold, h.counter, h.errorFlags,
        h.initialized, h.enabled, h.drvEnabled, h.queueFull, h.sgThrs, h.iRun⟩, rfl⟩
  | stallGuardReset =>
      exact ⟨⟨h.sound, h.queue.congr rfl rfl, h.threshold, h.threshold, h.errorFlags,
        h.initialized, h.enabled, h.drvEnabled, h.queueFull, h.sgThrs, h.iRun⟩, rfl⟩
  | planStallGuardThreshold sgThrs =>
      exact ⟨⟨h.sound, h.queue.congr rfl rfl, h.threshold, h.counter, h.errorFlags,
        h.initialized, h.enabled, h.drvEnabled, h.queueFull, rfl, h.iRun⟩, rfl⟩
  | setIRun iRun =>
      exact ⟨⟨h.sound, h.queue.congr rfl rfl, h.threshold, h.counter, h.errorFlags,
        h.initialized, h.enabled, h.drvEnabled, h.queueFull, h.sgThrs, rfl⟩, rfl⟩
  | planMoveTo pos feedRate endRate =>
      exact ⟨h.planMoveTo (hdistance pos feedRate endRate rfl) feedRate endRate, rfl⟩
  | setPosition pos =>
      exact ⟨h.ctrl (h.sound.ctrl.perform sqrt (.setPosition _)) (h.queue.setPosition pos)
        ⟨_, _, _, _, rfl⟩, rfl⟩
  | abortPlannedMoves halt =>
      exact ⟨h.ctrl (h.sound.ctrl.perform sqrt (.abortPlannedMoves halt))
        (h.queue.abortPlannedMoves halt) ⟨_, _, _, _, rfl⟩, rfl⟩
  | checkForErrors => exact h.checkForErrors

/-- The counter of the driver goes as that of the axis. -/
theorem counter_sampleDiag (a : AxisData) (diag : Bool) :
    (a.sampleDiag diag).sgFilterCounter =
      ReflectedWalk.drain a.sgFilterThreshold a.sgFilterCounter diag := by
  rw [AxisData.sampleDiag, ReflectedWalk.drain]
  split
  · next hempty => exact hempty
  · cases diag with
    | true => rfl
    | false =>
        simp only [Bool.false_eq_true, if_false]
        split <;> rfl

theorem sampleDiag_frame (a : AxisData) (diag : Bool) :
    a.sampleDiag diag = { a with sgFilterCounter := (a.sampleDiag diag).sgFilterCounter } := by
  rw [AxisData.sampleDiag]
  split
  · rfl
  · split
    · rfl
    · split <;> rfl

theorem isr_eq (drv : TMC2130) (diag : Bool) :
    drv.isr diag = { drv with sgFilterCounter := (drv.isr diag).sgFilterCounter } := by
  rw [TMC2130.isr]
  split
  · split
    · rfl
    · split <;> rfl
  · rfl

end MotionAxis

namespace Motion

variable {χ : Type*} (m : TMC2130.Chip χ) (sqrt : BitVec 32 → BitVec 32)

/-- What an event of the firmware amounts to for the axes: the steps an interrupt takes, where it
steps an axis, and calls that find the registers as they are. -/
def viewed (axes : Motion χ) : Event χ → AxesEvent
  | .call axis c => .call axis ((axes axis).registers m) c
  | .interrupt diag => .pulses fun axis =>
      if (axes axis).timed.due then some ((axes axis).ctrl.step.1.pulses.length, diag axis)
      else none
  | .sense _ _ => .pulses fun _ => none

variable {m} {sqrt} {axes : Motion χ} {abstract : Axis → AxisData}

theorem pulse_of_cons {a : AxisData} {b : Block} {rest : List Block}
    (hblocks : a.blocks = b :: rest) (n : Nat) (diag : Bool) :
    ∃ blocks, a.pulse n diag = ({ a with blocks } : AxisData).sampleDiag diag := by
  rw [AxisData.pulse, hblocks]
  exact ⟨_, rfl⟩

theorem serve_due {x : MotionAxis χ} (hdue : x.timed.due = true) :
    x.timed.serve.ctrl = x.ctrl.step.2 ∧
      x.timed.serve.interval = some x.ctrl.step.1.timer := by
  rw [TimedAxis.serve, if_pos hdue]
  exact ⟨rfl, rfl⟩

/-- What an interrupt makes of an axis it steps: steps of the first block, and a sample if there
was one. -/
theorem implements_due {x : MotionAxis χ} {a : AxisData} (h : x.Implements a)
    (hdue : x.timed.due = true) (diag : Bool) {residual : BitVec 16}
    (hsound : ({ ctrl := x.ctrl.step.2, residual } : TimedAxis).Sound) :
    ({ x with
        ctrl := x.timed.serve.ctrl
        residual := residual
        drv := if x.timed.serve.interval.getD 0 ≠ 0 then x.drv.isr diag else x.drv } :
      MotionAxis χ).Implements (a.pulse x.ctrl.step.1.pulses.length diag) := by
  have hctrl : x.ctrl.Sound := h.sound.ctrl
  have hserve := serve_due hdue
  obtain ⟨-, hidle, hbusy⟩ := hctrl.step
  have hqueue := h.queue.step diag
  rw [hserve.1, hserve.2, Option.getD_some]
  cases hblocks : a.blocks with
  | nil =>
      have hempty : x.ctrl.queueEmpty = true := by
        rw [h.queue.queueEmpty, AxisData.queueEmpty, hblocks]
        rfl
      have hpulse : a.pulse x.ctrl.step.1.pulses.length diag = a := by rw [AxisData.pulse, hblocks]
      rw [hpulse] at hqueue ⊢
      rw [if_neg (not_not.mpr (hidle hempty))]
      exact ⟨hsound, hqueue, h.threshold, h.counter, h.errorFlags, h.initialized, h.enabled,
        h.drvEnabled, h.queueFull, h.sgThrs, h.iRun⟩
  | cons b rest =>
      have hsome : x.ctrl.queueEmpty = false := by
        rw [h.queue.queueEmpty, AxisData.queueEmpty, hblocks]
        rfl
      have hmoved : x.ctrl.step.1.timer ≠ 0 := by
        intro hzero
        have hlow := (hbusy hsome).1
        rw [hzero] at hlow
        exact absurd hlow (by decide)
      obtain ⟨blocks, hpulse⟩ := pulse_of_cons hblocks x.ctrl.step.1.pulses.length diag
      rw [hpulse] at hqueue ⊢
      have hcounter := MotionAxis.counter_sampleDiag { a with blocks } diag
      rw [MotionAxis.sampleDiag_frame] at hqueue ⊢
      rw [if_pos hmoved, MotionAxis.isr_eq]
      refine ⟨hsound, hqueue, h.threshold, ?_, h.errorFlags, h.initialized, h.enabled,
        h.drvEnabled, h.queueFull, h.sgThrs, h.iRun⟩
      rw [hcounter, ← h.threshold, ← h.counter]
      exact x.drv.toNat_isr diag

theorem implements_interrupt (h : ∀ axis, (axes axis).Implements (abstract axis))
    (diag : Axis → Bool) (axis : Axis) :
    ((axes.step diag).2 axis).Implements
      ((performAxes abstract (axes.viewed m (.interrupt diag))).1 axis) := by
  have hsound : axes.timers.Sound := fun axis => (h axis).sound
  have hafter := hsound.step axis
  show MotionAxis.Implements _ (match (if (axes axis).timed.due then
    some ((axes axis).ctrl.step.1.pulses.length, diag axis) else none) with
    | some (n, d) => (abstract axis).pulse n d
    | none => abstract axis)
  by_cases hdue : (axes axis).timed.due = true
  · rw [if_pos hdue]
    have hctrl : (axes.timers axis).serve.ctrl = (axes axis).ctrl.step.2 := (serve_due hdue).1
    exact implements_due (h axis) hdue (diag axis) (hctrl ▸ hafter)
  · rw [if_neg hdue]
    have hserve : (axes.timers axis).serve = ⟨(axes axis).residual, none, (axes axis).ctrl⟩ :=
      if_neg hdue
    have hstep : (axes.step diag).2 axis =
        { axes axis with residual := (axes.timers.step.2 axis).residual } := by
      show ({ axes axis with
        ctrl := (axes.timers axis).serve.ctrl
        residual := (axes.timers.step.2 axis).residual
        drv := if (axes.timers axis).serve.interval.getD 0 ≠ 0 then
          (axes axis).drv.isr (diag axis) else (axes axis).drv } : MotionAxis χ) = _
      rw [hserve]
      rfl
    rw [hstep]
    exact ⟨⟨(h axis).sound.ctrl, hafter.bounded⟩, (h axis).queue, (h axis).threshold,
      (h axis).counter, (h axis).errorFlags, (h axis).initialized, (h axis).enabled,
      (h axis).drvEnabled, (h axis).queueFull, (h axis).sgThrs, (h axis).iRun⟩

/-- Each axis is in the state its parts are in. -/
def Implements (axes : Motion χ) (abstract : Axis → AxisData) : Prop :=
  ∀ axis, (axes axis).Implements (abstract axis)

theorem Implements.perform (h : axes.Implements abstract) (event : Event χ)
    (hpermits : PermitsAxes abstract (axes.viewed m event)) :
    (axes.perform m sqrt event).1.Implements (performAxes abstract (axes.viewed m event)).1 := by
  intro axis
  cases event with
  | call axis' c =>
      show MotionAxis.Implements (if axis = axis' then _ else axes axis)
        (if axis = axis' then _ else abstract axis)
      split
      · exact ((h axis').call c fun pos feedRate endRate heq => by
          subst heq
          exact hpermits).1
      · exact h axis
  | interrupt diag => exact implements_interrupt h diag axis
  | sense axis' chip =>
      show MotionAxis.Implements (if axis = axis' then _ else axes axis) (abstract axis)
      split
      · next heq =>
        subst heq
        exact ⟨(h axis).sound, (h axis).queue, (h axis).threshold, (h axis).counter,
          (h axis).errorFlags, (h axis).initialized, (h axis).enabled, (h axis).drvEnabled,
          (h axis).queueFull, (h axis).sgThrs, (h axis).iRun⟩
      · exact h axis

/-- What the rest of the firmware can see of an axis. -/
structure Agrees (m : TMC2130.Chip χ) (x : MotionAxis χ) (a : AxisData) : Prop where
  queueEmpty : x.ctrl.queueEmpty = a.queueEmpty
  plannedMoves : x.ctrl.plannedMoves.toNat = a.plannedMoves
  full : x.ctrl.full = true ↔ a.plannedMoves = Config.blockBufferSize
  position : x.ctrl.position = BitVec.ofInt 32 a.position
  curPosition : x.ctrl.curPosition = BitVec.ofInt 32 a.curPosition
  stallGuard : x.drv.stalled = a.stallGuard
  enabled : x.enabled = a.enabled
  errorFlags : x.drv.errorFlags = a.errorFlags
  queueFull : x.queueFull = a.queueFull
  answer : ∀ c, x.answer m c = a.answer (x.registers m) c

theorem agrees {x : MotionAxis χ} {a : AxisData} (h : x.Implements a) : Agrees m x a := by
  refine ⟨h.queue.queueEmpty, h.queue.plannedMoves, h.queue.full_iff, h.queue.position,
    h.queue.curPosition, ?_, h.enabled, h.errorFlags, h.queueFull, fun c => ?_⟩
  · rw [TMC2130.stalled, AxisData.stallGuard, ← h.counter, Bool.eq_iff_iff, beq_iff_eq, beq_iff_eq,
      BitVec.toNat_eq]
    rfl
  · cases c with
    | initAxis => exact h.initAxis.2
    | checkForErrors => exact h.checkForErrors.2
    | _ => rfl

/-- The axes as they are constructed. -/
def startAxes (params : Axis → TMC2130.MotorParams) (currents : Axis → TMC2130.MotorCurrents)
    (acceleration : Axis → Nat) : Axis → AxisData := fun axis =>
  { sgThrs := .ofBitVec (params axis).sgThrs
    iRun := .ofBitVec (currents axis).iRun
    acceleration := acceleration axis }

theorem implements_start (memory : Axis → PulseGen) (chip : Axis → χ)
    (params : Axis → TMC2130.MotorParams) (currents : Axis → TMC2130.MotorCurrents)
    (acceleration : Axis → Nat) :
    (start memory chip params currents).Implements (startAxes params currents acceleration) :=
  fun axis => ⟨⟨PulseGen.sound_start (memory axis) 0, Nat.zero_le _⟩,
    PulseGen.implements_start (memory axis) rfl rfl, rfl, rfl, rfl, rfl, rfl, rfl, rfl, rfl, rfl⟩

variable (m sqrt)

/-- Along every run, whatever the interrupts, the DIAG pins and the chips do: what the firmware
sees of the axes is what the axes of the main loop show after the same calls and after the
steps and samples of the interrupts, as long as no move is longer than a word can say. -/
theorem motion_refines (memory : Axis → PulseGen) (chip : Axis → χ)
    (params : Axis → TMC2130.MotorParams) (currents : Axis → TMC2130.MotorCurrents)
    (acceleration : Axis → Nat) (events : List (Event χ))
    (hpermits : ∀ p ∈ Transducer.steps performAxes (startAxes params currents acceleration)
      (Transducer.viewed (perform m sqrt) (viewed m) (start memory chip params currents) events),
      PermitsAxes p.1 p.2) :
    let after := Transducer.run (perform m sqrt) (start memory chip params currents) events
    let abstract := Transducer.run performAxes (startAxes params currents acceleration)
      (Transducer.viewed (perform m sqrt) (viewed m) (start memory chip params currents) events)
    ∀ axis, Agrees m (after axis) (abstract axis) := by
  intro after abstract axis
  have himplements : after.Implements abstract :=
    Transducer.run_refines (perform m sqrt) performAxes Implements (viewed m) (fun _ _ => True)
      PermitsAxes (fun _ _ event h _ hevent => h.perform event hevent) _ _
      (implements_start memory chip params currents acceleration) events (fun _ _ => trivial)
      hpermits
  exact agrees (himplements axis)

/-- Three steps of the selector, two of them with the DIAG pin active. -/
def threeSteps : List (Event ((TMC2130.Registers → BitVec 32) × BitVec 32)) :=
  [.call .selector .initAxis, .call .selector (.planMoveTo 3 200 0), .interrupt fun _ => true,
    .interrupt fun _ => true, .interrupt fun _ => false]

theorem motion_refines_three :
    let after := Transducer.run (perform TMC2130.plainChip id)
      (start (fun _ => { maxJerk := 200, acceleration := 1000 }) (fun _ => TMC2130.freshChip)
        (fun _ => ⟨5, 3⟩) fun _ => .of 31 0) threeSteps
    (after .selector).ctrl.curPosition = 3 ∧ (after .selector).drv.stalled = true := by
  have hagrees := motion_refines TMC2130.plainChip id
    (fun _ => { maxJerk := 200, acceleration := 1000 }) (fun _ => TMC2130.freshChip)
    (fun _ => ⟨5, 3⟩) (fun _ => .of 31 0) (fun _ => 1000) threeSteps (by decide +kernel) .selector
  exact ⟨hagrees.curPosition.trans (by decide +kernel),
    hagrees.stallGuard.trans (by decide +kernel)⟩

end Motion

end MmuFirmware
