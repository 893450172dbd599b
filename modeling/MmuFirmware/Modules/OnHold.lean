import MmuFirmware.Modules.Calls
import Mathlib.Tactic.ByContra

/-!
A movable on hold. The idler refuses whatever it is asked for until it is resumed. The
selector does not look at the hold when it is told to go to a slot: it refuses where FINDA is
pressed, and goes, or says that it does, where it is not.
-/
namespace MmuFirmware

/-- On hold, with nothing planned and the driver switched off. -/
structure Movable.Held {ε : Type} (m : Movable ε) : Prop where
  onHold : m.onHold = true
  queue : m.axis.blocks = []
  driver : m.axis.enabled = false

section Axis

variable {a : AxisData}

theorem enabled_disable (a : AxisData) : a.disable.enabled = false := by
  rw [AxisData.disable, AxisData.setEnabled]
  split
  · next h => exact h.symm
  · rfl

theorem blocks_disable (a : AxisData) : a.disable.blocks = a.blocks := by
  rw [AxisData.disable, AxisData.setEnabled]
  split <;> rfl

theorem enabled_initAxis (a : AxisData) : a.initAxis.2.enabled = false := by
  rw [AxisData.initAxis, AxisData.initDriver]
  dsimp only
  split <;> exact enabled_disable a

theorem blocks_initAxis (a : AxisData) : a.initAxis.2.blocks = a.blocks := by
  rw [AxisData.initAxis, AxisData.initDriver]
  dsimp only
  split <;> exact blocks_disable a

/-- An axis without moves does nothing. -/
theorem tick_of_blocks_eq_nil (i : AxisInput) (h : a.blocks = []) :
    a.tick i = { a with registers := i.registers } := by
  rw [AxisData.tick]
  generalize ha : ({ a with registers := i.registers } : AxisData) = a'
  have hblocks : a'.blocks = [] := by rw [← ha, h]
  induction i.pulses with
  | nil => rfl
  | cons p pulses ih =>
      rw [List.foldl_cons, AxisData.pulse, hblocks]
      exact ih

/-- Nothing done to an axis behind its movable's back adds a move to an empty queue. -/
theorem AxisCall.run_blocks (c : AxisCall) (h : a.blocks = []) :
    (c.run a).blocks = [] := by
  cases c with
  | tick i =>
      rw [AxisCall.run, tick_of_blocks_eq_nil i h]
      exact h
  | abortPlannedMoves => rfl
  | disable => exact (blocks_disable a).trans h
  | initAxis => exact (blocks_initAxis a).trans h
  | clearQueueFull | setMode | setIRun | setAcceleration => exact h

/-- What is done to an axis leaves it off and without moves. -/
theorem AxisCall.run_of_off (c : AxisCall) (hqueue : a.blocks = []) (hdriver : a.enabled = false) :
    (c.run a).blocks = [] ∧ (c.run a).enabled = false := by
  refine ⟨c.run_blocks hqueue, ?_⟩
  cases c with
  | tick i =>
      rw [AxisCall.run, tick_of_blocks_eq_nil i hqueue]
      exact hdriver
  | disable => exact enabled_disable a
  | initAxis => exact enabled_initAxis a
  | abortPlannedMoves | clearQueueFull | setMode | setIRun | setAcceleration => exact hdriver

end Axis

namespace Movable

variable {ε : Type} {m : Movable ε}

theorem held_holdOn (m : Movable ε) : m.holdOn.Held :=
  ⟨rfl, (blocks_disable _).trans rfl, enabled_disable _⟩

theorem Held.axis (h : m.Held) (c : AxisCall) : Held { m with axis := c.run m.axis } := by
  obtain ⟨hqueue, hdriver⟩ := c.run_of_off h.queue h.driver
  exact ⟨h.onHold, hqueue, hdriver⟩

theorem Held.isIn (h : m.Held) (s : MovableState) : m.isIn s = false := by
  rw [Movable.isIn, h.onHold]
  simp

theorem Held.planHome (h : m.Held) (sgThrs : UInt8) (plan : Movable ε → Movable ε) :
    (m.planHome sgThrs plan).1 = .refused ∧ (m.planHome sgThrs plan).2.Held := by
  rw [Movable.planHome]
  dsimp only
  rw [if_pos (by exact h.onHold)]
  exact ⟨rfl, h.onHold, h.queue, h.driver⟩

/-- What becomes of a position the movable is told to take for true. -/
theorem Held.setPosition (h : m.Held) (x : Int) (slot : UInt8) :
    Held (invalidateHoming (lookUp { m with axis := m.axis.setPosition x } slot)) :=
  ⟨h.onHold, h.queue, h.driver⟩

end Movable

namespace Idler

theorem planMoveInner_of_held {i : Idler} (h : Movable.Held i) (g : Globals) (slot : UInt8)
    (plannedOp : IdlerOperation) : i.planMoveInner g slot plannedOp = (.refused, i) := by
  rw [planMoveInner, if_pos (.inr h.onHold)]

/-- Until it is resumed the idler stays held and refuses every request. -/
theorem call_of_held {i : Idler} (h : Movable.Held i) (input : Globals × IdlerCall)
    (hresume : input.2 ≠ .resume) :
    Movable.Held (i.call input).1 ∧
      (input.2.isRequest → (i.call input).2 = .refused) := by
  obtain ⟨g, c⟩ := input
  cases c with
  | engage | partiallyDisengage | disengage =>
      have hrefused := planMoveInner_of_held h g
      simp only [call, IdlerCall.run, engage, partiallyDisengage, disengage, hrefused]
      exact ⟨h, fun _ => rfl⟩
  | planHome =>
      obtain ⟨hrefused, hheld⟩ := h.planHome (g.stallGuardThreshold .idler) (planHomingMoveForward g)
      exact ⟨hheld, fun _ => hrefused⟩
  | holdOn => exact ⟨Movable.held_holdOn i, nofun⟩
  | resume => exact absurd rfl hresume
  | invalidateHoming => exact ⟨⟨h.onHold, h.queue, h.driver⟩, nofun⟩
  | step =>
      have hstep : i.step g = i := by rw [step, if_pos h.onHold]
      simp only [call, IdlerCall.run, hstep]
      exact ⟨h, nofun⟩
  | init =>
      refine ⟨?_, nofun⟩
      simp only [call, IdlerCall.run, init]
      split
      · exact (h.planHome _ _).2
      · exact h.setPosition _ _
  | axis c => exact ⟨h.axis c, nofun⟩

end Idler

namespace Selector

/-- What a selector on hold needs to refuse a move. -/
def RefusesMove (s : Selector) (finda : Bool) (slot : UInt8) : Prop :=
  finda = true ∧ ¬ (s.currentSlot = slot ∧ s.homingValid = true)

theorem moveToSlot_of_held {s : Selector} (h : Movable.Held s) (g : Globals) {finda : Bool}
    {slot : UInt8} :
    (s.RefusesMove finda slot → (s.moveToSlot g finda slot).1 = .refused ∧
      Movable.Held (s.moveToSlot g finda slot).2) ∧
    (¬ s.RefusesMove finda slot → (s.moveToSlot g finda slot).1 = .accepted) := by
  have hback : Movable.isIn { s with plannedSlot := slot } .homeBack = false :=
    Movable.Held.isIn ⟨h.onHold, h.queue, h.driver⟩ _
  rw [moveToSlot, if_neg (by simp [h.isIn]), if_neg (by simp [hback])]
  constructor
  · rintro ⟨hfinda, hthere⟩
    rw [if_neg hthere, if_pos hfinda]
    exact ⟨rfl, h.onHold, h.queue, h.driver⟩
  · intro hgoes
    split
    · rfl
    · next hthere =>
        rw [if_neg fun hfinda => hgoes ⟨hfinda, hthere⟩]
        split <;> rfl

/-- Until it is resumed the selector stays held as long as it refuses to move. -/
theorem call_of_held {s : Selector} (h : Movable.Held s) (input : Surroundings × SelectorCall)
    (hresume : input.2 ≠ .resume)
    (hrefuses : ∀ slot, input.2 = .moveToSlot slot → s.RefusesMove input.1.finda slot) :
    Movable.Held (s.call input).1 ∧ (input.2.isRequest → (s.call input).2 = .refused) := by
  obtain ⟨e, c⟩ := input
  cases c with
  | moveToSlot slot =>
      obtain ⟨hrefused, hheld⟩ := (moveToSlot_of_held h e.globals).1 (hrefuses slot rfl)
      exact ⟨hheld, fun _ => hrefused⟩
  | planHome =>
      obtain ⟨hrefused, hheld⟩ :=
        h.planHome (e.globals.stallGuardThreshold .selector) planHomingMoveForward
      exact ⟨hheld, fun _ => hrefused⟩
  | holdOn => exact ⟨Movable.held_holdOn s, nofun⟩
  | resume => exact absurd rfl hresume
  | invalidateHoming => exact ⟨⟨h.onHold, h.queue, h.driver⟩, nofun⟩
  | step =>
      have hstep : s.step e.globals e.finda e.idlerHomingValid = s := by
        rw [step, if_pos h.onHold]
      simp only [call, SelectorCall.run, hstep]
      exact ⟨h, nofun⟩
  | init =>
      refine ⟨?_, nofun⟩
      simp only [call, SelectorCall.run, init]
      split
      · exact (h.planHome _ _).2
      · exact h.setPosition _ _
  | axis c => exact ⟨h.axis c, nofun⟩

end Selector

open Transducer in
/-- Between a hold and the next resume both movables refuse every request and stay as they
are if and only if the selector is told to move only where FINDA is pressed, and not to the
slot it is at. -/
theorem onHold_iff (i : Idler) (s : Selector) (idlerCalls : List (Globals × IdlerCall))
    (selectorCalls : List (Surroundings × SelectorCall))
    (hidler : ∀ c ∈ idlerCalls, c.2 ≠ .resume)
    (hselector : ∀ c ∈ selectorCalls, c.2 ≠ .resume) :
    ((∀ p ∈ steps Idler.call (Movable.holdOn i) idlerCalls,
        Movable.Held (p.1.call p.2).1 ∧ (p.2.2.isRequest → (p.1.call p.2).2 = .refused)) ∧
      ∀ p ∈ steps Selector.call (Movable.holdOn s) selectorCalls,
        Movable.Held (p.1.call p.2).1 ∧ (p.2.2.isRequest → (p.1.call p.2).2 = .refused)) ↔
      ∀ p ∈ steps Selector.call (Movable.holdOn s) selectorCalls,
        ∀ slot, p.2.2 = .moveToSlot slot → p.1.RefusesMove p.2.1.finda slot := by
  have hidlerSteps := (steps_guarantee Idler.call Movable.Held (fun _ c => c.2 ≠ .resume)
    (fun i c => Movable.Held (i.call c).1 ∧ (c.2.isRequest → (i.call c).2 = .refused))
    (fun i c hheld hresume => ⟨(i.call_of_held hheld c hresume).1, i.call_of_held hheld c hresume⟩)
    _ (Movable.held_holdOn i) idlerCalls
    fun p hp => hidler _ (snd_mem_of_mem_steps _ hp)).2
  constructor
  · rintro ⟨-, hrespected⟩
    have hrefuses := (steps_guarantee Selector.call Movable.Held
      (fun s c => Movable.Held (s.call c).1 ∧ (c.2.isRequest → (s.call c).2 = .refused))
      (fun s c => ∀ slot, c.2 = .moveToSlot slot → s.RefusesMove c.1.finda slot)
      (fun s c hheld hrespected => ?_) _ (Movable.held_holdOn s) selectorCalls hrespected).2
    · exact fun p hp => (hrefuses p hp).2
    · refine ⟨hrespected.1, fun slot hmove => ?_⟩
      by_contra hgoes
      have haccepted := (Selector.moveToSlot_of_held hheld c.1.globals).2 hgoes
      have hrefused := hrespected.2 (by rw [hmove]; rfl)
      rw [Selector.call, hmove] at hrefused
      exact absurd (haccepted.symm.trans hrefused) (by decide)
  · intro hrefuses
    refine ⟨fun p hp => (hidlerSteps p hp).2, ?_⟩
    have hrespected := (steps_guarantee Selector.call Movable.Held
      (fun s c => c.2 ≠ .resume ∧
        ∀ slot, c.2 = .moveToSlot slot → s.RefusesMove c.1.finda slot)
      (fun s c => Movable.Held (s.call c).1 ∧ (c.2.isRequest → (s.call c).2 = .refused))
      (fun s c hheld hassume => ?_) _ (Movable.held_holdOn s) selectorCalls
      fun p hp => ⟨hselector _ (snd_mem_of_mem_steps _ hp), hrefuses p hp⟩).2
    · exact fun p hp => (hrespected p hp).2
    · have hcall := s.call_of_held hheld c hassume.1 hassume.2
      exact ⟨hcall.1, hcall⟩

/-- The idler is asked to disengage, the selector to go to a slot while FINDA is pressed. -/
theorem onHold_iff_refused :
    Movable.Held (Selector.call (Movable.holdOn Selector.powerOn)
      (⟨.init .erased, true, false⟩, .moveToSlot 1)).1 := by
  have hrespected := ((onHold_iff .powerOn .powerOn [(.init .erased, .disengage)]
    [(⟨.init .erased, true, false⟩, .moveToSlot 1)] (by simp) (by simp)).mpr ?_).2
  · exact (hrespected _ List.mem_cons_self).1
  · simp only [Transducer.steps_cons, Transducer.steps_nil, List.mem_singleton, forall_eq]
    rintro slot ⟨⟩
    exact ⟨rfl, by decide⟩

/-- With a filament recorded and FINDA not pressed the selector leaves its hold and sets out. -/
theorem moveToSlot_leaves_hold :
    ¬ ∀ (s : Selector) (c : Surroundings × SelectorCall), c.2 ≠ .resume →
      Movable.Held (Selector.call (Movable.holdOn s) c).1 ∧
        (c.2.isRequest → (Selector.call (Movable.holdOn s) c).2 = .refused) := by
  intro h
  let g : Globals := .init { PermanentStorage.erased with filamentLoaded := some 0 }
  have hheld := (h .powerOn (⟨g, false, false⟩, .moveToSlot 1) (by simp)).1.onHold
  exact absurd hheld (by decide)

end MmuFirmware
