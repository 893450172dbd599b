import MmuFirmware.Logic.Standstill
import MmuFirmware.Modules.ParkedSelector

/-!
The idler is held only where a command waits for the user, by itself or in its nested unload, or
where the base class has it wait. Whatever a command does next resumes the idler first.
-/
namespace MmuFirmware

namespace Modules

/-- The idler has not been put on hold. -/
def Loosens (m m' : Modules) : Prop := m'.idler.onHold = true → m.idler.onHold = true

variable {m m' m'' : Modules}

theorem Loosens.refl (m : Modules) : m.Loosens m := id

theorem loosens_of_onHold (h : m'.idler.onHold = m.idler.onHold) : m.Loosens m' := h.symm.trans

theorem Loosens.trans (h : m.Loosens m') (h' : m'.Loosens m'') : m.Loosens m'' := h ∘ h'

/-- What may happen to the idler where its planned moves are left alone. -/
def movesLeft : Movable.Occasion := ⟨True, False, False, False, False, True⟩

theorem loosens_of_changes (h : m.idler.Changes Idler.kind movesLeft m'.idler) : m.Loosens m' :=
  h.onHold not_false

theorem loosens_planHome (m : Modules) : m.Loosens (m.planHome .idler) :=
  loosens_of_changes (Idler.changes_planHome _)

theorem loosens_planMoveInner (m : Modules) (slot : UInt8) (plannedOp : IdlerOperation) :
    m.Loosens { m with idler := (m.idler.planMoveInner m.globals slot plannedOp).2 } :=
  loosens_of_changes (Idler.changes_planMoveInner _ _ _ fun _ => trivial)

theorem loosens_idlerEngage (m : Modules) (slot : UInt8) : m.Loosens (m.idlerEngage slot) :=
  loosens_planMoveInner m _ _

theorem loosens_idlerPartiallyDisengage (m : Modules) (slot : UInt8) :
    m.Loosens (m.idlerPartiallyDisengage slot) :=
  loosens_planMoveInner m _ _

theorem loosens_idlerDisengage (m : Modules) : m.Loosens m.idlerDisengage :=
  loosens_planMoveInner m _ _

end Modules

open Modules

section Automata

variable {m : Modules}

theorem FeedToFinda.loosens_reset (feedPhaseLimited : Bool) (m : Modules) :
    m.Loosens (reset feedPhaseLimited m).2.2 := by
  rw [reset]
  dsimp only
  split
  · exact loosens_of_onHold rfl
  · exact loosens_idlerEngage m _

theorem FeedToFinda.loosens_step (f : FeedToFinda) (m : Modules) : m.Loosens (f.step m).2.2 := by
  rw [step]
  split
  · split
    · dsimp only
      split <;> exact loosens_of_onHold rfl
    · exact loosens_of_onHold rfl
  · split
    · exact loosens_of_onHold rfl
    · split <;> exact loosens_of_onHold rfl
  · split
    · exact loosens_of_onHold rfl
    · split <;> exact loosens_of_onHold rfl
  · exact loosens_of_onHold rfl

theorem FeedToBondtech.loosens_step (f : FeedToBondtech) (m : Modules) :
    m.Loosens (f.step m).2.2 := by
  rw [step]
  split
  · split <;> exact loosens_of_onHold rfl
  · split
    · exact loosens_of_onHold rfl
    · split <;> exact loosens_of_onHold rfl
  · split
    · exact loosens_of_onHold rfl
    · split <;> exact loosens_of_onHold rfl
  · split
    · exact loosens_idlerPartiallyDisengage m _
    · exact loosens_of_onHold rfl
  · split
    · exact loosens_idlerDisengage m
    · exact loosens_of_onHold rfl
  · split <;> exact loosens_of_onHold rfl
  all_goals exact loosens_of_onHold rfl

theorem RetractFromFinda.loosens_step (f : RetractFromFinda) (m : Modules) :
    m.Loosens (f.step m).2.2 := by
  rw [step]
  split
  · split <;> exact loosens_of_onHold rfl
  · split
    · split <;> exact loosens_of_onHold rfl
    · exact loosens_of_onHold rfl
  all_goals exact loosens_of_onHold rfl

theorem UnloadToFinda.loosens_reset (f : UnloadToFinda) (maxTries : UInt8) (m : Modules) :
    m.Loosens (f.reset maxTries m).2 := by
  rw [reset]
  split
  · exact loosens_of_onHold rfl
  · exact loosens_idlerPartiallyDisengage m _

theorem UnloadToFinda.loosens_step (f : UnloadToFinda) (m : Modules) :
    m.Loosens (f.step m).2.2 := by
  rw [step]
  split
  · split
    · exact loosens_of_onHold rfl
    · split
      · split <;> exact loosens_of_onHold rfl
      · split
        · exact loosens_idlerEngage m _
        · exact loosens_of_onHold rfl
  · split <;> exact loosens_of_onHold rfl
  · split
    · exact loosens_of_onHold rfl
    · split
      · exact loosens_of_onHold rfl
      · split
        · split
          · exact loosens_reset f (f.maxTries - 1)
              { m with idler := Movable.invalidateHoming m.idler }
          · exact loosens_of_onHold rfl
        · exact loosens_of_onHold rfl
  all_goals exact loosens_of_onHold rfl

end Automata

section Commands

variable {δ : Type} {m m' : Modules}

/-- After a step the idler is held only where the command waits for the user, unless it was held
before and the command was not waiting. -/
def HeldFor (state : ProgressCode) (m : Modules) (state' : ProgressCode) (m' : Modules) : Prop :=
  m'.idler.onHold = true →
    state' = .errWaitingForUser ∨ state ≠ .errWaitingForUser ∧ m.idler.onHold = true

theorem Modules.Loosens.heldFor {state state' : ProgressCode} (h : m.Loosens m')
    (hstate : state ≠ .errWaitingForUser) : HeldFor state m state' m' :=
  fun hheld => .inr ⟨hstate, h hheld⟩

/-- What resumes the movables first. -/
theorem heldFor_of_resumed {state state' : ProgressCode} {m₁ : Modules} (h : m₁.Loosens m')
    (hresumed : m₁.idler.onHold = false) : HeldFor state m state' m' :=
  fun hheld => absurd ((h hheld).symm.trans hresumed) (by decide)

theorem Command.loosens_goToErrDisengagingIdler (c : Command δ) (ec : ErrorCode) (m : Modules) :
    m.Loosens (c.goToErrDisengagingIdler ec m).2 :=
  loosens_idlerDisengage m

theorem Command.heldFor_errDisengagingIdler {c : Command δ} {state : ProgressCode}
    (hstate : state = .errDisengagingIdler) :
    HeldFor state m (c.errDisengagingIdler m).1.state (c.errDisengagingIdler m).2 := by
  rw [errDisengagingIdler]
  split
  · exact fun _ => .inl rfl
  · exact (Loosens.refl m).heldFor (hstate ▸ (by decide))

namespace LoadFilament

theorem loosens_reset2 (c : LoadFilament) (feedPhaseLimited : Bool) (m : Modules) :
    m.Loosens (reset2 c feedPhaseLimited m).2 := by
  have hfeed := FeedToFinda.loosens_reset feedPhaseLimited m
  rw [reset2]
  dsimp only
  split
  · exact hfeed
  · exact hfeed.trans (Command.loosens_goToErrDisengagingIdler _ _ _)

theorem loosens_reset (c : LoadFilament) (param : UInt8) (m : Modules) :
    m.Loosens (reset c param m).2.2 := by
  rw [reset]
  dsimp only
  split
  · exact .refl m
  · split
    · exact .refl m
    · split
      · exact .refl m
      · exact loosens_reset2 _ false (m.setFilamentLoaded param .atPulley)

theorem loosens_resetLimited (c : LoadFilament) (param : UInt8) (m : Modules) :
    m.Loosens (resetLimited c param m).2 := by
  rw [resetLimited]
  dsimp only
  split
  · exact .refl m
  · exact loosens_reset2 _ true (m.setFilamentLoaded param .atPulley)

theorem loosens_goToRetractingFromFinda (c : LoadFilament) (m : Modules) :
    m.Loosens (goToRetractingFromFinda c m).2 :=
  loosens_idlerEngage m _

theorem heldFor_stepInner (c : LoadFilament) (m : Modules) :
    HeldFor c.state m (stepInner c m).2.1.state (stepInner c m).2.2 := by
  rw [stepInner]
  split
  · next hstate =>
      have hfeed := c.data.feed.loosens_step m
      refine Loosens.heldFor ?_ (hstate ▸ (by decide))
      dsimp only
      split
      · split
        · exact hfeed.trans (Command.loosens_goToErrDisengagingIdler _ _ _)
        · exact hfeed.trans (loosens_goToRetractingFromFinda _ _)
        · exact hfeed.trans (loosens_goToRetractingFromFinda _ _)
        · exact hfeed
      · exact hfeed
  · next hstate =>
      have hretract := c.data.retract.loosens_step m
      refine Loosens.heldFor ?_ (hstate ▸ (by decide))
      dsimp only
      split
      · split
        · exact hretract.trans (Command.loosens_goToErrDisengagingIdler _ _ _)
        · split
          · exact hretract.trans (loosens_resetLimited _ _ _)
          · exact hretract.trans (loosens_idlerDisengage _)
      · exact hretract
  · next hstate =>
      refine Loosens.heldFor ?_ (hstate ▸ (by decide))
      split <;> exact .refl m
  · next hstate => exact (Loosens.refl m).heldFor (hstate ▸ (by decide))
  · next hstate => exact Command.heldFor_errDisengagingIdler hstate
  · next hstate =>
      dsimp only
      split
      · split
        · exact heldFor_of_resumed (loosens_reset2 _ _ _) rfl
        · exact heldFor_of_resumed (loosens_goToRetractingFromFinda _ _) rfl
      · exact fun _ => .inl hstate
  · exact (Loosens.refl m).heldFor ‹_›

end LoadFilament

namespace UnloadFilament

theorem loosens_reset (c : UnloadFilament) (m : Modules) : m.Loosens (reset c m).2 := by
  rw [reset]
  split
  · exact .refl m
  · exact UnloadToFinda.loosens_reset c.data.unl maxRetries m.pulleyInitAxis

theorem loosens_goToRetractingFromFinda (c : UnloadFilament) (m : Modules) :
    m.Loosens (goToRetractingFromFinda c m).2 :=
  loosens_idlerEngage m _

theorem loosens_goToRecheckFilamentAgainstFINDA (c : UnloadFilament) (m : Modules) :
    m.Loosens (goToRecheckFilamentAgainstFINDA c m).2 := by
  have hfeed := FeedToFinda.loosens_reset true m
  rw [goToRecheckFilamentAgainstFINDA]
  dsimp only
  split
  · exact hfeed
  · exact hfeed.trans (Command.loosens_goToErrDisengagingIdler _ _ _)

theorem heldFor_stepInner (c : UnloadFilament) (m : Modules) :
    HeldFor c.state m (stepInner c m).2.1.state (stepInner c m).2.2 := by
  rw [stepInner]
  split
  · next hstate =>
      have hunload := c.data.unl.loosens_step m
      refine Loosens.heldFor ?_ (hstate ▸ (by decide))
      dsimp only
      split
      · split
        · exact hunload.trans (Command.loosens_goToErrDisengagingIdler _ _ _)
        · split
          · exact hunload.trans (Command.loosens_goToErrDisengagingIdler _ _ _)
          · exact hunload.trans (loosens_goToRetractingFromFinda _ _)
      · exact hunload
  · next hstate =>
      have hretract := c.data.retract.loosens_step m
      refine Loosens.heldFor ?_ (hstate ▸ (by decide))
      dsimp only
      split
      · split
        · exact hretract.trans (Command.loosens_goToErrDisengagingIdler _ _ _)
        · split
          · exact hretract
          · exact hretract.trans (loosens_idlerDisengage _)
      · exact hretract
  · next hstate =>
      refine Loosens.heldFor ?_ (hstate ▸ (by decide))
      split <;> exact .refl m
  · next hstate => exact Command.heldFor_errDisengagingIdler hstate
  · next hstate =>
      dsimp only
      split
      · split
        · exact heldFor_of_resumed (loosens_reset _ _) rfl
        · split
          · exact fun _ => .inl hstate
          · exact heldFor_of_resumed (loosens_goToRecheckFilamentAgainstFINDA _ _) rfl
      · exact fun _ => .inl hstate
  · next hstate =>
      have hfeed := c.data.feed.loosens_step m
      refine Loosens.heldFor ?_ (hstate ▸ (by decide))
      dsimp only
      split
      · split
        · exact hfeed.trans (Command.loosens_goToErrDisengagingIdler _ _ _)
        · exact hfeed.trans (loosens_goToRetractingFromFinda _ _)
      · exact hfeed
  · next hstate => exact (Loosens.refl m).heldFor (hstate ▸ (by decide))
  · exact (Loosens.refl m).heldFor ‹_›

/-- An unload that is the only one to have the idler held remains so. -/
theorem waiting_of_held {c : UnloadFilament}
    (h : m.idler.onHold = true → c.state = .errWaitingForUser)
    (hheld : (stepInner c m).2.2.idler.onHold = true) :
    (stepInner c m).2.1.state = .errWaitingForUser :=
  (heldFor_stepInner c m hheld).resolve_right fun hbefore => hbefore.1 (h hbefore.2)

end UnloadFilament

namespace ToolChange

theorem loosens_reset (c : ToolChange) (param : UInt8) (m : Modules) :
    m.Loosens (reset c param m).2.2 := by
  rw [reset]
  dsimp only
  split
  · exact .refl m
  · split
    · exact .refl m
    · split
      · exact UnloadFilament.loosens_reset _ (m.setPrinterInCharge true)
      · have hfeed := FeedToFinda.loosens_reset true
          ((m.setPrinterInCharge true).setFilamentLoaded param .inSelector)
        split
        · exact hfeed
        · exact hfeed.trans (Command.loosens_goToErrDisengagingIdler _ _ _)

theorem loosens_goToFeedingToFinda (c : ToolChange) (m : Modules) :
    m.Loosens (goToFeedingToFinda c m).2 := by
  have hfeed := FeedToFinda.loosens_reset true (m.setFilamentLoaded c.data.plannedSlot .atPulley)
  rw [goToFeedingToFinda]
  dsimp only
  split
  · exact hfeed
  · exact hfeed.trans (Command.loosens_goToErrDisengagingIdler _ _ _)

theorem loosens_retry (c : ToolChange) (m : Modules) :
    m.invalidateHoming.Loosens (retry c m).2 := by
  rw [retry]
  split
  · exact loosens_reset _ _ _
  · split
    · exact loosens_goToFeedingToFinda _ _
    · split
      · exact loosens_reset _ _ _
      · exact loosens_goToFeedingToFinda _ _

theorem heldFor_stepInner {c : ToolChange} (hunl : c.state ≠ .unloadingFilament) (m : Modules) :
    HeldFor c.state m (stepInner c m).2.1.state (stepInner c m).2.2 := by
  rw [stepInner]
  split
  · contradiction
  · next hstate =>
      have hfeed := c.data.feed.loosens_step m
      refine Loosens.heldFor ?_ (hstate ▸ (by decide))
      dsimp only
      split
      · split
        · exact hfeed.trans (Command.loosens_goToErrDisengagingIdler _ _ _)
        · exact hfeed.trans (loosens_idlerEngage _ _)
      · exact hfeed
  · next hstate =>
      have hjames := c.data.james.loosens_step m
      refine Loosens.heldFor ?_ (hstate ▸ (by decide))
      dsimp only
      split
      · split
        · exact hjames.trans (Command.loosens_goToErrDisengagingIdler _ _ _)
        · exact hjames.trans (Command.loosens_goToErrDisengagingIdler _ _ _)
        · exact hjames
      · exact hjames
  · next hstate => exact (Loosens.refl m).heldFor (hstate ▸ (by decide))
  · next hstate => exact Command.heldFor_errDisengagingIdler hstate
  · next hstate =>
      dsimp only
      split
      · exact heldFor_of_resumed (loosens_retry _ _) rfl
      · exact fun _ => .inl hstate
  · exact (Loosens.refl m).heldFor ‹_›

end ToolChange

namespace CutFilament

theorem loosens_moveSelector (c : CutFilament) (slot : UInt8) (m : Modules) :
    m.Loosens (moveSelector c slot m).2 := by
  rw [moveSelector]
  dsimp only
  split
  · exact Command.loosens_goToErrDisengagingIdler c _ (m.selectorMoveToSlot slot).2
  · exact .refl m

theorem loosens_selectFilamentSlot (c : CutFilament) (m : Modules) :
    m.Loosens (selectFilamentSlot c m).2 :=
  (loosens_idlerEngage m _).trans (loosens_moveSelector _ _ _)

theorem loosens_reset (c : CutFilament) (param : UInt8) (m : Modules) :
    m.Loosens (reset c param m).2.2 := by
  rw [reset]
  dsimp only
  split
  · exact .refl m
  · split
    · exact UnloadFilament.loosens_reset _ m
    · exact loosens_selectFilamentSlot _ m

theorem heldFor_stepInner {c : CutFilament} (hunl : c.state ≠ .unloadingFilament) (m : Modules) :
    HeldFor c.state m (stepInner c m).2.1.state (stepInner c m).2.2 := by
  rw [stepInner]
  split
  · contradiction
  · next hstate =>
      have hfeed := FeedToFinda.loosens_reset true
        (m.setFilamentLoaded c.data.cutSlot .atPulley)
      refine Loosens.heldFor ?_ (hstate ▸ (by decide))
      split
      · dsimp only
        split
        · exact hfeed
        · exact hfeed.trans (Command.loosens_goToErrDisengagingIdler _ _ _)
      · exact .refl m
  · next hstate =>
      have hfeed := c.data.feed.loosens_step m
      refine Loosens.heldFor ?_ (hstate ▸ (by decide))
      dsimp only
      split
      · split
        · exact hfeed.trans (Command.loosens_goToErrDisengagingIdler _ _ _)
        · exact hfeed.trans (loosens_idlerEngage _ _)
      · exact hfeed
  · next hstate =>
      have hretract := c.data.retract.loosens_step m
      refine Loosens.heldFor ?_ (hstate ▸ (by decide))
      dsimp only
      split
      · split
        · exact hretract.trans (Command.loosens_goToErrDisengagingIdler _ _ _)
        · exact hretract.trans (loosens_moveSelector _ _ _)
      · exact hretract
  · next hstate =>
      refine Loosens.heldFor ?_ (hstate ▸ (by decide))
      split <;> exact .refl m
  · next hstate =>
      refine Loosens.heldFor ?_ (hstate ▸ (by decide))
      split
      · exact loosens_idlerDisengage m
      · exact .refl m
  · next hstate =>
      refine Loosens.heldFor ?_ (hstate ▸ (by decide))
      split
      · exact loosens_moveSelector _ _ _
      · exact .refl m
  · next hstate =>
      refine Loosens.heldFor ?_ (hstate ▸ (by decide))
      split <;> exact .refl m
  · next hstate =>
      refine Loosens.heldFor ?_ (hstate ▸ (by decide))
      split <;> exact .refl m
  · next hstate =>
      refine Loosens.heldFor ?_ (hstate ▸ (by decide))
      split <;> exact .refl m
  · next hstate => exact (Loosens.refl m).heldFor (hstate ▸ (by decide))
  · next hstate => exact Command.heldFor_errDisengagingIdler hstate
  · next hstate =>
      dsimp only
      split
      · exact heldFor_of_resumed (loosens_reset _ _ _) rfl
      · exact fun _ => .inl hstate
  · exact (Loosens.refl m).heldFor ‹_›

end CutFilament

namespace EjectFilament

theorem loosens_moveSelectorAside (c : EjectFilament) (m : Modules) :
    m.Loosens (moveSelectorAside c m).2 := by
  rw [moveSelectorAside]
  generalize (if c.data.slot ≤ 2 then 4 else 0 : UInt8) = selectorParkedPos
  dsimp only
  split
  · exact Command.loosens_goToErrDisengagingIdler _ _ (m.selectorMoveToSlot selectorParkedPos).2
  · exact .refl m

theorem loosens_reset (c : EjectFilament) (param : UInt8) (m : Modules) :
    m.Loosens (reset c param m).2.2 := by
  rw [reset]
  dsimp only
  split
  · exact .refl m
  · split
    · exact UnloadFilament.loosens_reset _ m
    · exact loosens_moveSelectorAside _ m

theorem heldFor_stepInner {c : EjectFilament} (hunl : c.state ≠ .unloadingFilament)
    (m : Modules) : HeldFor c.state m (stepInner c m).2.1.state (stepInner c m).2.2 := by
  rw [stepInner]
  split
  · contradiction
  · next hstate =>
      refine Loosens.heldFor ?_ (hstate ▸ (by decide))
      split
      · exact loosens_idlerEngage m _
      · exact .refl m
  · next hstate =>
      refine Loosens.heldFor ?_ (hstate ▸ (by decide))
      split <;> exact .refl m
  · next hstate =>
      refine Loosens.heldFor ?_ (hstate ▸ (by decide))
      split
      · exact loosens_idlerDisengage m
      · exact .refl m
  · next hstate => exact Command.heldFor_errDisengagingIdler hstate
  · next hstate =>
      dsimp only
      split
      · split
        · exact heldFor_of_resumed (.refl _) rfl
        · split
          · exact heldFor_of_resumed (loosens_moveSelectorAside _ _) rfl
          · exact fun _ => .inl hstate
      · exact fun _ => .inl hstate
  · next hstate => exact (Loosens.refl m).heldFor (hstate ▸ (by decide))
  · exact (Loosens.refl m).heldFor ‹_›

end EjectFilament

/-- The start-up holds the idler where it has to wait. -/
theorem StartUp.waiting_of_reset {c : StartUp} (hfree : m.idler.onHold = false)
    (hheld : (reset c m).2.2.idler.onHold = true) :
    (reset c m).2.1.state = .errWaitingForUser := by
  have hchecked : (checkFINDAvsEEPROM m).2.idler = m.idler := by
    rw [checkFINDAvsEEPROM]
    split
    · rfl
    · split <;> rfl
  rw [reset] at hheld ⊢
  dsimp only at hheld ⊢
  split
  · next hok =>
      rw [if_pos hok, hchecked, hfree] at hheld
      cases hheld
  · rfl

theorem StartUp.heldFor_stepInner (c : StartUp) (m : Modules) :
    HeldFor c.state m (stepInner c m).2.1.state (stepInner c m).2.2 := by
  rw [stepInner]
  split
  · next hstate => exact (Loosens.refl m).heldFor (hstate ▸ (by decide))
  · next hstate =>
      dsimp only
      split
      · split
        · exact fun hheld => absurd hheld Bool.false_ne_true
        · exact fun _ => .inl rfl
      · exact fun _ => .inl hstate
  · exact (Loosens.refl m).heldFor ‹_›

theorem Home.loosens_stepInner (c : Home) (m : Modules) : m.Loosens (stepInner c m).2.2 := by
  rw [stepInner]
  split
  · split <;> exact .refl m
  all_goals exact .refl m

theorem MoveSelector.loosens_reset (c : MoveSelector) (param : UInt8) (m : Modules) :
    m.Loosens (reset c param m).2.2 := by
  rw [reset]
  dsimp only
  split <;> exact .refl m

theorem MoveSelector.loosens_stepInner (c : MoveSelector) (m : Modules) :
    m.Loosens (stepInner c m).2.2 := by
  rw [stepInner]
  split
  · split <;> exact .refl m
  all_goals exact .refl m

end Commands

namespace CommandId

variable {id : CommandId} {c : id.Object} {m : Modules}

/-- Where a command can find the idler held: it waits for the user, or has been stopped. -/
def MayHold (id : CommandId) (c : id.Object) : Prop :=
  c.state = .errInternal ∨ c.state = .errWaitingForUser ∨
    c.state = .unloadingFilament ∧ id.NestedWaits c

/-- A start resumes nothing and holds nothing, but that the start-up waits where FINDA and the
record of the filament disagree. -/
theorem mayHold_reset (hfree : m.idler.onHold = false) (param : UInt8)
    (hheld : (id.reset c param m).2.2.idler.onHold = true) :
    id.MayHold (id.reset c param m).2.1 := by
  have hheldless {m' : Modules} (h : m.Loosens m') (hheld' : m'.idler.onHold = true) : False :=
    absurd ((h hheld').symm.trans hfree) (by decide)
  cases id with
  | startUp => exact .inr (.inl (StartUp.waiting_of_reset hfree hheld))
  | cutFilament => exact (hheldless (CutFilament.loosens_reset c param m) hheld).elim
  | ejectFilament => exact (hheldless (EjectFilament.loosens_reset c param m) hheld).elim
  | loadFilament => exact (hheldless (LoadFilament.loosens_reset c param m) hheld).elim
  | toolChange => exact (hheldless (ToolChange.loosens_reset c param m) hheld).elim
  | unloadFilament => exact (hheldless (UnloadFilament.loosens_reset c m) hheld).elim
  | home => exact absurd hheld Bool.false_ne_true
  | moveSelector => exact (hheldless (MoveSelector.loosens_reset c param m) hheld).elim
  | noCommand | setMode => exact (hheldless (.refl m) hheld).elim

/-- A step of a command that runs its own part. -/
theorem mayHold_of_heldFor {c' : id.Object} {m' : Modules}
    (h : m.idler.onHold = true → id.MayHold c) (hinternal : c.state ≠ .errInternal)
    (hunl : c.state = .unloadingFilament → ¬ id.NestedWaits c)
    (hstep : HeldFor c.state m c'.state m') (hheld : m'.idler.onHold = true) : id.MayHold c' := by
  rcases hstep hheld with hwaits | ⟨hne, hbefore⟩
  · exact .inr (.inl hwaits)
  · rcases h hbefore with hstate | hstate | ⟨hstate, hnested⟩
    · exact absurd hstate hinternal
    · exact absurd hstate hne
    · exact absurd hnested (hunl hstate)

theorem mayHold_of_single {c' : id.Object} {m' : Modules} (hnested : id.nested c = none)
    (h : m.idler.onHold = true → id.MayHold c) (hinternal : c.state ≠ .errInternal)
    (hstep : HeldFor c.state m c'.state m') (hheld : m'.idler.onHold = true) : id.MayHold c' := by
  refine mayHold_of_heldFor h hinternal (fun _ => not_nestedWaits fun _ hunl => ?_) hstep hheld
  rw [hnested] at hunl
  exact absurd hunl (Option.not_mem_none _)

theorem nestedWaits_of_mayHold {unl : UnloadFilament} (hnested : id.nested c = some unl)
    (hstate : c.state = .unloadingFilament) (h : id.MayHold c) :
    unl.state = .errWaitingForUser := by
  rcases h with hstate' | hstate' | ⟨-, _, hunl, hwaits⟩
  · exact absurd (hstate.symm.trans hstate') (by decide)
  · exact absurd (hstate.symm.trans hstate') (by decide)
  · rw [hnested] at hunl
    cases hunl
    exact hwaits

/-- A step of a command that runs its nested unload, and goes on by itself once that is done. -/
theorem mayHold_of_unloading {unl : UnloadFilament} {c' : id.Object} {m' : Modules}
    (hnested : id.nested c = some unl) (hstate : c.state = .unloadingFilament)
    (h : m.idler.onHold = true → id.MayHold c)
    (hdone : (UnloadFilament.stepInner unl m).1 = true →
      (UnloadFilament.stepInner unl m).2.2.Loosens m')
    (hgoes : (UnloadFilament.stepInner unl m).1 = false →
      c'.state = .unloadingFilament ∧ id.nested c' = some (UnloadFilament.stepInner unl m).2.1 ∧
        m' = (UnloadFilament.stepInner unl m).2.2)
    (hheld : m'.idler.onHold = true) : id.MayHold c' := by
  have hwaits := UnloadFilament.waiting_of_held fun hbefore =>
    nestedWaits_of_mayHold hnested hstate (h hbefore)
  cases hd : (UnloadFilament.stepInner unl m).1 with
  | true => exact absurd (hwaits (hdone hd hheld)) (UnloadFilament.state_of_done hd)
  | false =>
      obtain ⟨hstate', hnested', rfl⟩ := hgoes hd
      exact .inr (.inr ⟨hstate', _, hnested', hwaits hheld⟩)

theorem mayHold_stepInner (h : m.idler.onHold = true → id.MayHold c)
    (hinternal : c.state ≠ .errInternal) (hheld : (id.stepInner c m).2.2.idler.onHold = true) :
    id.MayHold (id.stepInner c m).2.1 := by
  cases id with
  | toolChange =>
      by_cases hunl : c.state = .unloadingFilament
      · refine mayHold_of_unloading rfl hunl h ?_ ?_ hheld
        all_goals
          intro hdone
          simp only [stepInner]
          rw [ToolChange.stepInner, hunl]
          dsimp only
        · rw [if_pos hdone]
          exact ToolChange.loosens_goToFeedingToFinda _ _
        · rw [if_neg (by simp [hdone])]
          exact ⟨rfl, rfl, rfl⟩
      · exact mayHold_of_heldFor h hinternal (absurd · hunl)
          (ToolChange.heldFor_stepInner hunl m) hheld
  | cutFilament =>
      by_cases hunl : c.state = .unloadingFilament
      · refine mayHold_of_unloading rfl hunl h ?_ ?_ hheld
        all_goals
          intro hdone
          simp only [stepInner]
          rw [CutFilament.stepInner, hunl]
          dsimp only
        · rw [if_pos hdone]
          exact CutFilament.loosens_selectFilamentSlot _ _
        · rw [if_neg (by simp [hdone])]
          exact ⟨rfl, rfl, rfl⟩
      · exact mayHold_of_heldFor h hinternal (absurd · hunl)
          (CutFilament.heldFor_stepInner hunl m) hheld
  | ejectFilament =>
      by_cases hunl : c.state = .unloadingFilament
      · refine mayHold_of_unloading rfl hunl h ?_ ?_ hheld
        all_goals
          intro hdone
          simp only [stepInner]
          rw [EjectFilament.stepInner, hunl]
          dsimp only
        · rw [if_pos hdone]
          exact EjectFilament.loosens_moveSelectorAside _ _
        · rw [if_neg (by simp [hdone])]
          exact ⟨rfl, rfl, rfl⟩
      · exact mayHold_of_heldFor h hinternal (absurd · hunl)
          (EjectFilament.heldFor_stepInner hunl m) hheld
  | loadFilament =>
      exact mayHold_of_single rfl h hinternal (LoadFilament.heldFor_stepInner c m) hheld
  | unloadFilament =>
      exact mayHold_of_single rfl h hinternal (UnloadFilament.heldFor_stepInner c m) hheld
  | startUp =>
      exact mayHold_of_single rfl h hinternal (StartUp.heldFor_stepInner c m) hheld
  -- these do not handle the wait for the user, and report it
  | home =>
      by_cases hwaits : c.state = .errWaitingForUser
      · left
        rw [stepInner, Home.stepInner, hwaits]
        rfl
      · exact mayHold_of_single rfl h hinternal ((Home.loosens_stepInner c m).heldFor hwaits) hheld
  | moveSelector =>
      by_cases hwaits : c.state = .errWaitingForUser
      · left
        rw [stepInner, MoveSelector.stepInner, hwaits]
        rfl
      · exact mayHold_of_single rfl h hinternal
          ((MoveSelector.loosens_stepInner c m).heldFor hwaits) hheld
  | noCommand | setMode => exact h hheld

end CommandId

namespace Running

variable {id : CommandId} {r : Running id.Data} {axis : Axis} {ec : ErrorCode}

/-- The idler is held only for the command. -/
def HeldIdler (r : Running id.Data) : Prop :=
  r.modules.idler.onHold = true → id.MayHold r.command

theorem mayHold_of_waiting {c : id.Object} (hstate : c.state = .errWaitingForUser) :
    id.MayHold c := .inr (.inl hstate)

theorem HeldIdler.enterModuleFailure (h : r.HeldIdler) (ec : ErrorCode) :
    (r.enterModuleFailure ec).HeldIdler := by
  rw [Running.enterModuleFailure]
  split
  · exact fun _ => mayHold_of_waiting rfl
  · exact h

theorem HeldIdler.failAgain (h : r.HeldIdler) (ec : ErrorCode) : (r.failAgain ec).HeldIdler := by
  rw [Running.failAgain]
  split
  · exact fun _ => mayHold_of_waiting rfl
  · exact h

theorem HeldIdler.awaitHomingRequest (h : r.HeldIdler) (ec : ErrorCode) (axis : Axis) :
    (r.awaitHomingRequest ec axis).HeldIdler := by
  rw [Running.awaitHomingRequest]
  split
  · next hasked =>
      dsimp only
      split
      · intro hheld
        refine absurd ?_ Bool.false_ne_true
        cases axis with
        | pulley | selector => exact hheld
        | idler =>
            exact loosens_planHome r.modules.consumeEvent.2.resumeIdlerSelector hheld
      · exact fun _ => mayHold_of_waiting hasked.1
  · exact h

/-- What homes a module does not hold the idler. -/
theorem HeldIdler.recovered (h : r.HeldIdler) (hstate : r.command.state = .homing) :
    (r.recovered axis).HeldIdler := by
  intro hheld
  rcases h hheld with hstate' | hstate' | ⟨hstate', -⟩ <;>
    exact absurd (hstate.symm.trans hstate') (by decide)

theorem HeldIdler.waitForOne (h : r.HeldIdler) (ec : ErrorCode) (axis : Axis) :
    (r.waitForOneModuleErrorRecovery ec axis).2.HeldIdler := by
  rw [waitForOneModuleErrorRecovery]
  split
  · exact ((h.enterModuleFailure ec).failAgain ec).awaitHomingRequest ec axis
  · split
    · split
      · next hstate =>
          split
          · exact h.recovered hstate
          · exact h
      · exact h
    · exact h

theorem HeldIdler.waitForModules (h : r.HeldIdler) : r.waitForModulesErrorRecovery.2.HeldIdler :=
  ((h.waitForOne _ .idler).waitForOne _ .selector).waitForOne _ .pulley

theorem HeldIdler.step (h : r.HeldIdler) : (r.step id.stepInner).2.HeldIdler := by
  have hwaited := h.waitForModules
  rw [Running.step]
  generalize r.waitForModulesErrorRecovery = w at hwaited ⊢
  dsimp only
  split
  · exact hwaited
  · next hgo =>
      rw [not_or] at hgo
      exact fun hheld => CommandId.mayHold_stepInner hwaited hgo.2 hheld

end Running

end MmuFirmware
