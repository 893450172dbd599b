import MmuFirmware.Logic.NestedUnload

/-!
What the error code of a command tells. The code `OK` is meant for a command that has
finished; a tool change keeps it while it is unloading and shows the code of the unload
instead.
-/
namespace MmuFirmware

namespace Command

variable {δ : Type} {c : Command δ} {m : Modules}

/-- Only a finished command has the code `OK`. -/
def Candid (c : Command δ) : Prop := c.error = .ok → c.state = .ok

/-- Once the idler has disengaged there is an error code to be taken over. -/
def DefersError (c : Command δ) (m : Modules) : Prop :=
  c.state = .errDisengagingIdler → m.idler.disengaged → c.deferredErrorCode ≠ .ok

instance : Decidable (c.DefersError m) := inferInstanceAs (Decidable (_ → _ → _))

theorem candid_of_error (h : c.error ≠ .ok) : c.Candid := fun hok => absurd hok h

theorem Candid.error_ne_ok (h : c.Candid) {s : ProgressCode} (hstate : c.state = s)
    (hs : s ≠ .ok) : c.error ≠ .ok := fun hok => hs (hstate.symm.trans (h hok))

theorem error_errDisengagingIdler (h : c.error ≠ .ok) (hstate : c.state = .errDisengagingIdler)
    (hdefers : c.DefersError m) : (c.errDisengagingIdler m).1.error ≠ .ok := by
  rw [errDisengagingIdler]
  split
  · next hthere => exact hdefers hstate hthere
  · exact h

theorem error_unhandledState : (c.unhandledState m).2.1.error ≠ .ok :=
  show ErrorCode.internal ≠ .ok by decide

end Command

theorem ErrorCode.running_ne_ok : ErrorCode.running ≠ .ok := by decide

namespace UnloadFilament

variable {c : UnloadFilament} {m : Modules}

open Command ErrorCode

theorem reset_states (c : UnloadFilament) (m : Modules) :
    (reset c m).1.error ≠ .ok ∨ (reset c m).1 = c := by
  rw [reset]
  split
  · exact .inr rfl
  · exact .inl running_ne_ok

theorem candid_reset (h : c.Candid) : (reset c m).1.Candid := by
  rcases reset_states c m with herror | heq
  · exact candid_of_error herror
  · rwa [heq]

theorem error_goToRecheckFilamentAgainstFINDA (h : c.error ≠ .ok) :
    (goToRecheckFilamentAgainstFINDA c m).1.error ≠ .ok := by
  rw [goToRecheckFilamentAgainstFINDA]
  dsimp only
  split
  · exact running_ne_ok
  · exact h

theorem error_reset_of_pressed (hpressed : m.finda.pressed = true) :
    (reset c m).1.error ≠ .ok := by
  rw [reset, nothingLoaded, hpressed]
  exact running_ne_ok

theorem candid_stepInner (h : c.Candid) (hdefers : c.DefersError m) :
    (stepInner c m).2.1.Candid := by
  rw [stepInner]
  split
  · next hstate =>
      have herror := h.error_ne_ok hstate (by decide)
      dsimp only
      split
      · split
        · exact candid_of_error herror
        · split <;> exact candid_of_error herror
      · exact candid_of_error herror
  · next hstate =>
      have herror := h.error_ne_ok hstate (by decide)
      dsimp only
      split
      · split
        · exact candid_of_error herror
        · split
          · exact fun _ => rfl
          · exact candid_of_error herror
      · exact candid_of_error herror
  · split
    · exact fun _ => rfl
    · exact h
  · next hstate =>
      exact candid_of_error (error_errDisengagingIdler (h.error_ne_ok hstate (by decide)) hstate hdefers)
  · next hstate =>
      have herror := h.error_ne_ok hstate (by decide)
      dsimp only
      split
      · split
        · next hpressed => exact candid_of_error (error_reset_of_pressed hpressed)
        · split
          · exact h
          · exact candid_of_error (error_goToRecheckFilamentAgainstFINDA herror)
      · exact h
  · next hstate =>
      have herror := h.error_ne_ok hstate (by decide)
      dsimp only
      split
      · split <;> exact candid_of_error herror
      · exact candid_of_error herror
  · exact h
  · exact candid_of_error error_unhandledState

/-- A nested unload is not interrupted by failed modules, and keeps the code that is due. -/
structure Nested (c : UnloadFilament) : Prop where
  candid : c.Candid
  finished : c.state = .ok → c.error = .ok
  deferred : c.state = .errDisengagingIdler → c.deferredErrorCode ≠ .ok

theorem Nested.reset (h : c.Nested) : (UnloadFilament.reset c m).1.Nested := by
  refine ⟨candid_reset h.candid, ?_, ?_⟩
  all_goals
    rw [UnloadFilament.reset]
    split
  · exact h.finished
  · nofun
  · exact h.deferred
  · nofun

theorem finished_stepInner (h : c.Nested) :
    (stepInner c m).2.1.state = .ok → (stepInner c m).2.1.error = .ok := by
  rw [stepInner]
  split
  · dsimp only
    split
    · split
      · intro hstate
        cases hstate
      · split <;> intro hstate <;> cases hstate
    · exact h.finished
  · dsimp only
    split
    · split
      · intro hstate
        cases hstate
      · split
        · exact fun _ => rfl
        · intro hstate
          cases hstate
    · exact h.finished
  · split
    · exact fun _ => rfl
    · exact h.finished
  · rw [errDisengagingIdler]
    split
    · intro hstate
      cases hstate
    · exact h.finished
  · dsimp only
    split
    · split
      · exact Nested.finished (Nested.reset (m := m.consumeEvent.2.invalidateHoming) h)
      · split
        · exact h.finished
        · rw [goToRecheckFilamentAgainstFINDA]
          dsimp only
          split <;> intro hstate <;> cases hstate
    · exact h.finished
  · dsimp only
    split
    · split <;> intro hstate <;> cases hstate
    · exact h.finished
  · exact h.finished
  · intro hstate
    cases hstate

theorem deferred_stepInner (h : c.Nested) :
    (stepInner c m).2.1.state = .errDisengagingIdler →
      (stepInner c m).2.1.deferredErrorCode ≠ .ok := by
  have hdue : ∀ {ec : ErrorCode}, ec ≠ .ok → ∀ {c : UnloadFilament} {m : Modules},
      (c.goToErrDisengagingIdler ec m).1.deferredErrorCode ≠ .ok := fun h => h
  rw [stepInner]
  split
  · dsimp only
    split
    · split
      · exact fun _ => hdue (by decide)
      · split
        · exact fun _ => hdue (by decide)
        · intro hstate
          cases hstate
    · exact h.deferred
  · dsimp only
    split
    · split
      · exact fun _ => hdue (by decide)
      · split
        · intro hstate
          cases hstate
        · intro hstate
          cases hstate
    · exact h.deferred
  · split
    · intro hstate
      cases hstate
    · exact h.deferred
  · rw [errDisengagingIdler]
    split
    · intro hstate
      cases hstate
    · exact h.deferred
  · dsimp only
    split
    · split
      · exact Nested.deferred (Nested.reset (m := m.consumeEvent.2.invalidateHoming) h)
      · split
        · exact h.deferred
        · rw [goToRecheckFilamentAgainstFINDA]
          dsimp only
          split
          · intro hstate
            cases hstate
          · exact fun _ => hdue (by decide)
    · exact h.deferred
  · dsimp only
    split
    · split
      · exact fun _ => hdue (by decide)
      · intro hstate
        cases hstate
    · exact h.deferred
  · exact h.deferred
  · intro hstate
    cases hstate

theorem Nested.stepInner (h : c.Nested) : (UnloadFilament.stepInner c m).2.1.Nested :=
  ⟨candid_stepInner h.candid fun hstate _ => h.deferred hstate, finished_stepInner h,
    deferred_stepInner h⟩

theorem preserve_nested : Preserve Nested where
  reset _ h := h.reset
  reset2 {c} m h := by
    have hreset : (UnloadFilament.reset c m).1.Nested := h.reset
    exact ⟨hreset.candid, hreset.finished, hreset.deferred⟩
  stepInner _ h := h.stepInner

end UnloadFilament

namespace LoadFilament

variable {c : LoadFilament} {m : Modules}

open Command ErrorCode

theorem error_reset2 (feedPhaseLimited : Bool) : (reset2 c feedPhaseLimited m).1.error ≠ .ok := by
  rw [reset2]
  dsimp only
  split <;> exact running_ne_ok

theorem error_resetLimited (param : UInt8) : (resetLimited c param m).1.error ≠ .ok := by
  rw [resetLimited, checkToolIndex]
  by_cases hinvalid : param ≥ Config.toolCount
  · rw [if_pos hinvalid]
    exact show ErrorCode.invalidTool ≠ .ok by decide
  · rw [if_neg hinvalid]
    exact error_reset2 true

/-- A start that is refused leaves the state as it is. -/
theorem reset_states (c : LoadFilament) (param : UInt8) (m : Modules) :
    (reset c param m).2.1.error ≠ .ok ∨ (reset c param m).2.1.state = c.state := by
  rw [reset, checkToolIndex]
  by_cases hinvalid : param ≥ Config.toolCount
  · rw [if_pos hinvalid]
    exact .inr rfl
  · rw [if_neg hinvalid]
    dsimp only
    rw [if_neg (by decide)]
    split
    · exact .inr rfl
    · split
      · exact .inr rfl
      · exact .inl (error_reset2 false)

theorem candid_stepInner (h : c.Candid) (hdefers : c.DefersError m) :
    (stepInner c m).2.1.Candid := by
  rw [stepInner]
  split
  · next hstate =>
      have herror := h.error_ne_ok hstate (by decide)
      dsimp only
      split
      · split
        · exact candid_of_error herror
        · exact candid_of_error running_ne_ok
        · exact candid_of_error running_ne_ok
        · exact candid_of_error herror
      · exact candid_of_error herror
  · next hstate =>
      have herror := h.error_ne_ok hstate (by decide)
      dsimp only
      split
      · split
        · exact candid_of_error herror
        · split
          · exact candid_of_error (error_resetLimited _)
          · exact candid_of_error herror
      · exact candid_of_error herror
  · split
    · exact fun _ => rfl
    · exact h
  · exact h
  · next hstate =>
      exact candid_of_error
        (error_errDisengagingIdler (h.error_ne_ok hstate (by decide)) hstate hdefers)
  · dsimp only
    split
    · split
      · exact candid_of_error (error_reset2 false)
      · exact candid_of_error running_ne_ok
    · exact h
  · exact candid_of_error error_unhandledState

end LoadFilament

namespace CutFilament

variable {c : CutFilament} {m : Modules}

open Command ErrorCode

theorem moveSelector_error (slot : UInt8) : (moveSelector c slot m).1.error = c.error := by
  rw [moveSelector]
  dsimp only
  split <;> rfl

theorem error_selectFilamentSlot (h : c.error ≠ .ok) :
    (selectFilamentSlot c m).1.error ≠ .ok := by
  rw [selectFilamentSlot]
  dsimp only
  rwa [moveSelector_error]

theorem error_reset (param : UInt8) : (reset c param m).2.1.error ≠ .ok := by
  rw [reset, checkToolIndex]
  by_cases hinvalid : param ≥ Config.toolCount
  · rw [if_pos hinvalid]
    exact show ErrorCode.invalidTool ≠ .ok by decide
  · rw [if_neg hinvalid]
    dsimp only
    rw [if_neg (by decide)]
    split
    · exact running_ne_ok
    · exact error_selectFilamentSlot running_ne_ok

theorem candid_stepInner (h : c.Candid) (hdefers : c.DefersError m) :
    (stepInner c m).2.1.Candid := by
  have hbusy : ∀ {s : ProgressCode}, c.state = s → s ≠ .ok → c.error ≠ .ok := h.error_ne_ok
  rw [stepInner]
  split
  · next hstate =>
      have herror := hbusy hstate (by decide)
      dsimp only
      split
      · exact candid_of_error (error_selectFilamentSlot herror)
      · exact candid_of_error herror
  · next hstate =>
      have herror := hbusy hstate (by decide)
      split
      · dsimp only
        split
        · exact candid_of_error running_ne_ok
        · exact candid_of_error herror
      · exact h
  · next hstate =>
      have herror := hbusy hstate (by decide)
      dsimp only
      split
      · split <;> exact candid_of_error herror
      · exact candid_of_error herror
  · next hstate =>
      have herror := hbusy hstate (by decide)
      dsimp only
      split
      · split
        · exact candid_of_error herror
        · refine candid_of_error ?_
          dsimp only
          rwa [moveSelector_error]
      · exact candid_of_error herror
  · next hstate =>
      split
      · exact candid_of_error (hbusy hstate (by decide))
      · exact h
  · next hstate =>
      split
      · exact candid_of_error (hbusy hstate (by decide))
      · exact h
  · next hstate =>
      split
      · refine candid_of_error ?_
        dsimp only
        rw [moveSelector_error]
        exact hbusy hstate (by decide)
      · exact h
  · next hstate =>
      split
      · exact candid_of_error (hbusy hstate (by decide))
      · exact h
  · next hstate =>
      refine candid_of_error ?_
      dsimp only
      split <;> exact hbusy hstate (by decide)
  · split
    · exact fun _ => rfl
    · exact h
  · exact h
  · next hstate =>
      exact candid_of_error (error_errDisengagingIdler (hbusy hstate (by decide)) hstate hdefers)
  · dsimp only
    split
    · exact candid_of_error (error_reset _)
    · exact h
  · exact candid_of_error error_unhandledState

end CutFilament

namespace EjectFilament

variable {c : EjectFilament} {m : Modules}

open Command ErrorCode

theorem moveSelectorAside_eq :
    (moveSelectorAside c m).1.error = .running ∧ (moveSelectorAside c m).1.data = c.data := by
  rw [moveSelectorAside]
  generalize (if c.data.slot ≤ 2 then 4 else 0 : UInt8) = selectorParkedPos
  dsimp only
  split <;> exact ⟨rfl, rfl⟩

theorem error_moveSelectorAside : (moveSelectorAside c m).1.error ≠ .ok := by
  rw [moveSelectorAside_eq.1]
  exact running_ne_ok

theorem error_reset (param : UInt8) : (reset c param m).2.1.error ≠ .ok := by
  rw [reset, checkToolIndex]
  by_cases hinvalid : param ≥ Config.toolCount
  · rw [if_pos hinvalid]
    exact show ErrorCode.invalidTool ≠ .ok by decide
  · rw [if_neg hinvalid]
    dsimp only
    rw [if_neg (by decide)]
    split
    · exact running_ne_ok
    · exact error_moveSelectorAside

theorem candid_stepInner (h : c.Candid) (hdefers : c.DefersError m) :
    (stepInner c m).2.1.Candid := by
  have hbusy : ∀ {s : ProgressCode}, c.state = s → s ≠ .ok → c.error ≠ .ok := h.error_ne_ok
  rw [stepInner]
  split
  · next hstate =>
      dsimp only
      split
      · exact candid_of_error error_moveSelectorAside
      · exact candid_of_error (hbusy hstate (by decide))
  · next hstate =>
      split
      · exact candid_of_error (hbusy hstate (by decide))
      · exact h
  · next hstate =>
      split
      · exact candid_of_error (hbusy hstate (by decide))
      · exact h
  · next hstate =>
      split
      · exact candid_of_error (hbusy hstate (by decide))
      · exact h
  · next hstate =>
      exact candid_of_error (error_errDisengagingIdler (hbusy hstate (by decide)) hstate hdefers)
  · dsimp only
    split
    · split
      · exact fun _ => rfl
      · split
        · exact candid_of_error error_moveSelectorAside
        · exact h
    · exact h
  · exact h
  · exact candid_of_error error_unhandledState

end EjectFilament

namespace ToolChange

variable {c : ToolChange} {m : Modules} {param : UInt8}

open Command ErrorCode

/-- Only while it is unloading the code of a tool change may be `OK` as well. -/
def Candid (state : ProgressCode) (error : ErrorCode) : Prop :=
  error = .ok → state = .ok ∨ state = .unloadingFilament

/-- The resets that clear the error code without starting anything: there is nothing to do, or
the selector refuses to move. -/
def resetsSilently (param : UInt8) (m : Modules) : Bool :=
  param < Config.toolCount &&
    (nothingToDo param m ||
      m.filamentLoaded < .inSelector &&
        !(FeedToFinda.reset true
          ((m.setPrinterInCharge true).setFilamentLoaded param .inSelector)).1)

/-- The user asks to try again, and the reset this leads to is a silent one. -/
def retriesSilently (c : ToolChange) (m : Modules) : Bool :=
  let (ev, m) := m.consumeEvent
  let m := m.invalidateHoming
  c.state == .errWaitingForUser && ev == .middle &&
    (c.error == .fsensorTooEarly || c.error != .findaFlickers && m.finda.pressed) &&
    resetsSilently m.activeSlot m

theorem reset_states (c : ToolChange) (param : UInt8) (m : Modules) :
    (reset c param m).2.1.error ≠ .ok ∨ (reset c param m).2.1.state = .unloadingFilament ∨
      resetsSilently param m = true ∧
        ((reset c param m).2.1.state = c.state ∨
          (reset c param m).2.1.state = .errDisengagingIdler) := by
  rw [reset, resetsSilently, checkToolIndex]
  by_cases hinvalid : param ≥ Config.toolCount
  · rw [if_pos hinvalid]
    exact .inl (show ErrorCode.invalidTool ≠ .ok by decide)
  · have hvalid : param < Config.toolCount := UInt8.not_le.mp hinvalid
    rw [if_neg hinvalid]
    dsimp only
    rw [if_neg (by decide), decide_eq_true hvalid]
    cases nothingToDo param m with
    | true => exact .inr (.inr ⟨rfl, .inl rfl⟩)
    | false =>
        rw [if_neg (by decide)]
        split
        · exact .inr (.inl rfl)
        · next hloaded =>
            split
            · exact .inl running_ne_ok
            · next hrefused =>
                refine .inr (.inr ⟨?_, .inr rfl⟩)
                have hempty : m.filamentLoaded < .inSelector := UInt8.not_le.mp hloaded
                rw [Bool.not_eq_true] at hrefused
                rw [decide_eq_true hempty, hrefused]
                rfl

theorem error_goToFeedingToFinda : (goToFeedingToFinda c m).1.error ≠ .ok := by
  rw [goToFeedingToFinda]
  dsimp only
  split <;> exact running_ne_ok

theorem candid_reset (hsilent : resetsSilently param m = false) :
    Candid (reset c param m).2.1.state (reset c param m).2.1.error := by
  intro hok
  rcases reset_states c param m with herror | hunloading | ⟨htrue, -⟩
  · exact absurd hok herror
  · exact .inr hunloading
  · exact absurd (hsilent.symm.trans htrue) (by decide)

theorem candid_retry (hsilent : retriesSilently c m = false) (hstate : c.state = .errWaitingForUser)
    (hmiddle : m.consumeEvent.1 = .middle) :
    Candid (retry c m.consumeEvent.2).1.state (retry c m.consumeEvent.2).1.error := by
  rw [retriesSilently] at hsilent
  dsimp only at hsilent
  rw [hstate, hmiddle] at hsilent
  rw [retry]
  generalize m.consumeEvent.2.invalidateHoming = m' at hsilent ⊢
  have hgoes : Candid (goToFeedingToFinda c m').1.state (goToFeedingToFinda c m').1.error :=
    fun hok => absurd hok error_goToFeedingToFinda
  split
  · next hearly =>
      refine candid_reset ?_
      simpa [hearly] using hsilent
  · split
    · exact hgoes
    · next hflickers =>
        split
        · next hpressed =>
            refine candid_reset ?_
            simpa [hflickers, hpressed] using hsilent
        · exact hgoes

theorem candid_stepInner (h : Candid c.state c.error) (hdefers : c.DefersError m)
    (hsilent : retriesSilently c m = false) :
    Candid (stepInner c m).2.1.state (stepInner c m).2.1.error := by
  have hbusy : ∀ {s : ProgressCode}, c.state = s → s ≠ .ok → s ≠ .unloadingFilament →
      c.error ≠ .ok := by
    intro s hstate hs hunloading hok
    rcases h hok with heq | heq
    · exact hs (hstate.symm.trans heq)
    · exact hunloading (hstate.symm.trans heq)
  rw [stepInner]
  split
  · next hstate =>
      dsimp only
      split
      · exact fun hok => absurd hok error_goToFeedingToFinda
      · exact fun _ => .inr hstate
  · next hstate =>
      have herror := hbusy hstate (by decide) (by decide)
      dsimp only
      split
      · split
        · exact fun hok => absurd hok herror
        · exact fun hok => absurd hok running_ne_ok
      · exact fun hok => absurd hok herror
  · next hstate =>
      have herror := hbusy hstate (by decide) (by decide)
      dsimp only
      split
      · split
        · exact fun hok => absurd hok herror
        · exact fun hok => absurd hok herror
        · exact fun _ => .inl rfl
      · exact fun hok => absurd hok herror
  · exact h
  · next hstate =>
      have herror := hbusy hstate (by decide) (by decide)
      exact fun hok => absurd hok (error_errDisengagingIdler herror hstate hdefers)
  · next hstate =>
      dsimp only
      split
      · next hmiddle => exact candid_retry hsilent hstate hmiddle
      · exact h
  · exact fun hok => absurd hok error_unhandledState

/-- A refused start gets its code where the idler has disengaged. -/
theorem error_stepInner_of_disengaged (hstate : c.state = .errDisengagingIdler)
    (hthere : m.idler.disengaged = true) (hdefers : c.DefersError m) :
    (stepInner c m).2.1.error ≠ .ok := by
  rw [stepInner, hstate]
  dsimp only
  rw [Command.errDisengagingIdler, if_pos hthere]
  exact hdefers hstate hthere

end ToolChange

namespace CommandId

variable {id : CommandId} {c : id.Object} {m : Modules} {param : UInt8}

open Command

/-- The code `OK` is that of a finished command. Only a tool change has it as well while the
nested unload is in charge of the code. -/
def Candid : CommandId → ProgressCode → ErrorCode → Prop
  | .toolChange, state, error => ToolChange.Candid state error
  | _, state, error => error = .ok → state = .ok

/-- A retry that would clear the code without starting anything. -/
def retriesSilently : (id : CommandId) → id.Object → Modules → Bool
  | .toolChange, c, m => ToolChange.retriesSilently c m
  | _, _, _ => false

theorem Candid.of_error {state : ProgressCode} {error : ErrorCode} (h : error ≠ .ok) :
    id.Candid state error := by
  cases id <;> exact fun hok => absurd hok h

theorem Candid.of_ok {error : ErrorCode} : id.Candid .ok error := by
  cases id with
  | toolChange => exact fun _ => .inl rfl
  | startUp | noCommand | cutFilament | ejectFilament | home | loadFilament | moveSelector | setMode
  | unloadFilament => exact fun _ => rfl

theorem candid_stepInner (h : id.Candid c.state c.error) (hdefers : c.DefersError m)
    (hsilent : id.retriesSilently c m = false) :
    id.Candid (id.stepInner c m).2.1.state (id.stepInner c m).2.1.error := by
  cases id with
  | startUp =>
      show (StartUp.stepInner c m).2.1.error = .ok → (StartUp.stepInner c m).2.1.state = .ok
      rw [StartUp.stepInner]
      split
      · exact h
      · dsimp only
        split
        · split
          · exact fun _ => rfl
          · exact fun hok => absurd hok (show ErrorCode.findaVsEepromDisrepancy ≠ .ok by decide)
        · exact h
      · exact h
  | noCommand => exact h
  | cutFilament => exact CutFilament.candid_stepInner h hdefers
  | ejectFilament => exact EjectFilament.candid_stepInner h hdefers
  | home =>
      show (Home.stepInner c m).2.1.error = .ok → (Home.stepInner c m).2.1.state = .ok
      rw [Home.stepInner]
      split
      · split
        · exact fun _ => rfl
        · exact h
      · exact h
      · exact fun hok => absurd hok error_unhandledState
  | loadFilament => exact LoadFilament.candid_stepInner h hdefers
  | moveSelector =>
      show (MoveSelector.stepInner c m).2.1.error = .ok → (MoveSelector.stepInner c m).2.1.state = .ok
      rw [MoveSelector.stepInner]
      split
      · split
        · exact fun _ => rfl
        · exact h
      · exact h
      · exact fun hok => absurd hok error_unhandledState
  | setMode => exact h
  | toolChange => exact ToolChange.candid_stepInner h hdefers hsilent
  | unloadFilament => exact UnloadFilament.candid_stepInner h hdefers

end CommandId

end MmuFirmware
