import MmuFirmware.Logic.IdlerRequests
import MmuFirmware.Logic.NestedUnload
import MmuFirmware.Logic.Recovery

/-!
The composite commands ask the idler for something themselves and through their nested
unload; all commands together, by the virtual calls of the application.
-/
namespace MmuFirmware

open Modules

/-- A nested unload waits for the idler only while its owner runs it. -/
def NestedQuiet (state : ProgressCode) (awaited : Option IdlerOperation) : Prop :=
  state = .unloadingFilament ∨ state = .errInternal ∨ awaited = none

section NestedQuiet

variable {state state' : ProgressCode} {awaited : Option IdlerOperation}

theorem NestedQuiet.congr (h : NestedQuiet state awaited)
    (hunloading : state ≠ .unloadingFilament)
    (hinternal : state = .errInternal → state' = .errInternal) : NestedQuiet state' awaited := by
  rcases h with h | h | h
  · exact absurd h hunloading
  · exact .inr (.inl (hinternal h))
  · exact .inr (.inr h)

theorem NestedQuiet.idle (h : NestedQuiet state awaited) (hunloading : state ≠ .unloadingFilament)
    (hinternal : state ≠ .errInternal) : awaited = none :=
  (h.resolve_left hunloading).resolve_left hinternal

end NestedQuiet

namespace EjectFilament

variable {c : EjectFilament} {m : Modules}

def awaits (c : EjectFilament) : Option IdlerOperation :=
  match c.state with
  | .unloadingFilament => c.data.unl.awaits
  | .engagingIdler => some .engage
  | .errDisengagingIdler => some .disengage
  | _ => none

def moveSelectorAsideAsks (c : EjectFilament) (m : Modules) : Option IdlerRequest :=
  if (m.selectorMoveToSlot (if c.data.slot ≤ 2 then 4 else 0)).1 = .refused then
    some ⟨m.idler, .disengage⟩
  else none

def resetAsks (c : EjectFilament) (param : UInt8) (m : Modules) : Option IdlerRequest :=
  if param ≥ Config.toolCount then none
  else if m.filamentLoaded ≥ .atPulley then UnloadFilament.resetAsks m
  else moveSelectorAsideAsks { c with data := { c.data with slot := param } } m

/-- The last request of a step. -/
def asks (c : EjectFilament) (m : Modules) : Option IdlerRequest :=
  match c.state with
  | .unloadingFilament =>
      let (done, unl, m') := UnloadFilament.stepInner c.data.unl m
      if done then moveSelectorAsideAsks { c with data := { c.data with unl := unl } } m'
      else c.data.unl.asks m
  | .parkingSelector => if m.queueEmpty then some ⟨m.idler, .engage⟩ else none
  | .ejectingFilament => if m.queueEmpty then some ⟨m.idler, .disengage⟩ else none
  | .errWaitingForUser =>
      let (ev, m) := m.consumeEvent
      if ev = .middle then
        let m := m.resumeIdlerSelector
        if c.error = .filamentEjected then none
        else if c.error = .findaFlickers then moveSelectorAsideAsks c m
        else none
      else none
  | _ => none

theorem awaits_of_errWaitingForUser (hstate : c.state = .errWaitingForUser) :
    c.awaits = none := by
  rw [awaits, hstate]

theorem schedules_moveSelectorAside (h : AllHeard (moveSelectorAsideAsks c m)) :
    (moveSelectorAside c m).2.Schedules (moveSelectorAside c m).1.awaits := by
  rw [moveSelectorAsideAsks] at h
  rw [moveSelectorAside]
  generalize (if c.data.slot ≤ 2 then 4 else 0 : UInt8) = selectorParkedPos at h ⊢
  dsimp only at h ⊢
  split
  · next hrefused =>
      rw [if_pos hrefused, allHeard_some] at h
      exact Command.schedules_goToErrDisengagingIdler h
  · exact schedules_none

theorem schedules_reset {param : UInt8} (hidle : c.awaits = none)
    (hnested : c.data.unl.awaits = none) (h : AllHeard (resetAsks c param m)) :
    (reset c param m).2.2.Schedules (reset c param m).2.1.awaits := by
  rw [reset, Command.checkToolIndex]
  rw [resetAsks] at h
  by_cases hinvalid : param ≥ Config.toolCount
  · rw [if_pos hinvalid]
    exact schedules_of_idle hidle
  · rw [if_neg hinvalid] at h ⊢
    dsimp only
    rw [if_neg (by decide)]
    split
    · next hloaded =>
        rw [if_pos hloaded] at h
        exact UnloadFilament.schedules_reset hnested h
    · next hempty =>
        rw [if_neg hempty] at h
        exact schedules_moveSelectorAside h

theorem schedules_stepInner (h : m.Schedules c.awaits) (hheard : AllHeard (c.asks m)) :
    (stepInner c m).2.2.Schedules (stepInner c m).2.1.awaits := by
  rw [stepInner]
  rw [asks] at hheard
  split
  · next hstate =>
      rw [hstate] at hheard
      rw [awaits, hstate] at h
      dsimp only at hheard h ⊢
      split
      · next hdone =>
          rw [if_pos hdone] at hheard
          exact schedules_moveSelectorAside hheard
      · next hgoes =>
          rw [if_neg hgoes] at hheard
          rw [awaits]
          dsimp only
          rw [hstate]
          exact UnloadFilament.schedules_stepInner h hheard
  · next hstate =>
      rw [hstate] at hheard
      split
      · next hempty =>
          dsimp only at hheard
          rw [if_pos hempty, allHeard_some] at hheard
          exact schedules_idlerEngage _ hheard
      · exact h
  · split
    · exact schedules_none
    · exact h
  · next hstate =>
      rw [hstate] at hheard
      split
      · next hempty =>
          dsimp only at hheard
          rw [if_pos hempty, allHeard_some] at hheard
          exact Command.schedules_goToErrDisengagingIdler hheard
      · exact h
  · exact Command.schedules_errDisengagingIdler (fun _ => awaits_of_errWaitingForUser) h
  · next hstate =>
      rw [hstate] at hheard
      dsimp only at hheard ⊢
      split
      · next hmiddle =>
          rw [if_pos hmiddle] at hheard
          split
          · exact schedules_none
          · next hejected =>
              rw [if_neg hejected] at hheard
              split
              · next hflickers =>
                  rw [if_pos hflickers] at hheard
                  exact schedules_moveSelectorAside hheard
              · exact schedules_of_idle (awaits_of_errWaitingForUser hstate)
      · exact schedules_of_idle (awaits_of_errWaitingForUser hstate)
  · exact h
  · exact schedules_none

theorem nestedQuiet_reset {param : UInt8} (hnested : c.data.unl.awaits = none) :
    NestedQuiet (reset c param m).2.1.state (reset c param m).2.1.data.unl.awaits := by
  rw [reset, Command.checkToolIndex]
  by_cases hinvalid : param ≥ Config.toolCount
  · rw [if_pos hinvalid]
    exact .inr (.inr hnested)
  · rw [if_neg hinvalid]
    dsimp only
    rw [if_neg (by decide)]
    split
    · exact .inl rfl
    · rw [moveSelectorAside_unl]
      exact .inr (.inr hnested)

theorem nestedQuiet_stepInner (h : NestedQuiet c.state c.data.unl.awaits) :
    NestedQuiet (stepInner c m).2.1.state (stepInner c m).2.1.data.unl.awaits := by
  by_cases hstate : c.state = .unloadingFilament
  · rw [stepInner, hstate]
    dsimp only
    split
    · next hdone =>
        rw [moveSelectorAside_unl]
        exact .inr (.inr (UnloadFilament.awaits_of_done hdone))
    · exact .inl rfl
  · rw [stepInner_unl hstate]
    refine h.congr hstate fun hinternal => ?_
    rw [stepInner, hinternal]
    rfl

end EjectFilament

namespace CutFilament

variable {c : CutFilament} {m : Modules}

def awaits (c : CutFilament) : Option IdlerOperation :=
  match c.state with
  | .unloadingFilament => c.data.unl.awaits
  | .selectingFilamentSlot => some .engage
  | .feedingToFinda => c.data.feed.awaits
  | .retractingFromFinda => c.data.retract.awaits
  | .disengagingIdler | .errDisengagingIdler => some .disengage
  | _ => none

def moveSelectorAsks (slot : UInt8) (m : Modules) : Option IdlerRequest :=
  if (m.selectorMoveToSlot slot).1 ≠ .accepted then some ⟨m.idler, .disengage⟩ else none

/-- The idler is asked to engage first, and to disengage again where the selector refuses. -/
def selectFilamentSlotAsks (c : CutFilament) (m : Modules) : Option IdlerRequest :=
  let m' := m.idlerEngage c.data.cutSlot
  if (m'.selectorMoveToSlot c.data.cutSlot).1 ≠ .accepted then some ⟨m'.idler, .disengage⟩
  else some ⟨m.idler, .engage⟩

def resetAsks (c : CutFilament) (param : UInt8) (m : Modules) : Option IdlerRequest :=
  if param ≥ Config.toolCount then none
  else if m.filamentLoaded ≥ .inSelector then UnloadFilament.resetAsks m
  else selectFilamentSlotAsks { c with data := { c.data with cutSlot := param } } m

/-- The last request of a step. -/
def asks (c : CutFilament) (m : Modules) : Option IdlerRequest :=
  match c.state with
  | .unloadingFilament =>
      let (done, unl, m') := UnloadFilament.stepInner c.data.unl m
      if done then selectFilamentSlotAsks { c with data := { c.data with unl := unl } } m'
      else c.data.unl.asks m
  | .selectingFilamentSlot =>
      if m.idler.engaged ∧ m.selector.currentSlot = c.data.cutSlot then
        FeedToFinda.resetAsks (m.setFilamentLoaded c.data.cutSlot .atPulley)
      else none
  | .feedingToFinda =>
      let (done, feed, m) := c.data.feed.step m
      if done then
        if feed.state = .failed then some ⟨m.idler, .disengage⟩ else some ⟨m.idler, .engage⟩
      else none
  | .retractingFromFinda =>
      let (done, retract, m) := c.data.retract.step m
      if done then
        if retract.state = .failed then some ⟨m.idler, .disengage⟩
        else
          moveSelectorAsks (c.data.cutSlot + 1)
            (m.setFilamentLoaded c.data.cutSlot .atPulley).activeSlotProcessing
      else none
  | .pushingFilament => if m.queueEmpty then some ⟨m.idler, .disengage⟩ else none
  | .disengagingIdler =>
      if m.idler.disengaged then
        let m :=
          { m with selector := { m.selector with axis := m.selector.axis.initAxis.2 } }
        let g := m.globals
        moveSelectorAsks c.data.cutSlot
          { m with globals := { g with selectorFeedrate := g.selectorHomingFeedrate } }
      else none
  | .errWaitingForUser =>
      let (ev, m) := m.consumeEvent
      if ev = .middle then resetAsks c c.data.cutSlot m.invalidateHoming else none
  | _ => none

theorem awaits_of_errWaitingForUser (hstate : c.state = .errWaitingForUser) :
    c.awaits = none := by
  rw [awaits, hstate]

/-- The selector moves where the command waits for nothing of the idler. -/
theorem schedules_moveSelector {slot : UInt8} (h : AllHeard (moveSelectorAsks slot m))
    (hidle : c.awaits = none) :
    (moveSelector c slot m).2.Schedules (moveSelector c slot m).1.awaits := by
  rw [moveSelectorAsks] at h
  rw [moveSelector]
  dsimp only
  split
  · next hrefused =>
      rw [if_pos hrefused, allHeard_some] at h
      exact Command.schedules_goToErrDisengagingIdler h
  · exact schedules_of_idle hidle

theorem schedules_selectFilamentSlot (h : AllHeard (selectFilamentSlotAsks c m)) :
    (selectFilamentSlot c m).2.Schedules (selectFilamentSlot c m).1.awaits := by
  rw [selectFilamentSlotAsks] at h
  rw [selectFilamentSlot, moveSelector]
  dsimp only at h ⊢
  split
  · next hrefused =>
      rw [if_pos hrefused, allHeard_some] at h
      exact schedules_some.mpr (plannedMove_of_heard _ _ h)
  · next haccepted =>
      rw [if_neg haccepted, allHeard_some] at h
      exact schedules_idlerEngage _ h

theorem schedules_reset {param : UInt8} (hidle : c.awaits = none)
    (hnested : c.data.unl.awaits = none) (h : AllHeard (resetAsks c param m)) :
    (reset c param m).2.2.Schedules (reset c param m).2.1.awaits := by
  rw [reset, Command.checkToolIndex]
  rw [resetAsks] at h
  by_cases hinvalid : param ≥ Config.toolCount
  · rw [if_pos hinvalid]
    exact schedules_of_idle hidle
  · rw [if_neg hinvalid] at h ⊢
    dsimp only
    rw [if_neg (by decide)]
    split
    · next hloaded =>
        rw [if_pos hloaded] at h
        exact UnloadFilament.schedules_reset hnested h
    · next hempty =>
        rw [if_neg hempty] at h
        exact schedules_selectFilamentSlot h

theorem schedules_stepInner (h : m.Schedules c.awaits)
    (hnested : NestedQuiet c.state c.data.unl.awaits) (hheard : AllHeard (c.asks m)) :
    (stepInner c m).2.2.Schedules (stepInner c m).2.1.awaits := by
  rw [stepInner]
  rw [asks] at hheard
  split
  · next hstate =>
      rw [hstate] at hheard
      rw [awaits, hstate] at h
      dsimp only at hheard h ⊢
      split
      · next hdone =>
          rw [if_pos hdone] at hheard
          exact schedules_selectFilamentSlot hheard
      · next hgoes =>
          rw [if_neg hgoes] at hheard
          rw [awaits]
          dsimp only
          rw [hstate]
          exact UnloadFilament.schedules_stepInner h hheard
  · next hstate =>
      rw [hstate] at hheard
      split
      · next hthere =>
          dsimp only at hheard ⊢
          rw [if_pos hthere] at hheard
          split
          · next haccepted => exact FeedToFinda.schedules_reset hheard haccepted
          · next hrefused =>
              rw [Bool.not_eq_true] at hrefused
              exact Command.schedules_goToErrDisengagingIdler
                (FeedToFinda.heard_reset hheard hrefused)
      · exact h
  · next hstate =>
      rw [hstate] at hheard
      rw [awaits, hstate] at h
      dsimp only at hheard h ⊢
      have hfeed := FeedToFinda.schedules_step h
      split
      · next hdone =>
          rw [if_pos hdone] at hheard
          split
          · next hfailed =>
              rw [if_pos hfailed, allHeard_some] at hheard
              exact Command.schedules_goToErrDisengagingIdler hheard
          · next hfailed =>
              rw [if_neg hfailed, allHeard_some] at hheard
              exact RetractFromFinda.schedules_reset hheard
      · rw [awaits]
        dsimp only
        rwa [hstate]
  · next hstate =>
      rw [hstate] at hheard
      rw [awaits, hstate] at h
      dsimp only at hheard h ⊢
      have hretract := RetractFromFinda.schedules_step h
      split
      · next hdone =>
          rw [if_pos hdone] at hheard
          split
          · next hfailed =>
              rw [if_pos hfailed, allHeard_some] at hheard
              exact Command.schedules_goToErrDisengagingIdler hheard
          · next hfailed =>
              rw [if_neg hfailed] at hheard
              exact schedules_moveSelector hheard rfl
      · rw [awaits]
        dsimp only
        rwa [hstate]
  · split
    · exact schedules_none
    · exact h
  · next hstate =>
      rw [hstate] at hheard
      split
      · next hempty =>
          dsimp only at hheard
          rw [if_pos hempty, allHeard_some] at hheard
          exact schedules_idlerDisengage hheard
      · exact h
  · next hstate =>
      rw [hstate] at hheard
      split
      · next hdisengaged =>
          dsimp only at hheard ⊢
          rw [if_pos hdisengaged] at hheard
          exact schedules_moveSelector hheard rfl
      · exact h
  · split
    · exact schedules_none
    · exact h
  · next hstate =>
      dsimp only
      split
      · exact schedules_none
      · exact h
  · split
    · exact schedules_none
    · exact h
  · exact h
  · exact Command.schedules_errDisengagingIdler (fun _ => awaits_of_errWaitingForUser) h
  · next hstate =>
      rw [hstate] at hheard hnested
      dsimp only at hheard ⊢
      split
      · next hmiddle =>
          rw [if_pos hmiddle] at hheard
          exact schedules_reset (awaits_of_errWaitingForUser hstate)
            (hnested.idle (by decide) (by decide)) hheard
      · exact schedules_of_idle (awaits_of_errWaitingForUser hstate)
  · exact schedules_none

theorem nestedQuiet_reset {param : UInt8} (hnested : c.data.unl.awaits = none) :
    NestedQuiet (reset c param m).2.1.state (reset c param m).2.1.data.unl.awaits := by
  rw [reset, Command.checkToolIndex]
  by_cases hinvalid : param ≥ Config.toolCount
  · rw [if_pos hinvalid]
    exact .inr (.inr hnested)
  · rw [if_neg hinvalid]
    dsimp only
    rw [if_neg (by decide)]
    split
    · exact .inl rfl
    · rw [selectFilamentSlot_unl]
      exact .inr (.inr hnested)

theorem nestedQuiet_stepInner (h : NestedQuiet c.state c.data.unl.awaits) :
    NestedQuiet (stepInner c m).2.1.state (stepInner c m).2.1.data.unl.awaits := by
  by_cases hstate : c.state = .unloadingFilament
  · rw [stepInner, hstate]
    dsimp only
    split
    · next hdone =>
        rw [selectFilamentSlot_unl]
        exact .inr (.inr (UnloadFilament.awaits_of_done hdone))
    · exact .inl rfl
  · by_cases hwaiting : c.state = .errWaitingForUser
    · rw [hwaiting] at h
      have hnested := h.idle (by decide) (by decide)
      rw [stepInner, hwaiting]
      dsimp only
      split
      · exact nestedQuiet_reset hnested
      · exact .inr (.inr hnested)
    · rw [stepInner_unl hstate hwaiting]
      refine h.congr hstate fun hinternal => ?_
      rw [stepInner, hinternal]
      rfl

end CutFilament

namespace ToolChange

variable {c : ToolChange} {m : Modules}

def awaits (c : ToolChange) : Option IdlerOperation :=
  match c.state with
  | .unloadingFilament => c.data.unl.awaits
  | .feedingToFinda => c.data.feed.awaits
  | .feedingToBondtech => c.data.james.awaits
  | .errDisengagingIdler => some .disengage
  | _ => none

def goToFeedingToFindaAsks (c : ToolChange) (m : Modules) : Option IdlerRequest :=
  FeedToFinda.resetAsks (m.setFilamentLoaded c.data.plannedSlot .atPulley)

def resetAsks (param : UInt8) (m : Modules) : Option IdlerRequest :=
  if param ≥ Config.toolCount then none
  else if nothingToDo param m then none
  else
    let m := m.setPrinterInCharge true
    if m.filamentLoaded ≥ .inSelector then UnloadFilament.resetAsks m
    else FeedToFinda.resetAsks (m.setFilamentLoaded param .inSelector)

def retryAsks (c : ToolChange) (m : Modules) : Option IdlerRequest :=
  let m := m.invalidateHoming
  if c.error = .fsensorTooEarly then resetAsks m.activeSlot m
  else if c.error = .findaFlickers then goToFeedingToFindaAsks c m
  else if m.finda.pressed then resetAsks m.activeSlot m
  else goToFeedingToFindaAsks c m

/-- The last request of a step. -/
def asks (c : ToolChange) (m : Modules) : Option IdlerRequest :=
  match c.state with
  | .unloadingFilament =>
      let (done, _, m') := UnloadFilament.stepInner c.data.unl m
      if done then goToFeedingToFindaAsks c m' else c.data.unl.asks m
  | .feedingToFinda =>
      let (done, feed, m) := c.data.feed.step m
      if done then
        if feed.state = .failed then some ⟨m.idler, .disengage⟩ else some ⟨m.idler, .engage⟩
      else none
  | .feedingToBondtech =>
      let (done, james, m') := c.data.james.step m
      if done then
        match james.state with
        | .failed | .fsensorTooEarly => some ⟨m'.idler, .disengage⟩
        | _ => none
      else c.data.james.asks m
  | .errWaitingForUser =>
      let (ev, m) := m.consumeEvent
      if ev = .middle then retryAsks c m else none
  | _ => none

theorem awaits_of_errWaitingForUser (hstate : c.state = .errWaitingForUser) :
    c.awaits = none := by
  rw [awaits, hstate]

theorem schedules_goToFeedingToFinda (h : AllHeard (goToFeedingToFindaAsks c m)) :
    (goToFeedingToFinda c m).2.Schedules (goToFeedingToFinda c m).1.awaits := by
  rw [goToFeedingToFinda]
  dsimp only
  split
  · next haccepted => exact FeedToFinda.schedules_reset h haccepted
  · next hrefused =>
      rw [Bool.not_eq_true] at hrefused
      exact Command.schedules_goToErrDisengagingIdler (FeedToFinda.heard_reset h hrefused)

theorem schedules_reset {param : UInt8} (hidle : c.awaits = none)
    (hnested : c.data.unl.awaits = none) (h : AllHeard (resetAsks param m)) :
    (reset c param m).2.2.Schedules (reset c param m).2.1.awaits := by
  rw [reset, Command.checkToolIndex]
  rw [resetAsks] at h
  by_cases hinvalid : param ≥ Config.toolCount
  · rw [if_pos hinvalid]
    exact schedules_of_idle hidle
  · rw [if_neg hinvalid] at h ⊢
    dsimp only at h ⊢
    rw [if_neg (by decide)]
    split
    · exact schedules_of_idle hidle
    · next hloaded =>
        rw [if_neg hloaded] at h
        split
        · next hselector =>
            rw [if_pos hselector] at h
            exact UnloadFilament.schedules_reset hnested h
        · next hselector =>
            rw [if_neg hselector] at h
            split
            · next haccepted => exact FeedToFinda.schedules_reset h haccepted
            · next hrefused =>
                rw [Bool.not_eq_true] at hrefused
                exact Command.schedules_goToErrDisengagingIdler (FeedToFinda.heard_reset h hrefused)

theorem schedules_retry (hidle : c.awaits = none) (hnested : c.data.unl.awaits = none)
    (h : AllHeard (retryAsks c m)) : (retry c m).2.Schedules (retry c m).1.awaits := by
  rw [retry]
  rw [retryAsks] at h
  split
  · next htooEarly =>
      rw [if_pos htooEarly] at h
      exact schedules_reset hidle hnested h
  · next htooEarly =>
      rw [if_neg htooEarly] at h
      split
      · next hflickers =>
          rw [if_pos hflickers] at h
          exact schedules_goToFeedingToFinda h
      · next hflickers =>
          rw [if_neg hflickers] at h
          split
          · next hpressed =>
              rw [if_pos hpressed] at h
              exact schedules_reset hidle hnested h
          · next hpressed =>
              rw [if_neg hpressed] at h
              exact schedules_goToFeedingToFinda h

theorem schedules_stepInner (h : m.Schedules c.awaits)
    (hnested : NestedQuiet c.state c.data.unl.awaits) (hheard : AllHeard (c.asks m)) :
    (stepInner c m).2.2.Schedules (stepInner c m).2.1.awaits := by
  rw [stepInner]
  rw [asks] at hheard
  split
  · next hstate =>
      rw [hstate] at hheard
      rw [awaits, hstate] at h
      dsimp only at hheard h ⊢
      split
      · next hdone =>
          rw [if_pos hdone] at hheard
          exact schedules_goToFeedingToFinda hheard
      · next hgoes =>
          rw [if_neg hgoes] at hheard
          rw [awaits]
          dsimp only
          rw [hstate]
          exact UnloadFilament.schedules_stepInner h hheard
  · next hstate =>
      rw [hstate] at hheard
      rw [awaits, hstate] at h
      dsimp only at hheard h ⊢
      have hfeed := FeedToFinda.schedules_step h
      split
      · next hdone =>
          rw [if_pos hdone] at hheard
          split
          · next hfailed =>
              rw [if_pos hfailed, allHeard_some] at hheard
              exact Command.schedules_goToErrDisengagingIdler hheard
          · next hfailed =>
              rw [if_neg hfailed, allHeard_some] at hheard
              exact FeedToBondtech.schedules_reset hheard
      · rw [awaits]
        dsimp only
        rwa [hstate]
  · next hstate =>
      rw [hstate] at hheard
      rw [awaits, hstate] at h
      dsimp only at hheard h ⊢
      split
      · next hdone =>
          rw [if_pos hdone] at hheard
          split
          · next hfailed =>
              rw [hfailed, allHeard_some] at hheard
              exact Command.schedules_goToErrDisengagingIdler hheard
          · next hfailed =>
              rw [hfailed, allHeard_some] at hheard
              exact Command.schedules_goToErrDisengagingIdler hheard
          · exact schedules_none
      · next hgoes =>
          rw [if_neg hgoes] at hheard
          rw [awaits]
          dsimp only
          rw [hstate]
          exact FeedToBondtech.schedules_step h hheard
  · exact h
  · exact Command.schedules_errDisengagingIdler (fun _ => awaits_of_errWaitingForUser) h
  · next hstate =>
      rw [hstate] at hheard hnested
      dsimp only at hheard ⊢
      split
      · next hmiddle =>
          rw [if_pos hmiddle] at hheard
          exact schedules_retry (awaits_of_errWaitingForUser hstate)
            (hnested.idle (by decide) (by decide)) hheard
      · exact schedules_of_idle (awaits_of_errWaitingForUser hstate)
  · exact schedules_none

theorem nestedQuiet_reset {param : UInt8} (hnested : c.data.unl.awaits = none) :
    NestedQuiet (reset c param m).2.1.state (reset c param m).2.1.data.unl.awaits := by
  rw [reset, Command.checkToolIndex]
  by_cases hinvalid : param ≥ Config.toolCount
  · rw [if_pos hinvalid]
    exact .inr (.inr hnested)
  · rw [if_neg hinvalid]
    dsimp only
    rw [if_neg (by decide)]
    split
    · exact .inr (.inr hnested)
    · split
      · exact .inl rfl
      · split
        · exact .inr (.inr hnested)
        · exact .inr (.inr hnested)

theorem nestedQuiet_retry (hnested : c.data.unl.awaits = none) :
    NestedQuiet (retry c m).1.state (retry c m).1.data.unl.awaits := by
  have hfeeding : ∀ m, NestedQuiet (goToFeedingToFinda c m).1.state
      (goToFeedingToFinda c m).1.data.unl.awaits := by
    intro m
    rw [goToFeedingToFinda_unl]
    exact .inr (.inr hnested)
  rw [retry]
  split
  · exact nestedQuiet_reset hnested
  · split
    · exact hfeeding _
    · split
      · exact nestedQuiet_reset hnested
      · exact hfeeding _

theorem nestedQuiet_stepInner (h : NestedQuiet c.state c.data.unl.awaits) :
    NestedQuiet (stepInner c m).2.1.state (stepInner c m).2.1.data.unl.awaits := by
  by_cases hstate : c.state = .unloadingFilament
  · rw [stepInner, hstate]
    dsimp only
    split
    · next hdone =>
        rw [goToFeedingToFinda_unl]
        exact .inr (.inr (UnloadFilament.awaits_of_done hdone))
    · exact .inl rfl
  · by_cases hwaiting : c.state = .errWaitingForUser
    · rw [hwaiting] at h
      have hnested := h.idle (by decide) (by decide)
      rw [stepInner, hwaiting]
      dsimp only
      split
      · exact nestedQuiet_retry hnested
      · exact .inr (.inr hnested)
    · rw [stepInner_unl hstate hwaiting]
      refine h.congr hstate fun hinternal => ?_
      rw [stepInner, hinternal]
      rfl

end ToolChange

namespace CommandId

/-- The idler operation a command waits for, in the part of it that runs. -/
def awaits : (id : CommandId) → id.Object → Option IdlerOperation
  | .cutFilament => CutFilament.awaits
  | .ejectFilament => EjectFilament.awaits
  | .loadFilament => LoadFilament.awaits
  | .toolChange => ToolChange.awaits
  | .unloadFilament => UnloadFilament.awaits
  | .startUp | .noCommand | .home | .moveSelector | .setMode => fun _ => none

/-- The idler operation the nested unload would wait for. -/
def nestedAwaits : (id : CommandId) → id.Object → Option IdlerOperation
  | .cutFilament => fun c => c.data.unl.awaits
  | .ejectFilament => fun c => c.data.unl.awaits
  | .toolChange => fun c => c.data.unl.awaits
  | .startUp | .noCommand | .home | .loadFilament | .moveSelector | .setMode
  | .unloadFilament => fun _ => none

/-- What `Reset` asks of the idler. -/
def resetAsks : (id : CommandId) → id.Object → UInt8 → Modules → Option IdlerRequest
  | .cutFilament, c, param, m => CutFilament.resetAsks c param m
  | .ejectFilament, c, param, m => EjectFilament.resetAsks c param m
  | .loadFilament, _, param, m => LoadFilament.resetAsks param m
  | .toolChange, _, param, m => ToolChange.resetAsks param m
  | .unloadFilament, _, _, m => UnloadFilament.resetAsks m
  | .startUp, _, _, _ | .noCommand, _, _, _ | .home, _, _, _ | .moveSelector, _, _, _
  | .setMode, _, _, _ => none

/-- What `StepInner` asks of the idler. -/
def asks : (id : CommandId) → id.Object → Modules → Option IdlerRequest
  | .cutFilament => CutFilament.asks
  | .ejectFilament => EjectFilament.asks
  | .loadFilament => LoadFilament.asks
  | .toolChange => ToolChange.asks
  | .unloadFilament => UnloadFilament.asks
  | .startUp | .noCommand | .home | .moveSelector | .setMode => fun _ _ => none

/-- The command waits for nothing of the idler, not even in a part that does not run. -/
def Idle (id : CommandId) (c : id.Object) : Prop := id.awaits c = none ∧ id.nestedAwaits c = none

variable {id : CommandId} {c : id.Object} {m : Modules}

theorem schedules_reset {param : UInt8} (hidle : id.Idle c)
    (h : AllHeard (id.resetAsks c param m)) :
    (id.reset c param m).2.2.Schedules (id.awaits (id.reset c param m).2.1) := by
  cases id with
  | cutFilament => exact CutFilament.schedules_reset hidle.1 hidle.2 h
  | ejectFilament => exact EjectFilament.schedules_reset hidle.1 hidle.2 h
  | toolChange => exact ToolChange.schedules_reset hidle.1 hidle.2 h
  | loadFilament => exact LoadFilament.schedules_reset hidle.1 h
  | unloadFilament => exact UnloadFilament.schedules_reset hidle.1 h
  | startUp | noCommand | home | moveSelector | setMode => exact schedules_none

theorem nestedQuiet_reset {param : UInt8} (hidle : id.Idle c) :
    NestedQuiet (id.reset c param m).2.1.state (id.nestedAwaits (id.reset c param m).2.1) := by
  cases id with
  | cutFilament => exact CutFilament.nestedQuiet_reset hidle.2
  | ejectFilament => exact EjectFilament.nestedQuiet_reset hidle.2
  | toolChange => exact ToolChange.nestedQuiet_reset hidle.2
  | startUp | noCommand | home | moveSelector | setMode | loadFilament | unloadFilament =>
      exact .inr (.inr rfl)

theorem schedules_stepInner (h : m.Schedules (id.awaits c))
    (hnested : NestedQuiet c.state (id.nestedAwaits c)) (hheard : AllHeard (id.asks c m)) :
    (id.stepInner c m).2.2.Schedules (id.awaits (id.stepInner c m).2.1) := by
  cases id with
  | cutFilament => exact CutFilament.schedules_stepInner h hnested hheard
  | ejectFilament => exact EjectFilament.schedules_stepInner h hheard
  | toolChange => exact ToolChange.schedules_stepInner h hnested hheard
  | loadFilament => exact LoadFilament.schedules_stepInner h hheard
  | unloadFilament => exact UnloadFilament.schedules_stepInner h hheard
  | startUp | noCommand | home | moveSelector | setMode => exact schedules_none

theorem nestedQuiet_stepInner (hnested : NestedQuiet c.state (id.nestedAwaits c)) :
    NestedQuiet (id.stepInner c m).2.1.state (id.nestedAwaits (id.stepInner c m).2.1) := by
  cases id with
  | cutFilament => exact CutFilament.nestedQuiet_stepInner hnested
  | ejectFilament => exact EjectFilament.nestedQuiet_stepInner hnested
  | toolChange => exact ToolChange.nestedQuiet_stepInner hnested
  | startUp | noCommand | home | moveSelector | setMode | loadFilament | unloadFilament =>
      exact .inr (.inr rfl)

theorem awaits_congr (c c' : id.Object) (hstate : c'.state = c.state)
    (hdata : c'.data = c.data) : id.awaits c' = id.awaits c := by
  cases id with
  | cutFilament => simp only [awaits, CutFilament.awaits, hstate, hdata]
  | ejectFilament => simp only [awaits, EjectFilament.awaits, hstate, hdata]
  | toolChange => simp only [awaits, ToolChange.awaits, hstate, hdata]
  | loadFilament => simp only [awaits, LoadFilament.awaits, hstate, hdata]
  | unloadFilament => simp only [awaits, UnloadFilament.awaits, hstate, hdata]
  | startUp | noCommand | home | moveSelector | setMode => rfl

theorem nestedAwaits_congr {c' : id.Object} (hdata : c'.data = c.data) :
    id.nestedAwaits c' = id.nestedAwaits c := by
  cases id with
  | cutFilament | ejectFilament | toolChange => exact congrArg (·.unl.awaits) hdata
  | startUp | noCommand | home | moveSelector | setMode | loadFilament | unloadFilament => rfl

/-- In these states no command waits for the idler. -/
theorem awaits_of_state (hstate : c.state = .ok ∨ c.state = .errInternal ∨
    Running.Adrift c.state) : id.awaits c = none := by
  rw [Running.Adrift] at hstate
  rcases hstate with hstate | hstate | hstate | hstate | hstate <;>
    cases id <;> first
    | rfl
    | simp only [awaits, CutFilament.awaits, EjectFilament.awaits, ToolChange.awaits,
        LoadFilament.awaits, UnloadFilament.awaits, hstate]

end CommandId

end MmuFirmware
