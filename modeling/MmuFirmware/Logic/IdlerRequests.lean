import MmuFirmware.Logic.Commands
import MmuFirmware.Modules.Frame

/-!
What the commands ask of the idler and what they wait for. Nobody looks at the result of a
request; where every request is heard, whatever a command waits for is planned.
-/
namespace MmuFirmware

/-- An operation asked of the idler, and the idler as the request finds it. -/
structure IdlerRequest where
  idler : Idler
  op : IdlerOperation

namespace IdlerRequest

/-- The idler neither moves nor is on hold, unless the operation is planned already. -/
def Heard (q : IdlerRequest) : Prop :=
  q.idler.isIn .moving ∨ q.idler.onHold = true → q.idler.ext.plannedMove = q.op

instance (q : IdlerRequest) : Decidable q.Heard := inferInstanceAs (Decidable (_ → _))

end IdlerRequest

def AllHeard (asked : Option IdlerRequest) : Prop := ∀ q ∈ asked, q.Heard

instance (asked : Option IdlerRequest) : Decidable (AllHeard asked) :=
  inferInstanceAs (Decidable (∀ q ∈ asked, q.Heard))

@[simp] theorem allHeard_none : AllHeard none := by simp [AllHeard]

@[simp] theorem allHeard_some {q : IdlerRequest} : AllHeard (some q) ↔ q.Heard := by
  simp [AllHeard]

namespace Modules

/-- The operation that is waited for is the one the idler performs or has performed last. -/
def Schedules (m : Modules) (awaited : Option IdlerOperation) : Prop :=
  ∀ op ∈ awaited, m.idler.ext.plannedMove = op

variable {m m' : Modules}

@[simp] theorem schedules_none : m.Schedules none := by simp [Schedules]

@[simp] theorem schedules_some {op : IdlerOperation} :
    m.Schedules (some op) ↔ m.idler.ext.plannedMove = op := by
  simp [Schedules]

theorem schedules_of_idle {awaited : Option IdlerOperation} (h : awaited = none) :
    m.Schedules awaited :=
  h ▸ schedules_none

theorem Schedules.congr {awaited : Option IdlerOperation} (h : m.Schedules awaited)
    (heq : m'.idler.ext.plannedMove = m.idler.ext.plannedMove) : m'.Schedules awaited :=
  fun op hop => heq.trans (h op hop)

theorem Keeps.schedules {awaited : Option IdlerOperation} (hkeeps : m.Keeps m')
    (h : m.Schedules awaited) : m'.Schedules awaited :=
  h.congr hkeeps.idler.plannedMove

theorem plannedMove_of_heard {i : Idler} (g : Globals) (slot : UInt8) {op : IdlerOperation}
    (h : (IdlerRequest.mk i op).Heard) : (i.planMoveInner g slot op).2.ext.plannedMove = op := by
  rw [Idler.planMoveInner]
  split
  · next hrefuses => exact h hrefuses
  · dsimp only
    split
    · rfl
    · split
      · rw [Idler.planHome_ext]
      · split <;> rfl

theorem schedules_idlerEngage (slot : UInt8) (h : (IdlerRequest.mk m.idler .engage).Heard) :
    (m.idlerEngage slot).Schedules (some .engage) :=
  schedules_some.mpr (plannedMove_of_heard _ _ h)

theorem schedules_idlerDisengage (h : (IdlerRequest.mk m.idler .disengage).Heard) :
    m.idlerDisengage.Schedules (some .disengage) :=
  schedules_some.mpr (plannedMove_of_heard _ _ h)

theorem schedules_idlerPartiallyDisengage (slot : UInt8)
    (h : (IdlerRequest.mk m.idler .intermediate).Heard) :
    (m.idlerPartiallyDisengage slot).Schedules (some .intermediate) :=
  schedules_some.mpr (plannedMove_of_heard _ _ h)

end Modules

open Modules

section CommandBase

variable {δ : Type} {c : Command δ} {m : Modules} {ec : ErrorCode}

theorem Command.schedules_goToErrDisengagingIdler
    (h : (IdlerRequest.mk m.idler .disengage).Heard) :
    (c.goToErrDisengagingIdler ec m).2.Schedules (some .disengage) :=
  schedules_some.mpr (plannedMove_of_heard _ _ h)

/-- Until the idler has disengaged the command waits, then it waits for the user. -/
theorem Command.schedules_errDisengagingIdler {awaits : Command δ → Option IdlerOperation}
    (hwaiting : ∀ c, c.state = .errWaitingForUser → awaits c = none)
    (h : m.Schedules (awaits c)) :
    (c.errDisengagingIdler m).2.Schedules (awaits (c.errDisengagingIdler m).1) := by
  rw [errDisengagingIdler]
  split
  · exact schedules_of_idle (hwaiting _ rfl)
  · exact h

@[simp] theorem Command.goToErrDisengagingIdler_state :
    (c.goToErrDisengagingIdler ec m).1.state = .errDisengagingIdler := rfl

@[simp] theorem Command.goToErrDisengagingIdler_data :
    (c.goToErrDisengagingIdler ec m).1.data = c.data := rfl

end CommandBase

namespace FeedToFinda

variable {f : FeedToFinda} {m : Modules} {feedPhaseLimited : Bool}

def awaits (f : FeedToFinda) : Option IdlerOperation :=
  if f.state = .engagingIdler then some .engage else none

/-- Where the selector does not go to the slot, the owners give up and disengage. -/
def resetAsks (m : Modules) : Option IdlerRequest :=
  if (m.selectorMoveToSlot m.activeSlot).1 = .accepted then some ⟨m.idler, .engage⟩
  else some ⟨m.idler, .disengage⟩

/-- The reset plans to engage, or leaves the idler to its owner. -/
theorem reset_cases (feedPhaseLimited : Bool) (m : Modules) :
    (reset feedPhaseLimited m).1 = true ∧ resetAsks m = some ⟨m.idler, .engage⟩ ∧
        (reset feedPhaseLimited m).2.2.idler = (m.idlerEngage m.activeSlot).idler ∨
      (reset feedPhaseLimited m).1 = false ∧ resetAsks m = some ⟨m.idler, .disengage⟩ ∧
        (reset feedPhaseLimited m).2.2.idler = m.idler := by
  have heq : (m.activeSlotProcessing.selectorMoveToSlot m.activeSlotProcessing.activeSlot).1 =
      (m.selectorMoveToSlot m.activeSlot).1 := rfl
  rw [reset, resetAsks]
  dsimp only
  rw [heq]
  by_cases haccepted : (m.selectorMoveToSlot m.activeSlot).1 = .accepted
  · rw [if_pos haccepted, if_neg (not_not_intro haccepted)]
    exact .inl ⟨rfl, rfl, rfl⟩
  · rw [if_neg haccepted, if_pos haccepted]
    exact .inr ⟨rfl, rfl, rfl⟩

theorem reset_awaits : (reset feedPhaseLimited m).2.1.awaits = some .engage := by
  rw [reset]
  dsimp only
  split <;> rfl

theorem schedules_reset (h : AllHeard (resetAsks m))
    (haccepted : (reset feedPhaseLimited m).1 = true) :
    (reset feedPhaseLimited m).2.2.Schedules (reset feedPhaseLimited m).2.1.awaits := by
  rcases reset_cases feedPhaseLimited m with ⟨-, hasks, hidler⟩ | ⟨hrefused, -⟩
  · rw [hasks, allHeard_some] at h
    rw [reset_awaits, schedules_some, hidler]
    exact schedules_some.mp (schedules_idlerEngage _ h)
  · exact absurd (haccepted.symm.trans hrefused) (by decide)

theorem heard_reset (h : AllHeard (resetAsks m))
    (hrefused : (reset feedPhaseLimited m).1 = false) :
    (IdlerRequest.mk (reset feedPhaseLimited m).2.2.idler .disengage).Heard := by
  rcases reset_cases feedPhaseLimited m with ⟨haccepted, -⟩ | ⟨-, hasks, hidler⟩
  · exact absurd (haccepted.symm.trans hrefused) (by decide)
  · rw [hasks, allHeard_some] at h
    rwa [hidler]

theorem schedules_step (h : m.Schedules f.awaits) :
    (f.step m).2.2.Schedules (f.step m).2.1.awaits := by
  rw [step]
  split
  · next hstate =>
      split
      · dsimp only
        split <;> simp [awaits]
      · exact h
  · split
    · simp [awaits]
    · split
      · simp [awaits]
      · exact h
  · split
    · have hdone : ∀ stopped : Bool,
          ({ f with state := if stopped then .stopped else .ok } : FeedToFinda).awaits = none := by
        intro stopped
        cases stopped <;> rfl
      dsimp only
      rw [hdone]
      exact schedules_none
    · split <;> exact h
  · exact h

end FeedToFinda

namespace FeedToBondtech

variable {f : FeedToBondtech} {m : Modules}

def awaits (f : FeedToBondtech) : Option IdlerOperation :=
  match f.state with
  | .engagingIdler => some .engage
  | .partiallyDisengagingIdler => some .intermediate
  | .disengagingIdler => some .disengage
  | _ => none

def asks (f : FeedToBondtech) (m : Modules) : Option IdlerRequest :=
  match f.state with
  | .pushingFilamentIntoNozzle => if m.queueEmpty then some ⟨m.idler, .intermediate⟩ else none
  | .partiallyDisengagingIdler =>
      if m.idler.partiallyDisengaged then some ⟨m.idler, .disengage⟩ else none
  | _ => none

theorem schedules_reset (h : (IdlerRequest.mk m.idler .engage).Heard) :
    (reset m).2.Schedules (reset m).1.awaits :=
  schedules_idlerEngage (m := m.activeSlotProcessing) _ h

theorem schedules_step (h : m.Schedules f.awaits) (hheard : AllHeard (f.asks m)) :
    (f.step m).2.2.Schedules (f.step m).2.1.awaits := by
  rw [step]
  rw [asks] at hheard
  split
  · split
    · simp [awaits]
    · exact h
  · split
    · simp [awaits]
    · split
      · simp [awaits]
      · exact h
  · split
    · simp [awaits, goToPushToNozzle]
    · split
      · simp [awaits]
      · exact h
  · next hstate =>
      rw [hstate] at hheard
      split
      · next hempty =>
          rw [if_pos hempty, allHeard_some] at hheard
          exact schedules_idlerPartiallyDisengage (m := m.setFilamentLoaded _ _) _ hheard
      · exact h
  · next hstate =>
      rw [hstate] at hheard
      split
      · next hpartially =>
          rw [if_pos hpartially, allHeard_some] at hheard
          exact schedules_idlerDisengage hheard
      · exact h
  · split
    · simp [awaits]
    · exact h
  all_goals exact h

end FeedToBondtech

namespace RetractFromFinda

variable {f : RetractFromFinda} {m : Modules}

def awaits (f : RetractFromFinda) : Option IdlerOperation :=
  if f.state = .engagingIdler then some .engage else none

theorem schedules_reset (h : (IdlerRequest.mk m.idler .engage).Heard) :
    (reset m).2.Schedules (reset m).1.awaits :=
  schedules_idlerEngage (m := m.activeSlotProcessing) _ h

theorem schedules_step (h : m.Schedules f.awaits) :
    (f.step m).2.2.Schedules (f.step m).2.1.awaits := by
  rw [step]
  split
  · split
    · simp [awaits]
    · exact h
  · split
    · split <;> simp [awaits]
    · exact h
  all_goals exact h

end RetractFromFinda

namespace UnloadToFinda

variable {f : UnloadToFinda} {m : Modules}

def awaits (f : UnloadToFinda) : Option IdlerOperation :=
  match f.state with
  | .engagingIdler => some .intermediate
  | .unloadingToFinda => some .engage
  | _ => none

def resetAsks (m : Modules) : Option IdlerRequest :=
  if m.finda.pressed = false then none else some ⟨m.idler, .intermediate⟩

def asks (f : UnloadToFinda) (m : Modules) : Option IdlerRequest :=
  match f.state with
  | .engagingIdler =>
      if m.idler.partiallyDisengaged ∧ m.fsensor.pressed = false ∧
          m.filamentLoaded ≥ .inSelector then
        some ⟨m.idler, .engage⟩
      else none
  | .waitingForFINDA =>
      if m.finda.pressed ∧ m.queueEmpty ∧ f.maxTries - 1 ≠ 0 ∧
          ¬ ((f.unloadStartMm - m.pulley.currentPositionMm).natAbs >
            m.globals.fsensorUnloadCheckMm.toNat ∧ m.fsensor.pressed) then
        some ⟨m.idler, .intermediate⟩
      else none
  | _ => none

theorem schedules_reset {maxTries : UInt8} (h : AllHeard (resetAsks m)) :
    (f.reset maxTries m).2.Schedules (f.reset maxTries m).1.awaits := by
  rw [reset]
  rw [resetAsks] at h
  split
  · simp [awaits]
  · next hpressed =>
      rw [if_neg hpressed, allHeard_some] at h
      exact schedules_idlerPartiallyDisengage _ h

theorem schedules_step (h : m.Schedules f.awaits) (hheard : AllHeard (f.asks m)) :
    (f.step m).2.2.Schedules (f.step m).2.1.awaits := by
  rw [step]
  rw [asks] at hheard
  split
  · next hstate =>
      rw [hstate] at hheard
      split
      · exact h
      · next hpartially =>
          split
          · split
            · simp [awaits]
            · exact h
          · next hpressed =>
              split
              · next hloaded =>
                  rw [Bool.not_eq_false] at hpartially
                  rw [Bool.not_eq_true] at hpressed
                  dsimp only at hheard
                  rw [if_pos ⟨hpartially, hpressed, hloaded⟩, allHeard_some] at hheard
                  exact schedules_idlerEngage (m := m.pulleyInitAxis) _ hheard
              · simp [awaits]
  · split
    · simp [awaits]
    · exact h
  · next hstate =>
      rw [hstate] at hheard
      split
      · simp [awaits]
      · next hchecked =>
          split
          · simp [awaits]
          · next hpressed =>
              split
              · next hempty =>
                  split
                  · next htries =>
                      rw [Bool.not_eq_false] at hpressed
                      dsimp only at hheard
                      rw [if_pos ⟨hpressed, hempty, htries, hchecked⟩, allHeard_some] at hheard
                      refine schedules_reset ?_
                      rw [resetAsks]
                      split
                      · exact allHeard_none
                      · rw [allHeard_some]
                        exact hheard
                  · simp [awaits]
              · exact h
  all_goals exact h

end UnloadToFinda

namespace UnloadFilament

variable {c : UnloadFilament} {m : Modules}

def awaits (c : UnloadFilament) : Option IdlerOperation :=
  match c.state with
  | .unloadingToFinda => c.data.unl.awaits
  | .feedingToFinda => c.data.feed.awaits
  | .retractingFromFinda => c.data.retract.awaits
  | .disengagingIdler | .errDisengagingIdler => some .disengage
  | _ => none

def resetAsks (m : Modules) : Option IdlerRequest :=
  if nothingLoaded m then none else UnloadToFinda.resetAsks m

/-- The last request of a step. -/
def asks (c : UnloadFilament) (m : Modules) : Option IdlerRequest :=
  match c.state with
  | .unloadingToFinda =>
      let (done, unl, m') := c.data.unl.step m
      if done then
        if unl.state = .failedFINDA then some ⟨m'.idler, .disengage⟩
        else if unl.state = .failedFSensor then some ⟨m'.idler, .disengage⟩
        else some ⟨m'.idler, .engage⟩
      else c.data.unl.asks m
  | .retractingFromFinda =>
      let (done, retract, m) := c.data.retract.step m
      if done then
        if retract.state = .failed then some ⟨m.idler, .disengage⟩
        else if c.data.skipDisengagingIdler ∧ m.selector.isIn .ready then none
        else some ⟨m.idler, .disengage⟩
      else none
  | .errWaitingForUser =>
      let (ev, m) := m.consumeEvent
      if ev = .middle then
        let m := m.invalidateHoming
        if m.finda.pressed then resetAsks m
        else if m.fsensor.pressed then none
        else FeedToFinda.resetAsks m
      else none
  | .feedingToFinda =>
      let (done, feed, m) := c.data.feed.step m
      if done then
        if feed.state = .failed then some ⟨m.idler, .disengage⟩ else some ⟨m.idler, .engage⟩
      else none
  | _ => none

theorem schedules_reset (hidle : c.awaits = none) (h : AllHeard (resetAsks m)) :
    (reset c m).2.Schedules (reset c m).1.awaits := by
  rw [reset]
  rw [resetAsks] at h
  split
  · rw [hidle]
    exact schedules_none
  · next hloaded =>
      rw [if_neg hloaded] at h
      exact UnloadToFinda.schedules_reset (m := m.pulleyInitAxis) h

theorem schedules_goToRetractingFromFinda (h : (IdlerRequest.mk m.idler .engage).Heard) :
    (goToRetractingFromFinda c m).2.Schedules (goToRetractingFromFinda c m).1.awaits :=
  RetractFromFinda.schedules_reset h

theorem schedules_goToRecheckFilamentAgainstFINDA (h : AllHeard (FeedToFinda.resetAsks m)) :
    (goToRecheckFilamentAgainstFINDA c m).2.Schedules
      (goToRecheckFilamentAgainstFINDA c m).1.awaits := by
  rw [goToRecheckFilamentAgainstFINDA]
  dsimp only
  split
  · next haccepted => exact FeedToFinda.schedules_reset h haccepted
  · next hrefused =>
      rw [Bool.not_eq_true] at hrefused
      exact Command.schedules_goToErrDisengagingIdler (FeedToFinda.heard_reset h hrefused)

theorem schedules_unloadFinishedCorrectly :
    (unloadFinishedCorrectly c m).2.Schedules (unloadFinishedCorrectly c m).1.awaits :=
  schedules_none

theorem awaits_of_errWaitingForUser (hstate : c.state = .errWaitingForUser) :
    c.awaits = none := by
  rw [awaits, hstate]

theorem schedules_stepInner (h : m.Schedules c.awaits) (hheard : AllHeard (c.asks m)) :
    (stepInner c m).2.2.Schedules (stepInner c m).2.1.awaits := by
  rw [stepInner]
  rw [asks] at hheard
  split
  · next hstate =>
      rw [hstate] at hheard
      rw [awaits, hstate] at h
      dsimp only at hheard h ⊢
      split
      · next hdone =>
          rw [if_pos hdone] at hheard
          split
          · next hfailed =>
              rw [if_pos hfailed, allHeard_some] at hheard
              exact Command.schedules_goToErrDisengagingIdler hheard
          · next hfailed =>
              rw [if_neg hfailed] at hheard
              split
              · next hfsensor =>
                  rw [if_pos hfsensor, allHeard_some] at hheard
                  exact Command.schedules_goToErrDisengagingIdler hheard
              · next hfsensor =>
                  rw [if_neg hfsensor, allHeard_some] at hheard
                  exact schedules_goToRetractingFromFinda hheard
      · next hgoes =>
          rw [if_neg hgoes] at hheard
          rw [awaits]
          dsimp only
          rw [hstate]
          exact UnloadToFinda.schedules_step h hheard
  · next hstate =>
      rw [hstate] at hheard
      rw [awaits, hstate] at h
      dsimp only at hheard h ⊢
      split
      · next hdone =>
          rw [if_pos hdone] at hheard
          split
          · next hfailed =>
              rw [if_pos hfailed, allHeard_some] at hheard
              exact Command.schedules_goToErrDisengagingIdler hheard
          · next hfailed =>
              rw [if_neg hfailed] at hheard
              split
              · exact schedules_unloadFinishedCorrectly
              · next hskip =>
                  rw [if_neg hskip, allHeard_some] at hheard
                  exact schedules_idlerDisengage hheard
      · rw [awaits]
        dsimp only
        rw [hstate]
        exact RetractFromFinda.schedules_step h
  · split
    · exact schedules_unloadFinishedCorrectly
    · exact h
  · exact Command.schedules_errDisengagingIdler (fun _ => awaits_of_errWaitingForUser) h
  · next hstate =>
      rw [hstate] at hheard
      dsimp only at hheard ⊢
      split
      · next hmiddle =>
          rw [if_pos hmiddle] at hheard
          split
          · next hpressed =>
              rw [if_pos hpressed] at hheard
              exact schedules_reset (awaits_of_errWaitingForUser hstate) hheard
          · next hpressed =>
              rw [if_neg hpressed] at hheard
              split
              · exact schedules_of_idle (awaits_of_errWaitingForUser hstate)
              · next hfsensor =>
                  rw [if_neg hfsensor] at hheard
                  exact schedules_goToRecheckFilamentAgainstFINDA hheard
      · exact schedules_of_idle (awaits_of_errWaitingForUser hstate)
  · next hstate =>
      rw [hstate] at hheard
      rw [awaits, hstate] at h
      dsimp only at hheard h ⊢
      split
      · next hdone =>
          rw [if_pos hdone] at hheard
          split
          · next hfailed =>
              rw [if_pos hfailed, allHeard_some] at hheard
              exact Command.schedules_goToErrDisengagingIdler hheard
          · next hfailed =>
              rw [if_neg hfailed, allHeard_some] at hheard
              exact schedules_goToRetractingFromFinda hheard
      · rw [awaits]
        dsimp only
        rw [hstate]
        exact FeedToFinda.schedules_step h
  · exact h
  · exact schedules_none

/-- A step is done only where the unload has finished or its state makes no sense. -/
theorem stepInner_done (hdone : (stepInner c m).1 = true) :
    (stepInner c m).2.1.state = .ok ∨ (stepInner c m).2.1.state = .errInternal := by
  revert hdone
  rw [stepInner]
  split
  case h_7 hstate => exact fun _ => .inl hstate
  case h_8 => exact fun _ => .inr rfl
  all_goals
    try dsimp only
    repeat' split
  all_goals nofun

theorem awaits_of_done (hdone : (stepInner c m).1 = true) :
    (stepInner c m).2.1.awaits = none := by
  rw [awaits]
  rcases stepInner_done hdone with hstate | hstate <;> rw [hstate]

end UnloadFilament

namespace LoadFilament

variable {c : LoadFilament} {m : Modules}

def awaits (c : LoadFilament) : Option IdlerOperation :=
  match c.state with
  | .feedingToFinda => c.data.feed.awaits
  | .retractingFromFinda => c.data.retract.awaits
  | .disengagingIdler | .errDisengagingIdler => some .disengage
  | _ => none

def resetAsks (param : UInt8) (m : Modules) : Option IdlerRequest :=
  if param ≥ Config.toolCount then none
  else if m.filamentLoaded > .inSelector then none
  else if m.filamentLoaded > .atPulley ∧ m.activeSlot ≠ param then none
  else FeedToFinda.resetAsks (m.setFilamentLoaded param .atPulley)

def resetLimitedAsks (param : UInt8) (m : Modules) : Option IdlerRequest :=
  if param ≥ Config.toolCount then none
  else FeedToFinda.resetAsks (m.setFilamentLoaded param .atPulley)

/-- The last request of a step. -/
def asks (c : LoadFilament) (m : Modules) : Option IdlerRequest :=
  match c.state with
  | .feedingToFinda =>
      let (done, feed, m) := c.data.feed.step m
      if done then
        match feed.state with
        | .failed => some ⟨m.idler, .disengage⟩
        | .stopped | .ok => some ⟨m.idler, .engage⟩
        | _ => none
      else none
  | .retractingFromFinda =>
      let (done, retract, m) := c.data.retract.step m
      if done then
        if retract.state = .failed then some ⟨m.idler, .disengage⟩
        else if c.data.verifyLoadedFilament ≠ 0 then resetLimitedAsks m.activeSlot m
        else some ⟨m.idler, .disengage⟩
      else none
  | .errWaitingForUser =>
      let (ev, m) := m.consumeEvent
      if ev = .middle then
        let m := m.resumeIdlerSelector
        if m.finda.pressed = false then FeedToFinda.resetAsks m
        else some ⟨m.idler, .engage⟩
      else none
  | _ => none

theorem schedules_reset2 {feedPhaseLimited : Bool} (h : AllHeard (FeedToFinda.resetAsks m)) :
    (reset2 c feedPhaseLimited m).2.Schedules (reset2 c feedPhaseLimited m).1.awaits := by
  rw [reset2]
  dsimp only
  split
  · next haccepted => exact FeedToFinda.schedules_reset h haccepted
  · next hrefused =>
      rw [Bool.not_eq_true] at hrefused
      exact Command.schedules_goToErrDisengagingIdler (FeedToFinda.heard_reset h hrefused)

theorem schedules_reset {param : UInt8} (hidle : c.awaits = none)
    (h : AllHeard (resetAsks param m)) :
    (reset c param m).2.2.Schedules (reset c param m).2.1.awaits := by
  rw [reset, Command.checkToolIndex]
  rw [resetAsks] at h
  by_cases hinvalid : param ≥ Config.toolCount
  · rw [if_pos hinvalid]
    exact schedules_of_idle hidle
  · rw [if_neg hinvalid] at h ⊢
    dsimp only
    rw [if_neg (by decide)]
    split
    · exact schedules_of_idle hidle
    · next hbelow =>
        rw [if_neg hbelow] at h
        split
        · exact schedules_of_idle hidle
        · next hthis =>
            rw [if_neg hthis] at h
            exact schedules_reset2 h

theorem schedules_resetLimited {param : UInt8} (hidle : m.Schedules c.awaits)
    (h : AllHeard (resetLimitedAsks param m)) :
    (resetLimited c param m).2.Schedules (resetLimited c param m).1.awaits := by
  rw [resetLimited, Command.checkToolIndex]
  rw [resetLimitedAsks] at h
  by_cases hinvalid : param ≥ Config.toolCount
  · rw [if_pos hinvalid]
    exact hidle
  · rw [if_neg hinvalid] at h ⊢
    exact schedules_reset2 h

theorem schedules_goToRetractingFromFinda (h : (IdlerRequest.mk m.idler .engage).Heard) :
    (goToRetractingFromFinda c m).2.Schedules (goToRetractingFromFinda c m).1.awaits :=
  RetractFromFinda.schedules_reset h

theorem awaits_of_errWaitingForUser (hstate : c.state = .errWaitingForUser) :
    c.awaits = none := by
  rw [awaits, hstate]

theorem schedules_stepInner (h : m.Schedules c.awaits) (hheard : AllHeard (c.asks m)) :
    (stepInner c m).2.2.Schedules (stepInner c m).2.1.awaits := by
  rw [stepInner]
  rw [asks] at hheard
  split
  · next hstate =>
      rw [hstate] at hheard
      rw [awaits, hstate] at h
      dsimp only at hheard h ⊢
      have hfeed := FeedToFinda.schedules_step h
      split
      · next hdone =>
          rw [if_pos hdone] at hheard
          split
          · next hfailed =>
              rw [hfailed, allHeard_some] at hheard
              exact Command.schedules_goToErrDisengagingIdler hheard
          · next hstopped =>
              rw [hstopped, allHeard_some] at hheard
              exact schedules_goToRetractingFromFinda hheard
          · next hok =>
              rw [hok, allHeard_some] at hheard
              exact schedules_goToRetractingFromFinda hheard
          · rw [awaits]
            dsimp only
            rwa [hstate]
      · rw [awaits]
        dsimp only
        rwa [hstate]
  · next hstate =>
      rw [hstate] at hheard
      rw [awaits, hstate] at h
      dsimp only at hheard h ⊢
      have hretract := RetractFromFinda.schedules_step h
      split
      · next hdone =>
          rw [if_pos hdone] at hheard
          split
          · next hfailed =>
              rw [if_pos hfailed, allHeard_some] at hheard
              exact Command.schedules_goToErrDisengagingIdler hheard
          · next hfailed =>
              rw [if_neg hfailed] at hheard
              split
              · next hverify =>
                  rw [if_pos hverify] at hheard
                  refine schedules_resetLimited ?_ hheard
                  rw [awaits]
                  dsimp only
                  rwa [hstate]
              · next hverify =>
                  rw [if_neg hverify, allHeard_some] at hheard
                  exact schedules_idlerDisengage hheard
      · rw [awaits]
        dsimp only
        rwa [hstate]
  · split
    · exact schedules_none
    · exact h
  · exact h
  · exact Command.schedules_errDisengagingIdler (fun _ => awaits_of_errWaitingForUser) h
  · next hstate =>
      rw [hstate] at hheard
      dsimp only at hheard ⊢
      split
      · next hmiddle =>
          rw [if_pos hmiddle] at hheard
          split
          · next hpressed =>
              rw [if_pos hpressed] at hheard
              exact schedules_reset2 hheard
          · next hpressed =>
              rw [if_neg hpressed, allHeard_some] at hheard
              exact schedules_goToRetractingFromFinda hheard
      · exact schedules_of_idle (awaits_of_errWaitingForUser hstate)
  · exact schedules_none

end LoadFilament

end MmuFirmware
