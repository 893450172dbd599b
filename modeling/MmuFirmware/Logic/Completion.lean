import MmuFirmware.Logic.Commands
import MmuFirmware.Logic.Recovery

/-!
What is achieved when a tool change, a load or an unload finishes, and what holds on the way
there, through every failed attempt and every retry.
-/
namespace MmuFirmware

section ActiveSlot

variable {m : Modules}

theorem FeedToFinda.reset_activeSlot (feedPhaseLimited : Bool) :
    (FeedToFinda.reset feedPhaseLimited m).2.2.activeSlot = m.activeSlot := by
  rw [reset]
  dsimp only
  split <;> rfl

theorem FeedToFinda.step_activeSlot (f : FeedToFinda) :
    (f.step m).2.2.activeSlot = m.activeSlot := by
  rw [step]
  split
  · split
    · dsimp only
      split <;> rfl
    · rfl
  · split
    · rfl
    · split <;> rfl
  · split
    · rfl
    · split <;> rfl
  · rfl

theorem RetractFromFinda.step_activeSlot (f : RetractFromFinda) :
    (f.step m).2.2.activeSlot = m.activeSlot := by
  rw [step]
  split
  · split <;> rfl
  · split
    · split <;> rfl
    · rfl
  all_goals rfl

/-- Where the retraction has succeeded, the filament is recorded at the pulley. -/
theorem RetractFromFinda.step_filamentLoaded {f : RetractFromFinda}
    (h : f.state = .ok → m.filamentLoaded = .atPulley) (hok : (f.step m).2.1.state = .ok) :
    (f.step m).2.2.filamentLoaded = .atPulley := by
  rw [step] at hok ⊢
  split at hok
  · split at hok
    · cases hok
    · next hstate _ => exact absurd (hstate.symm.trans hok) (by decide)
  · split at hok
    · next hempty =>
        rw [if_pos hempty]
        split at hok
        · next hpressed =>
            rw [if_pos hpressed]
            rfl
        · cases hok
    · next hstate _ => exact absurd (hstate.symm.trans hok) (by decide)
  · exact h hok
  · next hstate => exact absurd (hstate.symm.trans hok) (by decide)

theorem RetractFromFinda.step_done {f : RetractFromFinda} (hdone : (f.step m).1 = true) :
    (f.step m).2.1.state = .ok ∨ (f.step m).2.1.state = .failed := by
  rw [step] at hdone ⊢
  split at hdone
  · split at hdone <;> cases hdone
  · split at hdone
    · split at hdone <;> cases hdone
    · cases hdone
  · next hstate => exact .inl hstate
  · next hstate => exact .inr hstate

theorem UnloadToFinda.reset_activeSlot (f : UnloadToFinda) (maxTries : UInt8) :
    (f.reset maxTries m).2.activeSlot = m.activeSlot := by
  rw [reset]
  split <;> rfl

theorem UnloadToFinda.step_activeSlot (f : UnloadToFinda) :
    (f.step m).2.2.activeSlot = m.activeSlot := by
  rw [step]
  split
  · split
    · rfl
    · split
      · split <;> rfl
      · split <;> rfl
  · split <;> rfl
  · split
    · rfl
    · split
      · rfl
      · split
        · split
          · exact reset_activeSlot _ _
          · rfl
        · rfl
  all_goals rfl

theorem Command.errDisengagingIdler_activeSlot {δ : Type} (c : Command δ) :
    (c.errDisengagingIdler m).2.activeSlot = m.activeSlot := by
  rw [errDisengagingIdler]
  split <;> rfl

end ActiveSlot

namespace UnloadFilament

variable {c : UnloadFilament} {m : Modules} {slot : UInt8}

/-- The slot stays the one the unload has begun with, and the idler is to be disengaged. -/
structure Follows (slot : UInt8) (c : UnloadFilament) (m : Modules) : Prop where
  activeSlot : m.activeSlot = slot
  skip : c.data.skipDisengagingIdler = false

structure Done (slot : UInt8) (m : Modules) : Prop where
  activeSlot : m.activeSlot = slot
  filamentLoaded : m.filamentLoaded = .atPulley
  disengaged : m.idler.disengaged = true

theorem follows_reset (hloaded : nothingLoaded m = false) :
    (reset c m).1.state = .unloadingToFinda ∧ Follows m.activeSlot (reset c m).1 (reset c m).2 := by
  rw [reset, hloaded]
  exact ⟨rfl, UnloadToFinda.reset_activeSlot _ _, rfl⟩

theorem reset_activeSlot : (reset c m).2.activeSlot = m.activeSlot := by
  rw [reset]
  split
  · rfl
  · exact UnloadToFinda.reset_activeSlot _ _

theorem Follows.reset (h : Follows slot c m) : Follows slot (reset c m).1 (reset c m).2 := by
  refine ⟨reset_activeSlot.trans h.activeSlot, ?_⟩
  rw [UnloadFilament.reset]
  split
  · exact h.skip
  · rfl

theorem state_of_reset_ok (hok : (reset c m).1.state = .ok) : c.state = .ok := by
  rw [UnloadFilament.reset] at hok
  split at hok
  · exact hok
  · cases hok

theorem Follows.goToRecheckFilamentAgainstFINDA (h : Follows slot c m) :
    Follows slot (goToRecheckFilamentAgainstFINDA c m).1
      (goToRecheckFilamentAgainstFINDA c m).2 := by
  have hfeed := (FeedToFinda.reset_activeSlot true).trans h.activeSlot
  rw [UnloadFilament.goToRecheckFilamentAgainstFINDA]
  dsimp only
  split
  · exact ⟨hfeed, h.skip⟩
  · exact ⟨hfeed, h.skip⟩

theorem Follows.stepInner (h : Follows slot c m) (hbusy : c.state ≠ .ok) :
    Follows slot (stepInner c m).2.1 (stepInner c m).2.2 ∧
      ((stepInner c m).2.1.state = .ok → Done slot (stepInner c m).2.2) := by
  obtain ⟨hslot, hskip⟩ := h
  rw [UnloadFilament.stepInner]
  split
  · next hstate =>
      have hunl := (c.data.unl.step_activeSlot (m := m)).trans hslot
      dsimp only
      split
      · split
        · exact ⟨⟨hunl, hskip⟩, nofun⟩
        · split
          · exact ⟨⟨hunl, hskip⟩, nofun⟩
          · exact ⟨⟨hunl, hskip⟩, nofun⟩
      · exact ⟨⟨hunl, hskip⟩, fun hok => absurd hok hbusy⟩
  · next hstate =>
      have hretract := (c.data.retract.step_activeSlot (m := m)).trans hslot
      dsimp only
      split
      · split
        · exact ⟨⟨hretract, hskip⟩, nofun⟩
        · rw [if_neg (by rw [hskip]; exact fun h => Bool.false_ne_true h.1)]
          exact ⟨⟨hretract, hskip⟩, nofun⟩
      · exact ⟨⟨hretract, hskip⟩, fun hok => absurd hok hbusy⟩
  · split
    · next hthere => exact ⟨⟨hslot, hskip⟩, fun _ => ⟨hslot, rfl, hthere.1⟩⟩
    · exact ⟨⟨hslot, hskip⟩, fun hok => absurd hok hbusy⟩
  · refine ⟨⟨(c.errDisengagingIdler_activeSlot).trans hslot, ?_⟩, ?_⟩
    · rw [Command.errDisengagingIdler]
      split <;> exact hskip
    · rw [Command.errDisengagingIdler]
      split
      · nofun
      · exact fun hok => absurd hok hbusy
  · next hstate =>
      have hinvalidated : Follows slot c m.consumeEvent.2.invalidateHoming := ⟨hslot, hskip⟩
      dsimp only
      split
      · split
        · exact ⟨hinvalidated.reset, fun hok => absurd (state_of_reset_ok hok) hbusy⟩
        · split
          · exact ⟨hinvalidated, fun hok => absurd hok hbusy⟩
          · refine ⟨hinvalidated.goToRecheckFilamentAgainstFINDA, ?_⟩
            rw [UnloadFilament.goToRecheckFilamentAgainstFINDA]
            dsimp only
            split <;> nofun
      · exact ⟨⟨hslot, hskip⟩, fun hok => absurd hok hbusy⟩
  · next hstate =>
      have hfeed := (c.data.feed.step_activeSlot (m := m)).trans hslot
      dsimp only
      split
      · split
        · exact ⟨⟨hfeed, hskip⟩, nofun⟩
        · exact ⟨⟨hfeed, hskip⟩, nofun⟩
      · exact ⟨⟨hfeed, hskip⟩, fun hok => absurd hok hbusy⟩
  · next hstate => exact absurd hstate hbusy
  · exact ⟨⟨hslot, hskip⟩, nofun⟩

end UnloadFilament

namespace LoadFilament

variable {c : LoadFilament} {m : Modules} {slot : UInt8}

/-- The slot is the requested one; the filament is back at the pulley where it has been
retracted. -/
structure Follows (slot : UInt8) (c : LoadFilament) (m : Modules) : Prop where
  activeSlot : m.activeSlot = slot
  retracted : c.state = .retractingFromFinda → c.data.retract.state = .ok →
    m.filamentLoaded = .atPulley
  disengaging : c.state = .disengagingIdler → m.filamentLoaded = .atPulley

structure Done (slot : UInt8) (m : Modules) : Prop where
  activeSlot : m.activeSlot = slot
  filamentLoaded : m.filamentLoaded = .atPulley
  selector : m.selector.currentSlot = slot
  disengaged : m.idler.disengaged = true

/-- In the other states only the slot matters. -/
theorem follows_of_state (hslot : m.activeSlot = slot) (hretracting : c.state ≠ .retractingFromFinda)
    (hdisengaging : c.state ≠ .disengagingIdler) : Follows slot c m :=
  ⟨hslot, fun h => absurd h hretracting, fun h => absurd h hdisengaging⟩

theorem follows_reset2 (feedPhaseLimited : Bool) (hslot : m.activeSlot = slot) :
    Follows slot (reset2 c feedPhaseLimited m).1 (reset2 c feedPhaseLimited m).2 ∧
      (reset2 c feedPhaseLimited m).1.state ≠ .ok := by
  have hfeed := (FeedToFinda.reset_activeSlot feedPhaseLimited).trans hslot
  rw [reset2]
  dsimp only
  split
  · exact ⟨follows_of_state hfeed nofun nofun, nofun⟩
  · exact ⟨follows_of_state hfeed nofun nofun, nofun⟩

theorem follows_reset {param : UInt8} (haccepted : (reset c param m).1 = true) :
    Follows param (reset c param m).2.1 (reset c param m).2.2 ∧
      (reset c param m).2.1.state ≠ .ok := by
  rw [reset, Command.checkToolIndex] at haccepted ⊢
  by_cases hinvalid : param ≥ Config.toolCount
  · rw [if_pos hinvalid] at haccepted
    cases haccepted
  · rw [if_neg hinvalid] at haccepted ⊢
    dsimp only at haccepted ⊢
    rw [if_neg (by decide)] at haccepted ⊢
    split at haccepted
    · cases haccepted
    · next hbelow =>
        split at haccepted
        · cases haccepted
        · next hthis =>
            rw [if_neg hbelow, if_neg hthis]
            exact follows_reset2 _ rfl

/-- A refused start leaves the state as it is. -/
theorem state_reset_of_refused {param : UInt8} (hrefused : (reset c param m).1 = false) :
    (reset c param m).2.1.state = c.state := by
  rw [reset, Command.checkToolIndex] at hrefused ⊢
  by_cases hinvalid : param ≥ Config.toolCount
  · rw [if_pos hinvalid]
    rfl
  · rw [if_neg hinvalid] at hrefused ⊢
    dsimp only at hrefused ⊢
    rw [if_neg (by decide)] at hrefused ⊢
    split at hrefused
    · next habove => rw [if_pos habove]
    · next hbelow =>
        rw [if_neg hbelow]
        split at hrefused
        · next hother => rw [if_pos hother]
        · cases hrefused

theorem Follows.resetLimited (h : Follows slot c m) (hbusy : c.state ≠ .ok) :
    Follows slot (resetLimited c m.activeSlot m).1 (resetLimited c m.activeSlot m).2 ∧
      (resetLimited c m.activeSlot m).1.state ≠ .ok := by
  rw [LoadFilament.resetLimited, Command.checkToolIndex]
  by_cases hinvalid : m.activeSlot ≥ Config.toolCount
  · rw [if_pos hinvalid]
    exact ⟨⟨h.activeSlot, h.retracted, h.disengaging⟩, hbusy⟩
  · rw [if_neg hinvalid]
    exact follows_reset2 _ h.activeSlot

theorem follows_goToRetractingFromFinda (hslot : m.activeSlot = slot) :
    Follows slot (goToRetractingFromFinda c m).1 (goToRetractingFromFinda c m).2 :=
  ⟨hslot, fun _ => nofun, nofun⟩

theorem Follows.stepInner (h : Follows slot c m) (hbusy : c.state ≠ .ok) :
    Follows slot (stepInner c m).2.1 (stepInner c m).2.2 ∧
      ((stepInner c m).2.1.state = .ok → Done slot (stepInner c m).2.2) := by
  have hslot := h.activeSlot
  rw [LoadFilament.stepInner]
  split
  · next hstate =>
      have hfeed := (c.data.feed.step_activeSlot (m := m)).trans hslot
      have hhere : Follows slot
          { c with data := { c.data with feed := (c.data.feed.step m).2.1 } }
          (c.data.feed.step m).2.2 := by
        refine follows_of_state hfeed ?_ ?_
        all_goals
          rw [hstate]
          decide
      dsimp only
      split
      · split
        · exact ⟨follows_of_state hfeed nofun nofun, nofun⟩
        · exact ⟨follows_goToRetractingFromFinda hfeed, nofun⟩
        · exact ⟨follows_goToRetractingFromFinda hfeed, nofun⟩
        · exact ⟨hhere, fun hok => absurd hok hbusy⟩
      · exact ⟨hhere, fun hok => absurd hok hbusy⟩
  · next hstate =>
      have hretract := (c.data.retract.step_activeSlot (m := m)).trans hslot
      have hloaded : (c.data.retract.step m).2.1.state = .ok →
          (c.data.retract.step m).2.2.filamentLoaded = .atPulley :=
        RetractFromFinda.step_filamentLoaded (h.retracted hstate)
      have hnext : ∀ data : LoadFilamentData, data.retract = (c.data.retract.step m).2.1 →
          Follows slot { c with data } (c.data.retract.step m).2.2 := by
        intro data hdata
        refine ⟨hretract, fun _ hok => hloaded (hdata ▸ hok), ?_⟩
        show c.state = .disengagingIdler → _
        rw [hstate]
        nofun
      dsimp only
      split
      · next hdone =>
          split
          · exact ⟨follows_of_state hretract nofun nofun, nofun⟩
          · next hfailed =>
              split
              · have hverified := hnext
                  { c.data with
                    retract := (c.data.retract.step m).2.1
                    verifyLoadedFilament := c.data.verifyLoadedFilament - 1 } rfl
                obtain ⟨hfollows, hstill⟩ := hverified.resetLimited hbusy
                exact ⟨hfollows, fun hok => absurd hok hstill⟩
              · have hok := (RetractFromFinda.step_done hdone).resolve_right hfailed
                exact ⟨⟨hretract, nofun, fun _ => hloaded hok⟩, nofun⟩
      · exact ⟨hnext _ rfl, fun hok => absurd hok hbusy⟩
  · next hstate =>
      split
      · next hthere =>
          refine ⟨⟨hslot, nofun, nofun⟩, fun _ => ⟨hslot, h.disengaging hstate, ?_, hthere.1⟩⟩
          exact hthere.2.trans hslot
      · exact ⟨h, fun hok => absurd hok hbusy⟩
  · next hstate => exact absurd hstate hbusy
  · next hstate =>
      rw [Command.errDisengagingIdler]
      split
      · exact ⟨follows_of_state hslot nofun nofun, nofun⟩
      · exact ⟨h, fun hok => absurd hok hbusy⟩
  · next hstate =>
      dsimp only
      split
      · split
        · obtain ⟨hfollows, hstill⟩ := follows_reset2 (c := c)
            (m := m.consumeEvent.2.resumeIdlerSelector) false hslot
          exact ⟨hfollows, fun hok => absurd hok hstill⟩
        · exact ⟨follows_goToRetractingFromFinda hslot, nofun⟩
      · exact ⟨⟨hslot, h.retracted, h.disengaging⟩, fun hok => absurd hok hbusy⟩
  · exact ⟨follows_of_state hslot nofun nofun, nofun⟩

end LoadFilament

namespace FeedToBondtech

variable {f : FeedToBondtech} {m : Modules}

/-- How far the filament has been pushed. Once the idler has been told to disengage, it is
disengaged only if that is still planned. -/
structure Pushed (f : FeedToBondtech) (m : Modules) : Prop where
  loaded : f.state = .partiallyDisengagingIdler ∨ f.state = .disengagingIdler ∨ f.state = .ok →
    m.filamentLoaded = .inNozzle
  disengages : f.state = .disengagingIdler ∨ f.state = .ok → m.idler.disengaged = true →
    m.idler.ext.plannedMove = .disengage
  disengaged : f.state = .ok → m.idler.disengaged = true

theorem pushed_of_state (hpartially : f.state ≠ .partiallyDisengagingIdler)
    (hdisengaging : f.state ≠ .disengagingIdler) (hok : f.state ≠ .ok) : f.Pushed m := by
  refine ⟨?_, ?_, fun h => absurd h hok⟩
  · rintro (h | h | h)
    · exact absurd h hpartially
    · exact absurd h hdisengaging
    · exact absurd h hok
  · rintro (h | h)
    · exact absurd h hdisengaging
    · exact absurd h hok

theorem Pushed.keeps (h : f.Pushed m) {m' : Modules} (hm : m.Keeps m') : f.Pushed m' := by
  have hplanned := hm.idler.plannedMove
  refine ⟨fun hstate => hm.filamentLoaded.trans (h.loaded hstate), fun hstate hthere => ?_,
    fun hok => ?_⟩
  · have hthere : m'.idler.ext.currentlyEngaged = .disengage := beq_iff_eq.mp hthere
    rw [hplanned]
    rcases hm.idler.currentlyEngaged with heq | heq
    · exact h.disengages hstate (beq_iff_eq.mpr (heq.symm.trans hthere))
    · exact heq.symm.trans hthere
  · have hthere := h.disengaged hok
    refine beq_iff_eq.mpr ?_
    rcases hm.idler.currentlyEngaged with heq | heq
    · exact heq.trans (beq_iff_eq.mp hthere)
    · exact heq.trans (h.disengages (.inr hok) hthere)

theorem step_activeSlot : (f.step m).2.2.activeSlot = m.activeSlot := by
  rw [step]
  split
  · split <;> rfl
  · split
    · rfl
    · split <;> rfl
  · split
    · rfl
    · split <;> rfl
  · split <;> rfl
  · split <;> rfl
  · split <;> rfl
  all_goals rfl

theorem currentlyEngaged_planMoveInner (i : Idler) (g : Globals) (slot : UInt8)
    (op : IdlerOperation) :
    (i.planMoveInner g slot op).2.ext.currentlyEngaged = i.ext.currentlyEngaged := by
  rw [Idler.planMoveInner]
  split
  · rfl
  · dsimp only
    split
    · rfl
    · split
      · rw [Idler.planHome_ext]
      · split <;> rfl

theorem Pushed.step (h : f.Pushed m) : (f.step m).2.1.Pushed (f.step m).2.2 := by
  rw [FeedToBondtech.step]
  split
  · split
    · exact pushed_of_state nofun nofun nofun
    · exact h
  · split
    · exact pushed_of_state nofun nofun nofun
    · split
      · exact pushed_of_state nofun nofun nofun
      · exact h
  · split
    · exact pushed_of_state nofun nofun nofun
    · split
      · exact pushed_of_state nofun nofun nofun
      · exact h
  · split
    · exact ⟨fun _ => rfl, nofun, nofun⟩
    · exact h
  · next hstate =>
      split
      · next hpartially =>
          refine ⟨fun _ => h.loaded (.inl hstate), fun _ hthere => ?_, nofun⟩
          -- the idler is still partially engaged when it is told to disengage
          have hthere := beq_iff_eq.mp hthere
          have hstill : m.idler.ext.currentlyEngaged = .disengage :=
            (currentlyEngaged_planMoveInner _ _ _ _).symm.trans hthere
          exact absurd (hstill.symm.trans (beq_iff_eq.mp hpartially)) (by decide)
      · exact h
  · next hstate =>
      split
      · next hthere =>
          exact ⟨fun _ => h.loaded (.inr (.inl hstate)),
            fun _ => h.disengages (.inl hstate), fun _ => hthere⟩
      · exact h
  all_goals exact h

theorem step_done (hdone : (f.step m).1 = true) :
    (f.step m).2.1.state = .ok ∨ (f.step m).2.1.state = .failed ∨
      (f.step m).2.1.state = .fsensorTooEarly := by
  revert hdone
  rw [step]
  split
  · split <;> nofun
  · split
    · nofun
    · split <;> nofun
  · split
    · nofun
    · split <;> nofun
  · split <;> nofun
  · split <;> nofun
  · split <;> nofun
  · next hstate => exact fun _ => .inl hstate
  · next hstate => exact fun _ => .inr (.inl hstate)
  · next hstate => exact fun _ => .inr (.inr hstate)

end FeedToBondtech

namespace ToolChange

variable {c : ToolChange} {m : Modules} {slot : UInt8}

/-- The slot is remembered during the unload and active afterwards. -/
structure Follows (slot : UInt8) (c : ToolChange) (m : Modules) : Prop where
  planned : c.data.plannedSlot = slot
  activeSlot : c.state ≠ .unloadingFilament → m.activeSlot = slot
  pushed : c.state = .feedingToBondtech → c.data.james.Pushed m

structure Done (slot : UInt8) (m : Modules) : Prop where
  activeSlot : m.activeSlot = slot
  filamentLoaded : m.filamentLoaded = .inNozzle
  disengaged : m.idler.disengaged = true

theorem follows_of_state (hplanned : c.data.plannedSlot = slot) (hslot : m.activeSlot = slot)
    (hstate : c.state ≠ .feedingToBondtech) : Follows slot c m :=
  ⟨hplanned, fun _ => hslot, fun h => absurd h hstate⟩

theorem follows_goToFeedingToFinda (hplanned : c.data.plannedSlot = slot) :
    Follows slot (goToFeedingToFinda c m).1 (goToFeedingToFinda c m).2 ∧
      (goToFeedingToFinda c m).1.state ≠ .ok := by
  have hfeed : (FeedToFinda.reset true
      (m.setFilamentLoaded c.data.plannedSlot .atPulley)).2.2.activeSlot = slot :=
    (FeedToFinda.reset_activeSlot true).trans hplanned
  rw [goToFeedingToFinda]
  dsimp only
  split
  · exact ⟨follows_of_state hplanned hfeed nofun, nofun⟩
  · exact ⟨follows_of_state hplanned hfeed nofun, nofun⟩

/-- A start that has something to do. -/
theorem follows_reset {param : UInt8} (haccepted : (reset c param m).1 = true)
    (hwork : nothingToDo param m = false) :
    Follows param (reset c param m).2.1 (reset c param m).2.2 ∧
      (reset c param m).2.1.state ≠ .ok := by
  rw [reset, Command.checkToolIndex] at haccepted ⊢
  by_cases hinvalid : param ≥ Config.toolCount
  · rw [if_pos hinvalid] at haccepted
    cases haccepted
  · rw [if_neg hinvalid]
    dsimp only
    rw [if_neg (by decide), hwork, if_neg (by decide)]
    split
    · exact ⟨⟨rfl, fun h => absurd rfl h, nofun⟩, nofun⟩
    · have hfeed : (FeedToFinda.reset true
          ((m.setPrinterInCharge true).setFilamentLoaded param .inSelector)).2.2.activeSlot =
            param :=
        FeedToFinda.reset_activeSlot true
      split
      · exact ⟨follows_of_state rfl hfeed nofun, nofun⟩
      · exact ⟨follows_of_state rfl hfeed nofun, nofun⟩

/-- A start with an invalid slot or with nothing to do only touches the error. -/
theorem reset_cases (c : ToolChange) (param : UInt8) (m : Modules) :
    (∃ error, (reset c param m).2 = ({ c with error }, m)) ∨
      (reset c param m).1 = true ∧ nothingToDo param m = false := by
  rw [reset, Command.checkToolIndex]
  by_cases hinvalid : param ≥ Config.toolCount
  · rw [if_pos hinvalid]
    exact .inl ⟨_, rfl⟩
  · rw [if_neg hinvalid]
    dsimp only
    rw [if_neg (by decide)]
    cases nothingToDo param m with
    | true => exact .inl ⟨_, rfl⟩
    | false =>
        refine .inr ⟨?_, rfl⟩
        rw [if_neg (by decide)]
        split
        · rfl
        · split <;> rfl

/-- A retry goes on with the slot that is active by now. -/
theorem Follows.reset (h : Follows slot c m) (hstate : c.state = .errWaitingForUser) :
    Follows slot (ToolChange.reset c m.activeSlot m).2.1 (ToolChange.reset c m.activeSlot m).2.2 ∧
      (ToolChange.reset c m.activeSlot m).2.1.state ≠ .ok := by
  have hslot := h.activeSlot (by rw [hstate]; decide)
  rcases reset_cases c m.activeSlot m with ⟨error, heq⟩ | ⟨haccepted, hwork⟩
  · rw [heq]
    refine ⟨⟨h.planned, h.activeSlot, h.pushed⟩, ?_⟩
    show c.state ≠ .ok
    rw [hstate]
    decide
  · have hreset := follows_reset haccepted hwork
    rwa [hslot] at hreset ⊢

theorem Follows.retry (h : Follows slot c m) (hstate : c.state = .errWaitingForUser) :
    Follows slot (ToolChange.retry c m).1 (ToolChange.retry c m).2 ∧
      (ToolChange.retry c m).1.state ≠ .ok := by
  have hinvalidated : Follows slot c m.invalidateHoming := by
    refine ⟨h.planned, h.activeSlot, fun hfeeding => ?_⟩
    rw [hstate] at hfeeding
    cases hfeeding
  have hreset := hinvalidated.reset hstate
  rw [ToolChange.retry]
  split
  · exact hreset
  · split
    · exact follows_goToFeedingToFinda h.planned
    · split
      · exact hreset
      · exact follows_goToFeedingToFinda h.planned

theorem Follows.stepInner (h : Follows slot c m) (hbusy : c.state ≠ .ok) :
    Follows slot (stepInner c m).2.1 (stepInner c m).2.2 ∧
      ((stepInner c m).2.1.state = .ok → Done slot (stepInner c m).2.2) := by
  have hplanned := h.planned
  rw [ToolChange.stepInner]
  split
  · next hstate =>
      dsimp only
      split
      · obtain ⟨hfollows, hstill⟩ := follows_goToFeedingToFinda
          (c := { c with data := { c.data with unl := (UnloadFilament.stepInner c.data.unl m).2.1 } })
          (m := (UnloadFilament.stepInner c.data.unl m).2.2) hplanned
        exact ⟨hfollows, fun hok => absurd hok hstill⟩
      · refine ⟨⟨hplanned, fun hne => absurd hstate hne, fun hfeeding => ?_⟩,
          fun hok => absurd hok hbusy⟩
        exact absurd (hstate.symm.trans hfeeding) (by decide)
  · next hstate =>
      have hslot := h.activeSlot (by rw [hstate]; decide)
      have hfeed := (c.data.feed.step_activeSlot (m := m)).trans hslot
      dsimp only
      split
      · split
        · exact ⟨follows_of_state hplanned hfeed nofun, nofun⟩
        · refine ⟨⟨hplanned, fun _ => hfeed, fun _ => ?_⟩, nofun⟩
          exact FeedToBondtech.pushed_of_state nofun nofun nofun
      · refine ⟨follows_of_state hplanned hfeed fun hfeeding => ?_, fun hok => absurd hok hbusy⟩
        exact absurd (hstate.symm.trans hfeeding) (by decide)
  · next hstate =>
      have hslot := h.activeSlot (by rw [hstate]; decide)
      have hfeed := (c.data.james.step_activeSlot (m := m)).trans hslot
      have hpushed := (h.pushed hstate).step
      dsimp only
      split
      · next hdone =>
          split
          · exact ⟨follows_of_state hplanned hfeed nofun, nofun⟩
          · exact ⟨follows_of_state hplanned hfeed nofun, nofun⟩
          · next hfailed hearly =>
              have hok : (c.data.james.step m).2.1.state = .ok := by
                rcases FeedToBondtech.step_done hdone with hok | hstate | hstate
                · exact hok
                · exact absurd hstate hfailed
                · exact absurd hstate hearly
              refine ⟨follows_of_state hplanned hfeed nofun, fun _ => ⟨hfeed, ?_, ?_⟩⟩
              · exact hpushed.loaded (.inr (.inr hok))
              · exact hpushed.disengaged hok
      · exact ⟨⟨hplanned, fun _ => hfeed, fun _ => hpushed⟩, fun hok => absurd hok hbusy⟩
  · next hstate => exact absurd hstate hbusy
  · next hstate =>
      have hslot := h.activeSlot (by rw [hstate]; decide)
      rw [Command.errDisengagingIdler]
      split
      · exact ⟨follows_of_state hplanned hslot nofun, nofun⟩
      · exact ⟨h, fun hok => absurd hok hbusy⟩
  · next hstate =>
      have hslot := h.activeSlot (by rw [hstate]; decide)
      have hconsumed : Follows slot c m.consumeEvent.2 := by
        refine follows_of_state hplanned hslot ?_
        rw [hstate]
        decide
      dsimp only
      split
      · obtain ⟨hfollows, hstill⟩ := hconsumed.retry hstate
        exact ⟨hfollows, fun hok => absurd hok hstill⟩
      · exact ⟨hconsumed, fun hok => absurd hok hbusy⟩
  · next hunloading _ _ _ _ _ =>
      exact ⟨follows_of_state hplanned (h.activeSlot hunloading) nofun, nofun⟩

end ToolChange

namespace CommandId

/-- A start that changes nothing: the slot is loaded already, or there is nothing to unload. -/
def nothingToDo : CommandId → UInt8 → Modules → Bool
  | .toolChange, param, m => ToolChange.nothingToDo param m
  | .unloadFilament, _, m => UnloadFilament.nothingLoaded m
  | _, _, _ => false

/-- The slot a command is about. -/
def targetSlot : CommandId → UInt8 → Modules → UInt8
  | .unloadFilament, _, m => m.activeSlot
  | _, param, _ => param

/-- What holds while a command is on its way to `Done`. -/
def Follows : (id : CommandId) → UInt8 → id.Object → Modules → Prop
  | .toolChange => ToolChange.Follows
  | .loadFilament => LoadFilament.Follows
  | .unloadFilament => UnloadFilament.Follows
  | .startUp | .noCommand | .cutFilament | .ejectFilament | .home | .moveSelector | .setMode =>
      fun _ _ _ => True

/-- What a tool change, a load and an unload achieve. -/
def Done : CommandId → UInt8 → Modules → Prop
  | .toolChange => ToolChange.Done
  | .loadFilament => LoadFilament.Done
  | .unloadFilament => UnloadFilament.Done
  | .startUp | .noCommand | .cutFilament | .ejectFilament | .home | .moveSelector | .setMode =>
      fun _ _ => True

variable {id : CommandId} {c c' : id.Object} {m m' : Modules} {slot param : UInt8}

theorem Follows.congr (h : id.Follows slot c m) (hstate : c'.state = c.state)
    (hdata : c'.data = c.data) (hm : m.Keeps m') : id.Follows slot c' m' := by
  cases id with
  | toolChange =>
      refine ⟨?_, ?_, ?_⟩
      · rw [hdata]
        exact h.planned
      · rw [hstate]
        exact fun hne => hm.activeSlot.trans (h.activeSlot hne)
      · rw [hstate, hdata]
        exact fun hfeeding => (h.pushed hfeeding).keeps hm
  | loadFilament =>
      refine ⟨hm.activeSlot.trans h.activeSlot, ?_, ?_⟩
      · rw [hstate, hdata]
        exact fun hretracting hok => hm.filamentLoaded.trans (h.retracted hretracting hok)
      · rw [hstate]
        exact fun hdisengaging => hm.filamentLoaded.trans (h.disengaging hdisengaging)
  | unloadFilament =>
      refine ⟨hm.activeSlot.trans h.activeSlot, ?_⟩
      rw [hdata]
      exact h.skip
  | startUp | noCommand | cutFilament | ejectFilament | home | moveSelector | setMode => trivial

theorem Follows.adrift (h : id.Follows slot c m) (hstate : Running.Adrift c.state)
    (hstate' : Running.Adrift c'.state) (hdata : c'.data = c.data) (hm : m.Keeps m') :
    id.Follows slot c' m' := by
  have hne : ∀ {s : ProgressCode}, Running.Adrift s → s ≠ .unloadingFilament ∧
      s ≠ .feedingToBondtech ∧ s ≠ .retractingFromFinda ∧ s ≠ .disengagingIdler := by
    rintro s (rfl | rfl | rfl) <;> decide
  obtain ⟨hunloading, hfeeding, hretracting, hdisengaging⟩ := hne hstate'
  cases id with
  | toolChange =>
      refine ToolChange.follows_of_state ?_ ?_ hfeeding
      · rw [hdata]
        exact h.planned
      · exact hm.activeSlot.trans (h.activeSlot (hne hstate).1)
  | loadFilament =>
      exact LoadFilament.follows_of_state (hm.activeSlot.trans h.activeSlot) hretracting hdisengaging
  | unloadFilament =>
      refine ⟨hm.activeSlot.trans h.activeSlot, ?_⟩
      rw [hdata]
      exact h.skip
  | startUp | noCommand | cutFilament | ejectFilament | home | moveSelector | setMode => trivial

theorem Follows.stepInner (h : id.Follows slot c m) (hbusy : c.state ≠ .ok) :
    id.Follows slot (id.stepInner c m).2.1 (id.stepInner c m).2.2 ∧
      ((id.stepInner c m).2.1.state = .ok → id.Done slot (id.stepInner c m).2.2) := by
  cases id with
  | toolChange => exact ToolChange.Follows.stepInner h hbusy
  | loadFilament => exact LoadFilament.Follows.stepInner h hbusy
  | unloadFilament => exact UnloadFilament.Follows.stepInner h hbusy
  | startUp | noCommand | cutFilament | ejectFilament | home | moveSelector | setMode =>
      exact ⟨trivial, fun _ => trivial⟩

/-- The commands that bring filament to a place. -/
def bringsFilament (id : CommandId) : Bool :=
  id == .toolChange || id == .loadFilament || id == .unloadFilament

theorem follows_reset (hid : id.bringsFilament) (haccepted : (id.reset c param m).1 = true)
    (hwork : id.nothingToDo param m = false) :
    id.Follows (id.targetSlot param m) (id.reset c param m).2.1 (id.reset c param m).2.2 ∧
      (id.reset c param m).2.1.state ≠ .ok := by
  cases id with
  | toolChange => exact ToolChange.follows_reset haccepted hwork
  | loadFilament => exact LoadFilament.follows_reset haccepted
  | unloadFilament =>
      obtain ⟨hstate, hfollows⟩ := UnloadFilament.follows_reset (c := c) hwork
      refine ⟨hfollows, ?_⟩
      show (UnloadFilament.reset c m).1.state ≠ .ok
      rw [hstate]
      decide
  | startUp | noCommand | cutFilament | ejectFilament | home | moveSelector | setMode => cases hid

theorem reset_of_refused (hid : id.bringsFilament) (hrefused : (id.reset c param m).1 = false) :
    (id.reset c param m).2.1.state = c.state ∧
      (id = .toolChange → (id.reset c param m).2.1.data = c.data) := by
  cases id with
  | toolChange =>
      rcases ToolChange.reset_cases c param m with ⟨error, heq⟩ | ⟨haccepted, -⟩
      · have hstate : (ToolChange.reset c param m).2.1.state = c.state := by rw [heq]
        have hdata : (ToolChange.reset c param m).2.1.data = c.data := by rw [heq]
        exact ⟨hstate, fun _ => hdata⟩
      · exact absurd (haccepted.symm.trans hrefused) (by decide)
  | loadFilament => exact ⟨LoadFilament.state_reset_of_refused hrefused, nofun⟩
  | unloadFilament => cases hrefused
  | startUp | noCommand | cutFilament | ejectFilament | home | moveSelector | setMode => cases hid

end CommandId

end MmuFirmware
