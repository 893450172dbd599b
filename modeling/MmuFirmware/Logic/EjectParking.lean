import MmuFirmware.Logic.Commands
import MmuFirmware.Logic.Recovery
import MmuFirmware.Modules.ParkedSelector

/-!
Where the selector is while a filament is ejected. The command parks it and then relies on it:
as long as all queues are empty only once the selector has settled, it is at the parked position
when the filament is pushed, whatever failures of modules come in between.
-/
namespace MmuFirmware

namespace EjectFilament

theorem parkedPos_le (slot : UInt8) : parkedPos slot ≤ Config.toolCount := by
  rw [parkedPos]
  split <;> decide

/-- Where the selector has to be in the states that park it or rely on it. -/
structure Fits (state : ProgressCode) (slot : UInt8) (s : Selector) : Prop where
  parking : state = .parkingSelector → s.Heads (parkedPos slot)
  engaging : state = .engagingIdler → s.Parked (parkedPos slot)

/-- The command waits for a failed module, with the code of the failure. -/
def AwaitsModule (c : EjectFilament) : Prop :=
  c.state = .errWaitingForUser ∧ c.error ≠ .filamentEjected ∧ c.error ≠ .findaFlickers

structure Parks (r : Running EjectFilamentData) : Prop where
  recovering : r.recovery.remembers →
    r.command.state = .errInternal ∨ r.command.state = .homing ∨ AwaitsModule r.command
  fits : Fits r.resumed r.command.data.slot r.modules.selector
  held : r.resumed = .engagingIdler → r.modules.selector.onHold = true →
    r.command.state = .errWaitingForUser ∨ r.command.state = .errInternal

section Fits

variable {state : ProgressCode} {slot : UInt8} {s s' : Selector}

theorem fits_of_ne (hparking : state ≠ .parkingSelector) (hengaging : state ≠ .engagingIdler) :
    Fits state slot s :=
  ⟨fun h => absurd h hparking, fun h => absurd h hengaging⟩

theorem fits_of_adrift (h : Running.Adrift state) : Fits state slot s := by
  rcases h with rfl | rfl | rfl
  · exact fits_of_ne (by decide) (by decide)
  · exact fits_of_ne (by decide) (by decide)
  · exact fits_of_ne (by decide) (by decide)

theorem Fits.congr (h : Fits state slot s) (hstate : s'.state = s.state)
    (hvalid : s'.homingValid = s.homingValid) (hcurrent : s'.currentSlot = s.currentSlot)
    (hplanned : s'.plannedSlot = s.plannedSlot)
    (hblocks : s.axis.blocks = [] → s'.axis.blocks = []) : Fits state slot s' where
  parking hparking := (h.parking hparking).congr hstate hvalid hcurrent hplanned
  engaging hengaging := (h.engaging hengaging).congr hstate hvalid hcurrent hplanned hblocks

theorem Fits.holdOn (h : Fits state slot s) : Fits state slot (Movable.holdOn s) :=
  h.congr rfl rfl rfl rfl fun _ => (Movable.held_holdOn s).queue

theorem Fits.resume (h : Fits state slot s) : Fits state slot (Movable.resume s) :=
  h.congr rfl rfl rfl rfl id

theorem Fits.axis (h : Fits state slot s) (c : AxisCall) :
    Fits state slot { s with axis := c.run s.axis } :=
  h.congr rfl rfl rfl rfl c.run_blocks

theorem Fits.step (h : Fits state slot s) (g : Globals) (finda idlerHomingValid : Bool) :
    Fits state slot (s.step g finda idlerHomingValid) where
  parking hparking := (h.parking hparking).step g (parkedPos_le slot) finda idlerHomingValid
  engaging hengaging := ((h.engaging hengaging).step g finda idlerHomingValid).1

/-- A homing that has failed is tried again. -/
theorem Fits.planHome (h : Fits state slot s) (hfailed : s.state = .homingFailed) (g : Globals) :
    Fits state slot (Selector.planHome s g).2 where
  parking hparking := by
    refine Selector.heads_planHome g ((h.parking hparking).planned ?_ ?_)
    · rw [hfailed]
      decide
    · rw [hfailed]
      decide
  engaging hengaging := by
    rcases h.engaging hengaging with hstate | ⟨-, ⟨hstate, -⟩ | ⟨hstate, -⟩⟩
    · exact absurd (hstate.symm.trans hfailed) (by decide)
    · exact absurd (hstate.symm.trans hfailed) (by decide)
    · exact absurd (hstate.symm.trans hfailed) (by decide)

/-- A request that changes nothing, or sends a selector that is being parked where it has to go. -/
theorem Fits.moveToSlot (h : Fits state slot s) {finda : Bool} {slot' : UInt8}
    (hgoes : s.stays finda slot' = true ∨
      state ≠ .engagingIdler ∧ (state ≠ .parkingSelector ∨ slot' = parkedPos slot))
    (g : Globals) :
    Fits state slot (s.moveToSlot g finda slot').2 ∧
      (state = .engagingIdler → (s.moveToSlot g finda slot').2.state = s.state ∧
        (s.moveToSlot g finda slot').2.onHold = s.onHold) := by
  have hparked (hengaging : state = .engagingIdler) :=
    (h.engaging hengaging).moveToSlot_of_stays g
      (hgoes.resolve_right fun hother => hother.1 hengaging)
  refine ⟨⟨fun hparking => ?_, fun hengaging => (hparked hengaging).1⟩,
    fun hengaging => (hparked hengaging).2⟩
  have hheads := h.parking hparking
  rcases hgoes with hstays | ⟨-, hother | hsame⟩
  · exact hheads.moveToSlot_of_stays g hstays
  · exact absurd hparking hother
  · rw [hsame]
    exact hheads.moveToSlot_same g

end Fits

section Recovery

variable {r : Running EjectFilamentData} {ec : ErrorCode} {axis : Axis}

theorem Parks.enterModuleFailure (h : Parks r) (hec : ec ≠ .filamentEjected ∧ ec ≠ .findaFlickers) :
    Parks (r.enterModuleFailure ec) := by
  have hcarries := (Running.carries_enterModuleFailure (r := r) ec).1
  have hfits : Fits (r.enterModuleFailure ec).resumed (r.enterModuleFailure ec).command.data.slot
      (r.enterModuleFailure ec).modules.selector := by
    rw [hcarries.data]
    rcases hcarries.resumed with heq | ⟨-, hadrift⟩
    · rw [heq, Running.enterModuleFailure]
      split
      · exact h.fits.holdOn
      · exact h.fits
    · exact fits_of_adrift hadrift
  refine ⟨fun hrem => ?_, hfits, fun hengaging hhold => ?_⟩
  · rw [Running.enterModuleFailure] at hrem ⊢
    split
    · exact .inr (.inr ⟨rfl, hec⟩)
    · next hempty =>
        rw [if_neg hempty] at hrem
        exact h.recovering hrem
  · rw [Running.enterModuleFailure] at hengaging hhold ⊢
    split
    · exact .inl rfl
    · next hempty =>
        rw [if_neg hempty] at hengaging hhold
        exact h.held hengaging hhold

/-- Where the command is stopped, the state to go on in stays what it was, if there is one. -/
theorem parks_of_stopped {r' : Running EjectFilamentData}
    (hbefore : r'.recovery.stateBeforeModuleFailed = r.recovery.stateBeforeModuleFailed)
    (hslot : r'.command.data.slot = r.command.data.slot)
    (hrecovering : r'.command.state = .errInternal ∨ r'.command.state = .homing ∨
      AwaitsModule r'.command)
    (hfits : Fits r.resumed r.command.data.slot r'.modules.selector)
    (hheld : r'.modules.selector.onHold = true → r'.command.state = .errWaitingForUser ∨
      r'.command.state = .errInternal) : Parks r' := by
  refine ⟨fun _ => hrecovering, ?_, fun _ => hheld⟩
  rw [hslot]
  by_cases hrem : r.recovery.remembers
  · have hresumed : r'.resumed = r.resumed := by
      have hrem' : r'.recovery.remembers := by rwa [Recovery.remembers, hbefore]
      rw [Running.resumed_of_remembers hrem, Running.resumed_of_remembers hrem', hbefore]
    rwa [hresumed]
  · have hrem' : ¬ r'.recovery.remembers := by rwa [Recovery.remembers, hbefore]
    rw [Running.resumed_of_not_remembers hrem']
    rcases hrecovering with hstate | hstate | ⟨hstate, -⟩
    · rw [hstate]
      exact fits_of_ne (by decide) (by decide)
    · rw [hstate]
      exact fits_of_ne (by decide) (by decide)
    · rw [hstate]
      exact fits_of_ne (by decide) (by decide)

theorem Parks.failAgain (h : Parks r) (hec : ec ≠ .filamentEjected ∧ ec ≠ .findaFlickers) :
    Parks (r.failAgain ec) := by
  rw [Running.failAgain]
  split
  · exact parks_of_stopped (r := r) rfl rfl (.inr (.inr ⟨rfl, hec⟩)) h.fits.holdOn
      fun _ => .inl rfl
  · exact h

theorem Parks.awaitHomingRequest (h : Parks r)
    (hec : withoutAxisBits ec = .homingFailed → axis = .selector →
      r.modules.selector.state = .homingFailed) :
    Parks (r.awaitHomingRequest ec axis) := by
  rw [Running.awaitHomingRequest]
  split
  · next hwaits =>
      dsimp only
      split
      · cases axis with
        | idler | pulley =>
            exact parks_of_stopped (r := r) rfl rfl (.inr (.inl rfl)) h.fits.resume
              fun hhold => absurd hhold Bool.false_ne_true
        | selector =>
            exact parks_of_stopped (r := r) rfl rfl (.inr (.inl rfl))
              (h.fits.resume.planHome (hec hwaits.2 rfl) _)
              fun hhold => absurd hhold Bool.false_ne_true
      · exact ⟨h.recovering, h.fits, h.held⟩
  · exact h

theorem Parks.recovered (h : Parks r) (hstate : r.command.state = .homing) :
    Parks (r.recovered axis) := by
  have hresumed : (r.recovered axis).resumed = r.recovery.stateBeforeModuleFailed :=
    Running.resumed_of_not_remembers (Running.not_remembers_recovered axis)
  refine ⟨fun hrem => absurd hrem (Running.not_remembers_recovered axis), ?_, ?_⟩
  · rw [hresumed]
    by_cases hrem : r.recovery.remembers
    · rw [← Running.resumed_of_remembers hrem]
      exact h.fits
    · rw [not_not.mp hrem]
      exact fits_of_ne (by decide) (by decide)
  · intro hengaging hhold
    rw [hresumed] at hengaging
    have hrem : r.recovery.remembers := by
      rw [Recovery.remembers, hengaging]
      decide
    have hwaits := h.held ((Running.resumed_of_remembers hrem).trans hengaging) hhold
    rw [hstate] at hwaits
    exact absurd hwaits (by decide)

theorem Parks.waitForOne (h : Parks r) (axis : Axis) :
    Parks (r.waitForOneModuleErrorRecovery (r.modules.checkMovable axis) axis).2 := by
  have hec : r.modules.checkMovable axis ≠ .filamentEjected ∧
      r.modules.checkMovable axis ≠ .findaFlickers :=
    ⟨r.modules.checkMovable_ne (by cases axis <;> decide) (by decide),
      r.modules.checkMovable_ne (by cases axis <;> decide) (by decide)⟩
  rw [Running.waitForOneModuleErrorRecovery]
  split
  · refine ((h.enterModuleFailure hec).failAgain hec).awaitHomingRequest fun hcode haxis => ?_
    subst haxis
    have hfailed : r.modules.selector.state = .homingFailed := homingFailed_of_code hcode
    rw [Running.failAgain, Running.enterModuleFailure]
    split <;> split <;> exact hfailed
  · split
    · split
      · next hstate =>
          split
          · exact h.recovered hstate
          · exact h
      · exact h
    · exact h

theorem Parks.waitForModules (h : Parks r) : Parks r.waitForModulesErrorRecovery.2 :=
  ((h.waitForOne .idler).waitForOne .selector).waitForOne .pulley

end Recovery

section Step

variable {c : EjectFilament} {m : Modules}

/-- The selector is told to go to its parked position, or the command gives up. -/
theorem moveSelectorAside_parks :
    (moveSelectorAside c m).1.data = c.data ∧
      ((moveSelectorAside c m).1.state = .errDisengagingIdler ∨
        (moveSelectorAside c m).1.state = .parkingSelector ∧
          (moveSelectorAside c m).2.selector.Heads (parkedPos c.data.slot)) := by
  have hmoved {slot : UInt8} (haccepted : (m.selectorMoveToSlot slot).1 ≠ .refused) :
      (m.selectorMoveToSlot slot).2.selector.Heads slot :=
    Selector.heads_moveToSlot m.globals haccepted
  rw [moveSelectorAside, ← parkedPos]
  generalize parkedPos c.data.slot = pos
  dsimp only
  split
  · exact ⟨rfl, .inl rfl⟩
  · next haccepted => exact ⟨rfl, .inr ⟨rfl, hmoved haccepted⟩⟩

/-- A state and a selector as they have to be for a command that is not held up. -/
def Ready (c : EjectFilament) (s : Selector) : Prop :=
  Fits c.state c.data.slot s ∧ (c.state = .engagingIdler → s.onHold = false)

theorem ready_of_ne {s : Selector} (hparking : c.state ≠ .parkingSelector)
    (hengaging : c.state ≠ .engagingIdler) : Ready c s :=
  ⟨fits_of_ne hparking hengaging, fun h => absurd h hengaging⟩

theorem ready_moveSelectorAside :
    Ready (moveSelectorAside c m).1 (moveSelectorAside c m).2.selector := by
  obtain ⟨hdata, hstate | ⟨hstate, hheads⟩⟩ := moveSelectorAside_parks (c := c) (m := m)
  · refine ready_of_ne ?_ ?_
    · rw [hstate]
      decide
    · rw [hstate]
      decide
  · rw [Ready, hdata, hstate]
    exact ⟨⟨fun _ => hheads, fun hengaging => absurd hengaging (by decide)⟩,
      fun hengaging => absurd hengaging (by decide)⟩

theorem ready_reset {param : UInt8} (hparking : c.state ≠ .parkingSelector)
    (hengaging : c.state ≠ .engagingIdler) :
    Ready (reset c param m).2.1 (reset c param m).2.2.selector ∧
      (reset c param m).2.1.state ≠ .engagingIdler := by
  rw [reset, Command.checkToolIndex]
  by_cases hinvalid : param ≥ Config.toolCount
  · rw [if_pos hinvalid]
    exact ⟨ready_of_ne hparking hengaging, hengaging⟩
  · rw [if_neg hinvalid]
    dsimp only
    rw [if_neg (by decide)]
    split
    · exact ⟨ready_of_ne nofun nofun, nofun⟩
    · refine ⟨ready_moveSelectorAside, fun hstate => ?_⟩
      rcases moveSelectorAside_parks.2 with hparks | ⟨hparks, -⟩
      · exact absurd (hparks.symm.trans hstate) (by decide)
      · exact absurd (hparks.symm.trans hstate) (by decide)

/-- The idler is about to be engaged although the selector has not settled. -/
def engagesUnparked (c : EjectFilament) (m : Modules) : Bool :=
  c.state == .parkingSelector && m.queueEmpty && !m.selector.settled

theorem Ready.stepInner (h : Ready c m.selector) (hengages : engagesUnparked c m = false) :
    Ready (EjectFilament.stepInner c m).2.1 (EjectFilament.stepInner c m).2.2.selector := by
  rw [EjectFilament.stepInner]
  split
  · next hstate =>
      dsimp only
      split
      · exact ready_moveSelectorAside
      · refine ready_of_ne ?_ ?_
        · rw [hstate]
          decide
        · rw [hstate]
          decide
  · next hstate =>
      split
      · next hqueue =>
          rw [engagesUnparked, hstate, hqueue] at hengages
          have hsettled : m.selector.settled := by simpa using hengages
          have hempty : m.selector.axis.queueEmpty := by
            simp only [Modules.queueEmpty, Bool.and_eq_true] at hqueue
            exact hqueue.1.2
          exact ⟨⟨nofun, fun _ => (h.1.parking hstate).parked hsettled hempty⟩,
            fun _ => Selector.onHold_of_settled hsettled⟩
      · exact h
  · split
    · exact ready_of_ne nofun nofun
    · exact h
  · split
    · exact ready_of_ne nofun nofun
    · exact h
  · next hstate =>
      rw [Command.errDisengagingIdler]
      split
      · exact ready_of_ne nofun nofun
      · exact h
  · next hstate =>
      have hwaits : ∀ s, Ready c s := by
        intro s
        refine ready_of_ne ?_ ?_
        · rw [hstate]
          decide
        · rw [hstate]
          decide
      dsimp only
      split
      · split
        · exact ready_of_ne nofun nofun
        · split
          · exact ready_moveSelectorAside
          · exact hwaits _
      · exact hwaits _
  · exact h
  · exact ready_of_ne nofun nofun

/-- The command pushes the filament. -/
def plansEjection (c : EjectFilament) (m : Modules) : Bool :=
  c.state == .engagingIdler && (EjectFilament.stepInner c m).2.1.state == .ejectingFilament

end Step

section Running

variable {r : Running EjectFilamentData}

theorem Parks.ready (h : Parks r) (hrem : ¬ r.recovery.remembers) :
    Ready r.command r.modules.selector := by
  have hstate : r.resumed = r.command.state := Running.resumed_of_not_remembers hrem
  refine ⟨hstate ▸ h.fits, fun hengaging => ?_⟩
  by_contra hhold
  rcases h.held (hstate.trans hengaging) (by simpa using hhold) with hwaits | hwaits
  · exact absurd (hengaging.symm.trans hwaits) (by decide)
  · exact absurd (hengaging.symm.trans hwaits) (by decide)

theorem Ready.parks (h : Ready r.command r.modules.selector) (hrem : ¬ r.recovery.remembers) :
    Parks r := by
  have hstate : r.resumed = r.command.state := Running.resumed_of_not_remembers hrem
  refine ⟨fun h => absurd h hrem, hstate ▸ h.1, fun hengaging hhold => ?_⟩
  rw [hstate] at hengaging
  rw [h.2 hengaging] at hhold
  cases hhold

/-- A command that remembers a failure waits on, or gives up. -/
theorem Parks.stepInner_of_remembers (h : Parks r) (hrem : r.recovery.remembers)
    (hinternal : r.command.state ≠ .errInternal) :
    Parks
      { r with
        command := (EjectFilament.stepInner r.command r.modules).2.1
        modules := (EjectFilament.stepInner r.command r.modules).2.2 } := by
  rcases (h.recovering hrem).resolve_left hinternal with hstate | ⟨hstate, hejected, hflickers⟩
  · rw [EjectFilament.stepInner, hstate]
    exact parks_of_stopped (r := r) rfl rfl (.inl rfl) h.fits fun _ => .inr rfl
  · rw [EjectFilament.stepInner, hstate]
    dsimp only
    split
    · exact parks_of_stopped (r := r) rfl rfl (.inr (.inr ⟨hstate, hejected, hflickers⟩))
        h.fits.resume fun hhold => absurd hhold Bool.false_ne_true
    · exact parks_of_stopped (r := r) rfl rfl (.inr (.inr ⟨hstate, hejected, hflickers⟩))
        h.fits fun _ => .inl hstate

/-- The command is stepped in the state it has after the base class has looked at the modules. -/
def stepsAs (r : Running EjectFilamentData) (p : EjectFilament → Modules → Bool) : Bool :=
  !r.waitForModulesErrorRecovery.1 &&
    p r.waitForModulesErrorRecovery.2.command r.waitForModulesErrorRecovery.2.modules

theorem Parks.step (h : Parks r) (hengages : stepsAs r engagesUnparked = false) :
    Parks (r.step EjectFilament.stepInner).2 := by
  have hwaited := h.waitForModules
  rw [stepsAs] at hengages
  rw [Running.step]
  generalize r.waitForModulesErrorRecovery = w at hwaited hengages ⊢
  dsimp only
  split
  · exact hwaited
  · next hgoes =>
      rw [not_or, Bool.not_eq_true] at hgoes
      rw [hgoes.1] at hengages
      by_cases hrem : w.2.recovery.remembers
      · exact hwaited.stepInner_of_remembers hrem hgoes.2
      · refine Ready.parks ?_ hrem
        exact (hwaited.ready hrem).stepInner (by simpa using hengages)

/-- Where the filament is pushed the selector is aside, as long as it has noticed where it is. -/
theorem Parks.ejects (h : Parks r)
    (hnoticed : r.resumed = .engagingIdler → r.modules.selector.state = .moving →
      r.modules.selector.onHold = true)
    (hejects : stepsAs r plansEjection) :
    r.modules.selector.isIn .ready ∧ r.modules.selector.homingValid ∧
      r.modules.selector.slot = parkedPos r.command.data.slot := by
  rw [stepsAs, Bool.and_eq_true, Bool.not_eq_true', plansEjection, Bool.and_eq_true, beq_iff_eq]
    at hejects
  obtain ⟨hgoes, hstate, -⟩ := hejects
  have hwaited := h.waitForModules
  obtain ⟨hmodules, hworks⟩ := Running.goes_waitForModules hgoes
  have hcarries := Running.carries_waitForModules (r := r)
  have hrem : ¬ r.waitForModulesErrorRecovery.2.recovery.remembers := by
    intro hrem
    have hstops := hwaited.recovering hrem
    rw [AwaitsModule, hstate] at hstops
    exact absurd hstops (by simp)
  have hready := hwaited.ready hrem
  have hresumed := (Running.resumed_of_not_remembers hrem).trans hstate
  rw [Ready, hstate, hmodules, hcarries.data] at hready
  have hengaging : r.resumed = .engagingIdler := by
    rcases hcarries.resumed with heq | ⟨-, hadrift⟩
    · rw [← heq, hresumed]
    · rw [hresumed] at hadrift
      exact absurd hadrift (by simp [Running.Adrift])
  have hhold := hready.2 rfl
  rcases hready.1.engaging rfl with htmc | ⟨hvalid, ⟨hready, hslot⟩ | ⟨hmoving, -⟩⟩
  · exact absurd (.inl htmc) (hworks .selector)
  · exact ⟨Movable.isIn_iff.mpr ⟨hready, hhold⟩, hvalid, hslot⟩
  · exact absurd ((hnoticed hengaging hmoving).symm.trans hhold) (by decide)

end Running

end EjectFilament
end MmuFirmware
