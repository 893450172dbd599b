import MmuFirmware.App.Completion
import MmuFirmware.App.Writes
import MmuFirmware.Logic.EjectParking

/-!
A filament is ejected only with the selector parked aside, in every run in which the idler is
not engaged before the selector has settled and no register write sends the selector elsewhere
while the command relies on it.
-/
namespace MmuFirmware

namespace EjectFilament

variable {r : Running EjectFilamentData}

/-- What happens to the modules beside the logic does not send the selector anywhere. -/
theorem Parks.goesOn (h : Parks r) {m : Modules} (hm : r.modules.GoesOn m) :
    Parks { r with modules := m } := by
  cases hm with
  | interrupt i => exact ⟨h.recovering, h.fits.axis (.tick i.selector), h.held⟩
  | stepMovables findaPin =>
      exact ⟨h.recovering, h.fits.step _ _ _,
        fun hengaging hhold => h.held hengaging (Selector.onHold_step hhold)⟩
  | killMotors =>
      exact ⟨h.recovering, (h.fits.axis .abortPlannedMoves).axis .disable, h.held⟩
  | clearQueueFull => exact ⟨h.recovering, h.fits.axis .clearQueueFull, h.held⟩
  | stepInputs | inputs | erase => exact ⟨h.recovering, h.fits, h.held⟩

end EjectFilament

namespace World

open EjectFilament (Parks parkedPos)

def runningEject (w : World) : Running EjectFilamentData := w.runningAs .ejectFilament

/-- An eject is the current command, and its step pushes the filament. -/
def plansEjection (w : World) : Bool :=
  w.currentCommand == .ejectFilament &&
    EjectFilament.stepsAs w.runningEject EjectFilament.plansEjection

/-- An eject is about to engage the idler although the selector has not settled. -/
def engagesUnparked (w : World) : Bool :=
  w.currentCommand == .ejectFilament &&
    EjectFilament.stepsAs w.runningEject EjectFilament.engagesUnparked

/-- The request sends the selector to a slot while an eject parks it somewhere else, or relies on
its being parked. -/
def sendsSelectorAway (w : World) (rq : RequestMsg) : Bool :=
  w.currentCommand == .ejectFilament && rq.code == .write && rq.value == 0x1b &&
    !w.modules.selector.stays w.modules.finda.pressed rq.value2.toUInt8 &&
    (w.runningEject.resumed == .engagingIdler ||
      w.runningEject.resumed == .parkingSelector &&
        rq.value2.toUInt8 != parkedPos w.runningEject.command.data.slot)

/-- The command neither parks the selector nor relies on it, now or later. -/
structure Aside (t : TopLevel EjectFilamentData) : Prop where
  forgets : ¬ t.recovery.remembers
  parking : t.command.state ≠ .parkingSelector
  engaging : t.command.state ≠ .engagingIdler

structure Parked (id : CommandId) (w : World) : Prop where
  eject : Parks w.runningEject
  others : id ≠ .ejectFilament → Aside w.commands.ejectFilament

variable {w : World} {id : CommandId}

theorem Aside.parks (h : Aside w.commands.ejectFilament) : Parks w.runningEject :=
  EjectFilament.Ready.parks (EjectFilament.ready_of_ne h.parking h.engaging) h.forgets

theorem Aside.parked (h : Aside w.commands.ejectFilament) : w.Parked id := ⟨h.parks, fun _ => h⟩

/-- What is shown as finished does not rely on the selector. -/
theorem Parked.aside (h : w.Parked w.currentCommand) (hok : w.shownState = .ok) :
    Aside w.commands.ejectFilament := by
  by_cases hid : w.currentCommand = .ejectFilament
  · rw [World.shownState, World.current] at hok
    rw [hid] at hok
    have hstate : w.commands.ejectFilament.command.state = .ok ∨
        w.commands.ejectFilament.command.state = .unloadingFilament :=
      ((CommandId.shownState_eq_ok _ _).mp hok).imp_right unloading_of_handingOver
    have hforgets : ¬ w.commands.ejectFilament.recovery.remembers := by
      intro hrem
      have hstops := h.eject.recovering hrem
      rw [EjectFilament.AwaitsModule] at hstops
      show False
      rcases hstate with hstate | hstate
      · have hstate : w.runningEject.command.state = .ok := hstate
        rw [hstate] at hstops
        exact absurd hstops (by simp)
      · have hstate : w.runningEject.command.state = .unloadingFilament := hstate
        rw [hstate] at hstops
        exact absurd hstops (by simp)
    refine ⟨hforgets, ?_, ?_⟩
    · rcases hstate with hstate | hstate <;> rw [hstate] <;> decide
    · rcases hstate with hstate | hstate <;> rw [hstate] <;> decide
  · exact h.others hid

theorem Parked.goesOn (h : w.Parked id) {m : Modules} (hm : w.modules.GoesOn m) :
    Parked id { w with modules := m } :=
  ⟨h.eject.goesOn hm, h.others⟩

theorem Parked.panic (h : w.Parked id) (ec : ErrorCode) : (w.panic ec).Parked id := by
  obtain ⟨hrecovery, hdata, hinternal | hsame⟩ := panic_get (w := w) ec .ejectFilament
  · refine ⟨EjectFilament.parks_of_stopped (r := w.runningEject) ?_ ?_ (.inl hinternal) ?_
      fun _ => .inr hinternal, fun hother => ⟨?_, ?_, ?_⟩⟩
    · exact congrArg Recovery.stateBeforeModuleFailed hrecovery
    · exact congrArg EjectFilamentData.slot hdata
    · exact hdata ▸ h.eject.fits
    · show ¬ ((w.panic ec).commands.get .ejectFilament).recovery.remembers
      rw [hrecovery]
      exact (h.others hother).forgets
    · rw [show (w.panic ec).commands.ejectFilament.command.state = .errInternal from hinternal]
      decide
    · rw [show (w.panic ec).commands.ejectFilament.command.state = .errInternal from hinternal]
      decide
  · have hrunning : (w.panic ec).runningEject =
        { w.runningEject with modules := (w.panic ec).modules } := by
      rw [runningEject, runningAs, hsame]
      rfl
    refine ⟨?_, fun hother => ?_⟩
    · rw [hrunning]
      exact ⟨h.eject.recovering, h.eject.fits, h.eject.held⟩
    · rw [show (w.panic ec).commands.ejectFilament = w.commands.ejectFilament from hsame]
      exact h.others hother

theorem Aside.resetAs (h : Aside w.commands.ejectFilament) (id : CommandId) (param : UInt8) :
    (w.resetAs id param).Parked id := by
  by_cases hid : id = .ejectFilament
  · subst hid
    refine ⟨EjectFilament.Ready.parks ?_ ?_, fun hother => absurd rfl hother⟩
    · rw [runningEject, runningAs, get_resetAs_self]
      exact (EjectFilament.ready_reset h.parking h.engaging).1
    · rw [runningEject, runningAs, get_resetAs_self]
      exact h.forgets
  · apply Aside.parked
    rw [show (w.resetAs id param).commands.ejectFilament = w.commands.ejectFilament from
      get_resetAs_of_ne w (Ne.symm hid) param]
    exact h

theorem Parked.stepAs (h : w.Parked w.currentCommand) (hengages : w.engagesUnparked = false) :
    (w.stepAs w.currentCommand).Parked w.currentCommand := by
  by_cases hid : w.currentCommand = .ejectFilament
  · rw [engagesUnparked, hid] at hengages
    rw [hid] at h ⊢
    refine ⟨?_, fun hother => absurd rfl hother⟩
    rw [runningEject, runningAs_stepAs]
    exact h.eject.step (by simpa using hengages)
  · apply Aside.parked
    rw [show (w.stepAs w.currentCommand).commands.ejectFilament = w.commands.ejectFilament from
      get_stepAs_of_ne w (Ne.symm hid)]
    exact h.others hid

theorem Aside.resumed_ne (h : Aside w.commands.ejectFilament) :
    w.runningEject.resumed ≠ .engagingIdler := by
  rw [Running.resumed_of_not_remembers (r := w.runningEject) h.forgets]
  exact h.engaging

theorem fits_write {rq : RequestMsg} (hid : w.currentCommand = .ejectFilament)
    (hcode : rq.code = .write) (haway : w.sendsSelectorAway rq = false) {m : Modules}
    (hm : m = (writeRegister rq.value rq.value2 w.modules).2)
    (hfits : EjectFilament.Fits w.runningEject.resumed w.runningEject.command.data.slot
      w.modules.selector) :
    EjectFilament.Fits w.runningEject.resumed w.runningEject.command.data.slot m.selector ∧
      (w.runningEject.resumed = .engagingIdler →
        m.selector.state = w.modules.selector.state ∧
          m.selector.onHold = w.modules.selector.onHold) := by
  by_cases haddress : rq.value = 0x1b
  · have hselector : m.selector = (Selector.moveToSlot w.modules.selector w.modules.globals
        w.modules.finda.pressed rq.value2.toUInt8).2 := by
      rw [hm, haddress]
      rfl
    simp only [sendsSelectorAway, hid, hcode, haddress, BEq.rfl, Bool.true_and,
      Bool.and_eq_false_iff, Bool.not_eq_false', Bool.or_eq_false_iff, beq_eq_false_iff_ne,
      bne_eq_false_iff_eq] at haway
    rw [hselector]
    exact hfits.moveToSlot haway _
  · obtain ⟨axis, hselector, hblocks⟩ := selector_writeRegister w.modules rq.value2 haddress
    rw [hm, hselector]
    exact ⟨hfits.congr rfl rfl rfl rfl hblocks, fun _ => ⟨rfl, rfl⟩⟩

theorem Parked.write (h : w.Parked w.currentCommand) {rq : RequestMsg} (hcode : rq.code = .write)
    (haway : w.sendsSelectorAway rq = false) {m : Modules}
    (hm : m = (writeRegister rq.value rq.value2 w.modules).2) :
    Parked w.currentCommand { w with modules := m } ∧
      (w.runningEject.resumed = .engagingIdler →
        m.selector.state = w.modules.selector.state ∧
          m.selector.onHold = w.modules.selector.onHold) := by
  by_cases hid : w.currentCommand = .ejectFilament
  · obtain ⟨hfits, hsame⟩ := fits_write hid hcode haway hm h.eject.fits
    refine ⟨⟨⟨h.eject.recovering, hfits, fun hengaging hhold => ?_⟩, h.others⟩, hsame⟩
    exact h.eject.held hengaging ((hsame hengaging).2.symm.trans hhold)
  · have haside := h.others hid
    exact ⟨Aside.parked (w := { w with modules := m }) haside, fun hengaging => absurd hengaging haside.resumed_ne⟩

theorem upholds_parked :
    Upholds Parked (fun _ => True)
      (fun w rq => rq.code = .write ∧ w.sendsSelectorAway rq = false)
      (fun w => w.engagesUnparked = false) where
  goesOn h hm := h.goesOn hm
  panic ec _ h := h.panic ec
  recast {id w w'} h hmodules hcommands := by
    have hrunning : w'.runningEject = w.runningEject := by
      rw [runningEject, runningEject, runningAs, runningAs, hmodules, hcommands]
    exact ⟨hrunning ▸ h.eject, hcommands ▸ h.others⟩
  start h _ hok _ _ _ hcommands _ :=
    Aside.resetAs (by rw [hcommands]; exact h.aside hok) _ _
  write h hallowed := (h.write hallowed.1 hallowed.2 rfl).1
  step {w} h hengages :=
    w.stepCommand_of_stepAs (fun h hm => h.goesOn hm) (fun ec _ h => h.panic ec) (h.stepAs hengages)

/-- A selector that has arrived has noticed it, unless it is on hold. -/
structure Noticed (id : CommandId) (w : World) : Prop extends Parked id w where
  noticed : w.runningEject.resumed = .engagingIdler → w.modules.selector.state = .moving →
    w.modules.selector.onHold = true

theorem upholds_noticed :
    Upholds Noticed (fun _ => True)
      (fun w rq => rq.code = .write ∧ w.sendsSelectorAway rq = false) (fun _ => False) where
  goesOn {id w m} h hm := by
    refine ⟨h.toParked.goesOn hm, ?_⟩
    cases hm with
    | stepMovables findaPin =>
        exact fun hengaging => ((h.eject.fits.engaging hengaging).step _ _ _).2
    | interrupt | stepInputs | killMotors | clearQueueFull | inputs | erase => exact h.noticed
  panic {id w} ec _ h := by
    refine ⟨h.toParked.panic ec, fun hengaging => ?_⟩
    rcases panic_resumed (w := w) ec .ejectFilament with hsame | hinternal
    · exact h.noticed (hsame.symm.trans hengaging)
    · exact absurd (hengaging.symm.trans hinternal) (by decide)
  recast {id w w'} h hmodules hcommands := by
    have hrunning : w'.runningEject = w.runningEject := by
      rw [runningEject, runningEject, runningAs, runningAs, hmodules, hcommands]
    refine ⟨upholds_parked.recast h.toParked hmodules hcommands, ?_⟩
    rw [hrunning, hmodules]
    exact h.noticed
  start {w w' s} h _ hok _ _ _ hcommands _ := by
    have haside : Aside w'.commands.ejectFilament := by
      rw [hcommands]
      exact h.aside hok
    refine ⟨haside.resetAs _ _, fun hengaging => ?_⟩
    by_cases hid : s.command = .ejectFilament
    · rw [hid, runningEject, runningAs, get_resetAs_self] at hengaging
      rw [Running.resumed_of_not_remembers haside.forgets] at hengaging
      exact absurd hengaging (EjectFilament.ready_reset haside.parking haside.engaging).2
    · have hsame : (w'.resetAs s.command s.param).commands.ejectFilament =
          w'.commands.ejectFilament :=
        get_resetAs_of_ne w' (Ne.symm hid) s.param
      rw [← hsame] at haside
      exact absurd hengaging haside.resumed_ne
  write {w rq} h hallowed := by
    obtain ⟨hparked, hsame⟩ := h.toParked.write hallowed.1 hallowed.2 rfl
    refine ⟨hparked, fun hengaging hmoving => ?_⟩
    obtain ⟨hstate, hhold⟩ := hsame hengaging
    exact hhold.trans (h.noticed hengaging (hstate.symm.trans hmoving))
  step _ hnever := hnever.elim

/-- Where the modules are stepped, a selector that has arrived notices it. -/
theorem Parked.stepModules (h : w.Parked id) (hworks : w.hwSanityError = .ok) (i : LoopInput) :
    (w.stepModules i).Noticed id := by
  rw [World.stepModules, if_pos hworks]
  have hinputs := h.goesOn (.stepInputs i.buttonsADC)
  refine (upholds_noticed.robust id).deliverPanic ⟨hinputs.goesOn (.stepMovables i.findaPin), ?_⟩
  exact fun hengaging => ((hinputs.eject.fits.engaging hengaging).step _ _ _).2

theorem Parked.beforeMessages (h : w.Parked w.currentCommand) (hworks : w.hwSanityError = .ok)
    (i : LoopInput) : (w.beforeMessages i).Noticed (w.beforeMessages i).currentCommand := by
  have hinterrupted : (w.interrupt i.beforeModules).Parked w.currentCommand :=
    h.goesOn (.interrupt i.beforeModules)
  have hstepped := hinterrupted.stepModules hworks i
  have hrobust := upholds_noticed.robust w.currentCommand
  rw [beforeMessages_currentCommand]
  exact hrobust.interrupt (hrobust.runtimeHWChecks hstepped i.vccADC) i.beforeMessages

section HardwareTest

theorem deliverPanic_hwSanityError (w : World) : w.deliverPanic.hwSanityError = w.hwSanityError := by
  rw [deliverPanic]
  split <;> rfl

theorem resetCommand_hwSanityError (w : World) (id : CommandId) (param : UInt8) :
    (w.resetCommand id param).2.hwSanityError = w.hwSanityError :=
  (deliverPanic_hwSanityError _).trans rfl

theorem ChecksManually.hwSanityError {w' : World} {s : Option Start} (h : w.ChecksManually w' s) :
    w'.hwSanityError = w.hwSanityError := by
  cases h with
  | quiet => rfl
  | start hw' => exact (resetCommand_hwSanityError _ _ _).trans (by rw [hw'])

theorem Serves.hwSanityError {w' : World} {s : Option Start} {rq : RequestMsg}
    (h : w.Serves rq w' s) : w'.hwSanityError = w.hwSanityError := by
  cases h with
  | quiet => rfl
  | reset =>
      rw [processReset]
      split <;> rfl
  | write => exact deliverPanic_hwSanityError _
  | start _ _ _ hw' => exact (resetCommand_hwSanityError _ _ _).trans (by rw [hw'])

/-- The outcome of the hardware test stays what it was at power-on. -/
theorem stagesPreserve_hwSanityError (ec : ErrorCode) :
    StagesPreserve (fun _ => True) (fun w => w.hwSanityError = ec) where
  interrupt _ _ h := h
  stepModules _ _ h := (deliverPanic_hwSanityError _).trans h
  runtimeHWChecks w vccADC h := by
    rw [runtimeHWChecks]
    split <;> exact h
  checkManualOperation w h := w.checksManually.hwSanityError.trans h
  receive _ _ h := h
  checkMsgs _ h := h
  processRequestMsg w h _ _ := (w.checkMsgs.2.serves _).hwSanityError.trans h
  stepCommand _ h := (deliverPanic_hwSanityError _).trans h

end HardwareTest

end World

theorem BootInput.aside_world (b : BootInput) : World.Aside b.world.commands.ejectFilament := by
  have hcommand : b.world.commands.ejectFilament = { command := { data := {} } } := by
    rw [world]
    split
    · rw [World.processReset]
      split <;> rfl
    · rfl
  rw [hcommand]
  exact ⟨not_not_intro rfl, by decide, by decide⟩

/-- In the iteration the selector is left to be parked, and the idler waits for it. -/
def LoopReport.parksFirst (r : LoopReport) : Bool :=
  r.request.all (fun rq => !r.serving.sendsSelectorAway rq) && !r.stepping.engagesUnparked &&
    r.stepping.hwSanityError == .ok

/-- As long as the idler is not engaged before the selector has settled and no write sends the
selector away, every filament is ejected with the selector at rest, homed, and at the position
`MoveSelectorAside` has chosen. -/
theorem ejects_with_selector_aside (b : BootInput) (inputs : List LoopInput)
    (hparks : ∀ r ∈ b.reports inputs, r.parksFirst) :
    ∀ r ∈ b.reports inputs, r.stepping.plansEjection →
      r.stepping.modules.selector.isIn .ready ∧ r.stepping.modules.selector.homingValid ∧
        r.stepping.modules.selector.slot =
          EjectFilament.parkedPos r.stepping.commands.ejectFilament.command.data.slot := by
  have hconditions : ∀ r ∈ b.reports inputs,
      (∀ rq, r.request = some rq → r.serving.sendsSelectorAway rq = false) ∧
        r.stepping.engagesUnparked = false ∧ r.stepping.hwSanityError = .ok := by
    intro r hr
    have hr := hparks r hr
    simp only [LoopReport.parksFirst, Bool.and_eq_true, Bool.not_eq_true', beq_iff_eq,
      Option.all_eq_true] at hr
    exact ⟨hr.1.1, hr.1.2, hr.2⟩
  have hallowed : ∀ r ∈ b.reports inputs, (∀ s ∈ r.starts, True) ∧
      (∀ rq, r.request = some rq → rq.code = .write →
        rq.code = .write ∧ r.serving.sendsSelectorAway rq = false) ∧
      r.stepping.engagesUnparked = false := by
    intro r hr
    obtain ⟨hwrite, hengages, -⟩ := hconditions r hr
    exact ⟨fun _ _ => trivial, fun rq hrq hcode => ⟨hcode, hwrite rq hrq⟩, hengages⟩
  intro r hr hejects
  obtain ⟨w, i, hw, rfl⟩ := World.upholds_parked.reports b.aside_world.parked inputs hallowed r hr
  obtain ⟨hwrite, -, hworks⟩ := hconditions _ hr
  have hhw : (w.beforeCommand i).hwSanityError = w.hwSanityError :=
    (World.stagesPreserve_hwSanityError w.hwSanityError).beforeCommand rfl i fun _ _ => trivial
  have hbefore := World.upholds_noticed.beforeCommand_of_beforeMessages i (fun _ _ => trivial)
    (fun rq hrq hcode => ⟨hcode, hwrite rq hrq⟩) (hw.beforeMessages (hhw.symm.trans hworks) i)
  rw [World.plansEjection, Bool.and_eq_true] at hejects
  exact hbefore.eject.ejects hbefore.noticed hejects.2

/-- Slot 0 is ejected once both axes have been homed. -/
def ejectAside : List LoopInput :=
  untilParked ++
    [(idleInput false).withRequest .eject 0, allMovesDone false, allMovesDone false,
      allMovesDone false]

theorem ejects_with_selector_aside_homed :
    ∃ r ∈ ({} : BootInput).reports ejectAside,
      r.stepping.plansEjection ∧ r.stepping.modules.selector.isIn .ready := by
  have hejects : ∃ r ∈ ({} : BootInput).reports ejectAside, r.stepping.plansEjection := by
    decide +kernel
  obtain ⟨r, hr, hejects⟩ := hejects
  exact ⟨r, hr, hejects, (ejects_with_selector_aside {} ejectAside (by decide +kernel) r hr hejects).1⟩

/-- Slot 0 is ejected right after power-on. The idler's way to its end stop is over without a
stall when the command looks at the queues, so that they are all empty; then the idler homes and
engages, and the selector still homes. -/
def ejectBeforeHoming : List LoopInput :=
  [(idleInput false).withRequest .eject 0,
    { idleInput false with beforeCommand := { idler := { pulses := [(100000, false)] } } },
    idlerStalls false, idlerStalls false, idlerMoveDone]

theorem ejects_while_selector_homes :
    ¬ ∀ (b : BootInput) (inputs : List LoopInput), ∀ r ∈ b.reports inputs,
      r.stepping.plansEjection →
        r.stepping.modules.selector.isIn .ready ∧ r.stepping.modules.selector.homingValid ∧
          r.stepping.modules.selector.slot =
            EjectFilament.parkedPos r.stepping.commands.ejectFilament.command.data.slot := by
  intro h
  have hready := h {} ejectBeforeHoming
  revert hready
  decide +kernel

end MmuFirmware
