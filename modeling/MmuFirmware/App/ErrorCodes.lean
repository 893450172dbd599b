import MmuFirmware.App.Completion
import MmuFirmware.App.Writes
import MmuFirmware.Logic.HwTest
import MmuFirmware.Logic.ProperCodes

/-!
Errors are reported with a code that is one, and those of the drivers with an axis and a cause,
in every run in which no axis has failed without a cause. What the hardware test has found out
before the run begins is reported as well.
-/
namespace MmuFirmware

namespace HWSanity

/-- The code the test ends with is `OK` or an error. -/
theorem Concluded.proper {c : HWSanity} {readbacks : List Readback} (h : Concluded c readbacks) :
    c.error.Proper := by
  by_cases hok : c.state = .ok
  · rw [h.error_ok hok]
    exact ErrorCode.proper_ok
  · refine .inr (.inr fun hzero => ?_)
    have hhighest : withoutAxisBits c.error &&& 0x8000 = c.error &&& 0x8000 := by
      rw [withoutAxisBits, UInt16.and_assoc]
      rfl
    rw [h.code hok, hzero] at hhighest
    exact absurd hhighest (by decide)

end HWSanity

/-- The code the board starts with is the one a hardware test has ended with. -/
def BootInput.HwTested (b : BootInput) : Prop :=
  ∃ (c : HWSanity) (bench : TestBench) (readings : Nat → TestReadings) (n : Nat),
    let test := HWSanity.run (HWSanity.reset c).2 { bench with readbacks := [] } readings n
    test.1 = true ∧ test.2.1.error = b.hwSanityError

theorem BootInput.HwTested.proper {b : BootInput} (h : b.HwTested) : b.hwSanityError.Proper := by
  obtain ⟨c, bench, readings, n, hover, herror⟩ := h
  rw [← herror]
  obtain hended | hgoing :=
    HWSanity.advances.ended_or_ahead (HWSanity.progress_reset c bench) readings n
  · exact hended.2.proper
  · exact absurd (hgoing.1.symm.trans hover) Bool.false_ne_true

namespace Modules

variable {known m m' : Modules}

theorem Attributed.goesOn (h : known.Attributed m) (hm : m.GoesOn m') : known.Attributed m' := by
  cases hm with
  | interrupt i =>
      exact ⟨h.idler.withAxis _, h.selector.withAxis _, h.pulley.withAxis _⟩
  | stepMovables findaPin =>
      exact ⟨Idler.attributed_step m.globals h.idler,
        Selector.attributed_step m.globals h.selector _ _, Pulley.attributed_step h.pulley⟩
  | killMotors | clearQueueFull =>
      exact ⟨h.idler.congr (.inl rfl) rfl rfl, h.selector.congr (.inl rfl) rfl rfl,
        h.pulley.congr (.inl rfl) rfl rfl⟩
  | stepInputs | inputs | erase => exact h.congr rfl rfl rfl

theorem Attributed.write (h : known.Attributed m) (address : UInt8) (value : UInt16) :
    known.Attributed (writeRegister address value m).2 := by
  refine (Attributed.durable known).untuned.writeRegister h address value
    (fun _ => h.congr rfl rfl rfl) (fun _ => ?_) (fun _ => ?_) fun hspeed => ?_
  · exact (Attributed.durable known).selectorMoveToSlot h trivial
  · rw [Modules.moveIdlerTo]
    split
    · exact (Attributed.durable known).idlerDisengage h
    · exact (Attributed.durable known).idlerEngage h trivial
  · obtain ⟨g, hg, -⟩ := writeRegister_feedrate hspeed value m
    rw [hg]
    exact h.congr rfl rfl rfl

end Modules

namespace World

/-- The failed axes have a cause on record and the commands proper codes, up to a failure without
a cause. -/
structure Attributed (w : World) : Prop where
  modules : w.modules.Attributed w.modules
  coded : w.modules.allCaused = true → ∀ id, (w.runningAs id).Coded

variable {w : World}

/-- The modules have changed, and the codes are still proper where no failure had no cause. -/
theorem Attributed.later (h : w.Attributed) {w' : World}
    (hmodules : w.modules.Attributed w'.modules)
    (hcoded : (∀ id, (w.runningAs id).Coded) → w'.modules.allCaused = true →
      ∀ id, (w'.runningAs id).Coded) : w'.Attributed :=
  ⟨hmodules.self, fun hall => hcoded (h.coded (hmodules.allCaused hall)) hall⟩

theorem Attributed.goesOn (h : w.Attributed) {m : Modules} (hm : w.modules.GoesOn m) :
    Attributed { w with modules := m } :=
  h.later (h.modules.goesOn hm) fun hcoded _ id => ⟨(hcoded id).command, (hcoded id).remembered⟩

theorem PanicCode.proper {ec : ErrorCode} (h : PanicCode ec) : ec.Proper := by
  obtain rfl | rfl := h <;> decide

theorem Attributed.panic (h : w.Attributed) {ec : ErrorCode} (hec : PanicCode ec) :
    (w.panic ec).Attributed := by
  refine h.later (h.modules.congr rfl rfl rfl) fun hcoded _ id => ?_
  rw [runningAs, panic_commands]
  by_cases hid : id = w.currentCommand
  · subst hid
    rw [Commands.get_set_self]
    have hcurrent := hcoded w.currentCommand
    exact ⟨hcurrent.command.congr ⟨hec.proper, hcurrent.command.own.deferred⟩ rfl,
      hcurrent.remembered⟩
  · rw [Commands.get_set_of_ne _ hid]
    exact ⟨(hcoded id).command, (hcoded id).remembered⟩

theorem Attributed.resetAs (h : w.Attributed) (id : CommandId) (param : UInt8) :
    (w.resetAs id param).Attributed := by
  have hstarts : id.StartsWithin (Modules.Attributed.durable w.modules) param := by
    cases id <;> trivial
  refine h.later (id.holds_reset (D := Modules.Attributed.durable w.modules) h.modules _ hstarts)
    fun hcoded _ id' => ?_
  rw [runningAs]
  by_cases hid : id' = id
  · subst hid
    rw [get_resetAs_self]
    exact ⟨(hcoded id').command.reset param, (hcoded id').remembered⟩
  · rw [get_resetAs_of_ne _ hid]
    exact ⟨(hcoded id').command, (hcoded id').remembered⟩

theorem Attributed.stepAs (h : w.Attributed) : (w.stepAs w.currentCommand).Attributed := by
  refine h.later (Running.attributed_step (r := w.runningAs w.currentCommand) h.modules)
    fun hcoded hall id => ?_
  by_cases hid : id = w.currentCommand
  · subst hid
    rw [runningAs_stepAs]
    exact (hcoded w.currentCommand).step h.modules hall
  · rw [runningAs, get_stepAs_of_ne _ hid]
    exact ⟨(hcoded id).command, (hcoded id).remembered⟩

theorem upholds_attributed :
    Upholds (fun _ => Attributed) (fun _ => True) (fun _ _ => True) (fun _ => True) where
  goesOn h hm := h.goesOn hm
  panic _ hec h := h.panic hec
  recast {id w w'} h hmodules hcommands := by
    refine ⟨hmodules.symm ▸ h.modules, fun hall id => ?_⟩
    rw [runningAs, hmodules, hcommands]
    exact h.coded (hmodules ▸ hall) id
  start {w w' s} h _ _ _ _ hmodules hcommands _ := by
    obtain ⟨userInput, lastCommandProcessedMs, hmodules⟩ := hmodules
    have hw' : w'.Attributed := by
      refine h.later ?_ fun hcoded _ id => ?_
      · rw [hmodules]
        exact h.modules.congr rfl rfl rfl
      · rw [runningAs, hcommands]
        exact ⟨(hcoded id).command, (hcoded id).remembered⟩
    exact hw'.resetAs s.command s.param
  write {w rq} h _ :=
    h.later (h.modules.write rq.value rq.value2) fun hcoded _ id =>
      ⟨(hcoded id).command, (hcoded id).remembered⟩
  step {w} h _ :=
    w.stepCommand_of_stepAs (fun h hm => h.goesOn hm) (fun _ hec h => h.panic hec) h.stepAs

end World

namespace BootInput

variable (b : BootInput)

theorem attributed_modules : b.modules.Attributed b.modules := by
  have hready : MovableState.ready ≠ .tmcFailed := by decide
  exact ⟨⟨id, .inr (.inl hready)⟩, ⟨id, .inr (.inl hready)⟩, ⟨id, .inr (.inl hready)⟩⟩

theorem attributed_startUp : b.modules.Attributed b.startUp.2 := by
  rw [startUp]
  dsimp only
  split
  · exact b.attributed_modules
  · have hreset : b.modules.Attributed (StartUp.reset { data := () } b.modules).2.2 :=
      StartUp.holds_reset (D := Modules.Attributed.durable b.modules) b.attributed_modules trivial _
    have hidler := hreset.withIdler
      (Idler.attributed_init (StartUp.reset { data := () } b.modules).2.2.globals hreset.idler)
    have hselector := hidler.withSelector
      (Selector.attributed_init (StartUp.reset { data := () } b.modules).2.2.globals
        hidler.selector (StartUp.reset { data := () } b.modules).2.2.finda.pressed)
    split
    · exact hselector.congr rfl rfl rfl
    · exact hselector

variable {b}

theorem coded_startUp (h : b.HwTested) : Command.Coded b.startUp.1 := by
  have hfresh : Command.Coded (δ := Unit) { data := () } :=
    ⟨ErrorCode.proper_ok, ErrorCode.proper_ok⟩
  rw [startUp]
  dsimp only
  split
  · exact StartUp.coded_setInitError hfresh h.proper
  · exact StartUp.coded_reset hfresh

theorem attributed_world (h : b.HwTested) : b.world.Attributed := by
  have hfresh {δ : Type} (data : δ) : Command.Coded { data } :=
    ⟨ErrorCode.proper_ok, ErrorCode.proper_ok⟩
  have hcommands : ∀ id : CommandId, id.Coded
      (({ startUp := { command := b.startUp.1 } } : Commands).get id).command := by
    intro id
    refine ⟨?_, ?_⟩
    · cases id with
      | startUp => exact coded_startUp h
      | noCommand | cutFilament | ejectFilament | home | loadFilament | moveSelector | setMode
      | toolChange | unloadFilament => exact hfresh _
    · cases id with
      | cutFilament | ejectFilament | toolChange =>
          rintro _ ⟨⟩
          exact hfresh _
      | startUp | noCommand | home | loadFilament | moveSelector | setMode | unloadFilament =>
          exact fun _ hunl => absurd hunl (Option.not_mem_none _)
  have hremembered : ∀ id : CommandId, ((({ startUp := { command := b.startUp.1 } } : Commands).get
      id).recovery.errorBeforeModuleFailed).Proper := by
    intro id
    cases id <;> exact ErrorCode.proper_ok
  rw [world, World.processReset]
  dsimp only
  split
  · exact ⟨@Modules.Attributed.self b.modules _ (b.attributed_startUp.congr rfl rfl rfl),
      fun _ id => ⟨hcommands id, hremembered id⟩⟩
  · exact ⟨b.attributed_startUp.self, fun _ id => ⟨hcommands id, hremembered id⟩⟩

end BootInput

namespace World

/-- An error that is answered to a query has the highest bit set. A failed axis is reported with
its bit and a cause. -/
structure ReportsErrors (w : World) : Prop where
  answers : w.runningCommandStatus.1.code = .error →
    w.runningCommandStatus.1.value &&& 0x8000 ≠ 0
  axes : ∀ axis, w.modules.movableState axis = .tmcFailed →
    (w.modules.checkMovable axis).Attributable axis

variable {w : World}

theorem commandStatus_error (h : w.commandStatus.code = .error) :
    w.commandStatus.value = w.shownError ∧ w.shownError ≠ .running ∧ w.shownError ≠ .ok := by
  rw [commandStatus] at h ⊢
  split at h
  · cases h
  · next hrunning =>
      split at h
      · cases h
      · next hok =>
          rw [if_neg hrunning, if_neg hok]
          exact ⟨rfl, hrunning, hok⟩

theorem Attributed.reportsErrors (h : w.Attributed) (hall : w.modules.allCaused = true) :
    w.ReportsErrors := by
  refine ⟨fun herror => ?_, fun axis hfailed => h.modules.attributable hall hfailed⟩
  obtain ⟨-, hstatus | hbutton⟩ := w.runningCommandStatus_cases
  · rw [hstatus] at herror ⊢
    obtain ⟨hvalue, hrunning, hok⟩ := commandStatus_error herror
    have hproper : w.shownError.Proper := (h.coded hall w.currentCommand).command.shownError
    rw [hvalue]
    exact (hproper.resolve_left hrunning).resolve_left hok
  · rw [hbutton] at herror
    cases herror

end World

/-- As long as no axis has failed without a cause, errors are reported properly, in every state a
run reaches, and wherever a request is answered and the current command is stepped in it. -/
theorem errors_reported_properly (b : BootInput) (htested : b.HwTested)
    (inputs : List LoopInput) :
    ((b.run inputs).modules.allCaused = true → (b.run inputs).ReportsErrors) ∧
      ∀ r ∈ b.reports inputs,
        (r.serving.modules.allCaused = true → r.serving.ReportsErrors) ∧
          (r.stepping.modules.allCaused = true → r.stepping.ReportsErrors) := by
  have hworld := BootInput.attributed_world htested
  have hallowed : ∀ r ∈ b.reports inputs, (∀ s ∈ r.starts, True) ∧
      (∀ rq, r.request = some rq → rq.code = .write → True) ∧ True :=
    fun _ _ => ⟨fun _ _ => trivial, fun _ _ _ => trivial, trivial⟩
  refine ⟨(World.upholds_attributed.run hworld inputs hallowed).reportsErrors, fun r hr => ?_⟩
  obtain ⟨w, i, hw, rfl⟩ := World.upholds_attributed.reports hworld inputs hallowed r hr
  have hstarts : ∀ s ∈ (w.report i).starts, True := fun _ _ => trivial
  exact ⟨(World.upholds_attributed.readMessages hw i hstarts).reportsErrors,
    (World.upholds_attributed.beforeCommand hw i hstarts fun _ _ _ => trivial).reportsErrors⟩

/-- The driver of the idler reads as given, then the status is asked for. -/
def queryAfter (registers : TMCRegisters) : List LoopInput :=
  [{ beforeModules := { elapsedMs := 10, idler := { registers } } },
    (idleInput false).withRequest .query 0]

/-- Every level reads as it was set. -/
def soundReadings (n : Nat) : TestReadings :=
  let setState := UInt8.ofNat ((n - 2) % 26) % 8
  { elapsed := 100
    ioin :=
      0x11000040 ||| (setState &&& 0b11).toUInt32 |||
        (if setState &&& HWSanity.bitEna ≠ 0 then 0 else 0x10) }

theorem hwTested_default : ({} : BootInput).HwTested :=
  ⟨{ data := {} }, { axes := fun _ => { sgThrs := 7, iRun := 31, acceleration := 500 } },
    soundReadings, 80, by decide +kernel⟩

/-- A driver that has been reset is reported. -/
theorem errors_reported_properly_reset :
    ∃ r ∈ ({} : BootInput).reports (queryAfter { gstat := 1 }),
      r.serving.runningCommandStatus.1 = { code := .error, value := 0x8500 } ∧
        r.serving.runningCommandStatus.1.value &&& 0x8000 ≠ 0 := by
  have hanswered : ∃ r ∈ ({} : BootInput).reports (queryAfter { gstat := 1 }),
      r.serving.runningCommandStatus.1 = { code := .error, value := 0x8500 } ∧
        r.serving.modules.allCaused = true := by
    decide +kernel
  obtain ⟨r, hr, herror, hall⟩ := hanswered
  have hreports := ((errors_reported_properly {} hwTested_default _).2 r hr).1 hall
  exact ⟨r, hr, herror, hreports.answers (by rw [herror])⟩

/-- A driver error without any of the causes is reported as the bare bit of the axis. -/
theorem error_without_cause :
    ¬ ∀ (b : BootInput) (inputs : List LoopInput), ∀ r ∈ b.reports inputs,
      r.serving.ReportsErrors := by
  intro h
  have hanswers : ∀ r ∈ ({} : BootInput).reports (queryAfter { gstat := 2 }),
      r.serving.runningCommandStatus.1.code = .error →
        r.serving.runningCommandStatus.1.value &&& 0x8000 ≠ 0 :=
    fun r hr => (h _ _ r hr).answers
  revert hanswers
  decide +kernel

end MmuFirmware
