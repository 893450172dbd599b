import MmuFirmware.App.Completion
import MmuFirmware.Logic.ActiveSlot

/-!
The LEDs that are asked for are those of tools, as long as the active slot is a tool whenever a
command is about to unload it or to report an error of it.
-/
namespace MmuFirmware

namespace CommandId

variable {id : CommandId} {c c' : id.Object}

theorem restsWithout_congr (hstate : c'.state = c.state) (hdata : c'.data = c.data) :
    id.restsWithout c' = id.restsWithout c := by
  cases id <;> simp only [restsWithout, hstate, hdata]

theorem plansTool_congr (hstate : c'.state = c.state) (hdata : c'.data = c.data) :
    id.PlansTool c' ↔ id.PlansTool c := by
  cases id <;> simp only [PlansTool, hstate, hdata]

theorem unloadEnded_congr (hdata : c'.data = c.data) : id.unloadEnded c' = id.unloadEnded c := by
  cases id <;> simp only [unloadEnded, hdata]

theorem hasUnloaded_congr (hstate : c'.state = c.state) (hdata : c'.data = c.data) :
    id.hasUnloaded c' = id.hasUnloaded c := by
  rw [hasUnloaded, hasUnloaded, hstate, unloadEnded_congr hdata]

/-- The commands that show no slot rest in every state; the others rely on the active slot
wherever the base class may exchange their state. -/
theorem restsWithout_adrift (hstate : Running.Adrift c.state) (hstate' : Running.Adrift c'.state)
    (h : id.restsWithout c) : id.restsWithout c' := by
  cases id with
  | startUp | noCommand | home | moveSelector | setMode => rfl
  | loadFilament | unloadFilament | toolChange | cutFilament | ejectFilament =>
      rcases hstate with hstate | hstate | hstate <;>
        simp [restsWithout, ProgressCode.ended, hstate] at h

theorem plansTool_adrift (hstate : Running.Adrift c.state) (hdata : c'.data = c.data)
    (h : id.PlansTool c) : id.PlansTool c' := by
  have hbusy : ¬ c.state.ended = true := by
    rcases hstate with hstate | hstate | hstate <;> rw [hstate] <;> decide
  cases id with
  | toolChange =>
      refine .inr ?_
      rw [hdata]
      exact Or.resolve_left h hbusy
  | cutFilament =>
      refine .inr ?_
      rw [hdata]
      exact Or.resolve_left h hbusy
  | startUp | noCommand | ejectFilament | home | loadFilament | moveSelector | setMode
  | unloadFilament => trivial

theorem hasUnloaded_of_unloadEnded (h : id.unloadEnded c) : id.hasUnloaded c := by
  rw [hasUnloaded, h, Bool.or_true]

theorem hasUnloaded_adrift (hstate : Running.Adrift c.state) (hdata : c'.data = c.data)
    (h : id.hasUnloaded c) : id.hasUnloaded c' := by
  refine hasUnloaded_of_unloadEnded ?_
  rw [unloadEnded_congr hdata]
  rcases hstate with hstate | hstate | hstate <;> simpa [hasUnloaded, hstate] using h

end CommandId

namespace Running

variable {δ : Type} {r : Running δ}

theorem waitForOne_leds (ec : ErrorCode) (axis : Axis) :
    (r.waitForOneModuleErrorRecovery ec axis).2.modules.leds = r.modules.leds := by
  rw [waitForOneModuleErrorRecovery]
  have henter : ∀ r : Running δ, (r.enterModuleFailure ec).modules.leds = r.modules.leds := by
    intro r
    rw [enterModuleFailure]
    split <;> rfl
  have hagain : ∀ r : Running δ, (r.failAgain ec).modules.leds = r.modules.leds := by
    intro r
    rw [failAgain]
    split <;> rfl
  have hawait : ∀ r : Running δ, (r.awaitHomingRequest ec axis).modules.leds = r.modules.leds := by
    intro r
    rw [awaitHomingRequest]
    split
    · dsimp only
      split
      · cases axis <;> rfl
      · rfl
    · rfl
  split
  · exact (hawait _).trans ((hagain _).trans (henter _))
  · split
    · split
      · split <;> rfl
      · rfl
    · rfl

theorem waitForModules_leds : r.waitForModulesErrorRecovery.2.modules.leds = r.modules.leds :=
  (waitForOne_leds _ _).trans ((waitForOne_leds _ _).trans (waitForOne_leds _ _))

variable {id : CommandId} {r r' : Running id.Data}

/-- In the state the command goes on in, the active slot is a tool where it has to be. -/
structure Placed (r : Running id.Data) : Prop where
  placed : id.Placed r.goesOnAs r.modules
  plans : id.PlansTool r.goesOnAs
  unloaded : id.hasUnloaded r.goesOnAs

theorem placed_of_dormant (h : id.Dormant r.command) (hleds : r.modules.leds.Sound)
    (hrem : ¬ r.recovery.remembers) : r.Placed := by
  have hstate : r.goesOnAs.state = r.command.state := resumed_of_not_remembers hrem
  refine ⟨⟨hleds, .inr ?_⟩, ?_, ?_⟩
  · rw [CommandId.restsWithout_congr (c := r.command) hstate rfl]
    exact h.rests
  · rw [CommandId.plansTool_congr (c := r.command) hstate rfl]
    exact h.plans
  · have hended : id.unloadEnded r.goesOnAs = id.unloadEnded r.command :=
      CommandId.unloadEnded_congr rfl
    exact CommandId.hasUnloaded_of_unloadEnded (hended.trans h.unloaded)

theorem Placed.carries (h : r.Placed) (hcarries : r.Carries r')
    (hleds : r'.modules.leds.Sound) : r'.Placed := by
  have hslot : r'.modules.slotActive = r.modules.slotActive := by
    rw [Modules.slotActive, hcarries.modules.activeSlot]
    rfl
  have hdata : r'.goesOnAs.data = r.goesOnAs.data := hcarries.data
  have hunloadEnded : id.unloadEnded r'.goesOnAs = id.unloadEnded r.goesOnAs :=
    CommandId.unloadEnded_congr hdata
  rcases hcarries.resumed with heq | ⟨hadrift, hadrift'⟩
  · have hstate : r'.goesOnAs.state = r.goesOnAs.state := heq
    refine ⟨⟨hleds, ?_⟩, ?_, ?_⟩
    · rw [hslot, CommandId.restsWithout_congr hstate hdata]
      exact h.placed.slot
    · rw [CommandId.plansTool_congr hstate hdata]
      exact h.plans
    · rw [CommandId.hasUnloaded_congr hstate hdata]
      exact h.unloaded
  · refine ⟨⟨hleds, ?_⟩, ?_, ?_⟩
    · rw [hslot]
      exact h.placed.slot.imp_right (CommandId.restsWithout_adrift hadrift hadrift')
    · exact CommandId.plansTool_adrift hadrift hdata h.plans
    · exact CommandId.hasUnloaded_adrift hadrift hdata h.unloaded

/-- A panic stops the command, at once or when it would go on. -/
theorem Placed.stopped (h : r.Placed) (hdata : r'.command.data = r.command.data)
    (hresumed : r'.resumed = r.resumed ∨ r'.resumed = .errInternal)
    (hmodules : r.modules.Keeps r'.modules)
    (hleds : r'.modules.leds.Sound) : r'.Placed := by
  rcases hresumed with heq | hinternal
  · exact h.carries ⟨hdata, .inl heq, hmodules⟩ hleds
  · have hstate : r'.goesOnAs.state = .errInternal := hinternal
    have hended : r'.goesOnAs.state.ended := by
      rw [hstate]
      rfl
    refine ⟨⟨hleds, .inr (CommandId.restsWithout_of_ended hended)⟩,
      CommandId.plansTool_of_ended hended, ?_⟩
    rw [CommandId.hasUnloaded, hstate]
    rfl

/-- Where `StepInner` is executed, it needs the active slot and this is not a tool. -/
def slotMissing (r : Running id.Data) : Bool :=
  let (waiting, r) := r.waitForModulesErrorRecovery
  !waiting && r.command.state != .errInternal && !r.modules.slotActive &&
    id.stepNeedsSlot r.command r.modules

theorem goesOnAs_of_not_remembers (hrem : ¬ r.recovery.remembers) : r.goesOnAs = r.command := by
  rw [goesOnAs, resumed_of_not_remembers hrem]

theorem Placed.step (h : r.Placed) (hblocked : r.Blocked) (hknown : r.slotMissing = false) :
    (r.step id.stepInner).2.Placed := by
  have hplaced := h.carries carries_waitForModules (by
    rw [waitForModules_leds]
    exact h.placed.leds)
  obtain ⟨-, hquiet⟩ := hblocked.waitForModules
  rw [slotMissing] at hknown
  rw [Running.step]
  generalize r.waitForModulesErrorRecovery = w at hplaced hquiet hknown ⊢
  dsimp only at hknown ⊢
  split
  · exact hplaced
  · next hgo =>
      rw [not_or, Bool.not_eq_true] at hgo
      have hrem := (hquiet hgo.1).resolve_right hgo.2
      obtain ⟨hplaced, hplans, hunloaded⟩ := hplaced
      rw [goesOnAs_of_not_remembers hrem] at hplaced hplans hunloaded
      have hneeds : w.2.modules.slotActive ∨ id.stepNeedsSlot w.2.command w.2.modules = false := by
        cases hactive : w.2.modules.slotActive with
        | true => exact .inl rfl
        | false => exact .inr (by simpa [hgo.1, hgo.2, hactive] using hknown)
      have hkept : ¬ ({ w.2 with
          command := (id.stepInner w.2.command w.2.modules).2.1
          modules := (id.stepInner w.2.command w.2.modules).2.2 } :
            Running id.Data).recovery.remembers := hrem
      refine ⟨?_, ?_, ?_⟩ <;> rw [goesOnAs_of_not_remembers hkept]
      · exact hplaced.stepInner hplans hneeds
      · exact CommandId.plansTool_stepInner hplans
      · exact CommandId.hasUnloaded_stepInner hunloaded

end Running

namespace CommandId

variable {id : CommandId} {c : id.Object}

theorem dormant_of_handingOver (h : id.handingOver c = true) (hplans : id.PlansTool c) :
    id.Dormant c := by
  cases id with
  | cutFilament | ejectFilament | toolChange =>
      simp only [handingOver, Bool.and_eq_true, beq_iff_eq] at h
      have hended : c.data.unl.state.ended = true := by
        rw [h.2]
        rfl
      refine ⟨?_, hplans, ?_⟩
      · simp [restsWithout, h.1, hended]
      · simp [unloadEnded, hended]
  | startUp | noCommand | home | moveSelector | setMode | loadFilament | unloadFilament => cases h

/-- A panic that hits a command that is not in charge. -/
theorem Dormant.stopped (h : id.Dormant c) {c' : id.Object} (hstate : c'.state = .errInternal)
    (hdata : c'.data = c.data) : id.Dormant c' := by
  have hended : c'.state.ended := by
    rw [hstate]
    rfl
  refine ⟨restsWithout_of_ended hended, plansTool_of_ended hended, ?_⟩
  rw [unloadEnded_congr hdata]
  exact h.unloaded

end CommandId

/-- `Reset` needs the active slot where it is not a tool. -/
def Start.slotMissing (s : Start) : Bool :=
  !s.before.modules.slotActive && s.command.resetNeedsSlot s.param s.before.modules

namespace World

def slotMissing (w : World) : Bool := (w.runningAs w.currentCommand).slotMissing

/-- The command in charge relies on the active slot only where it is a tool, the others not at
all. -/
structure Placed (id : CommandId) (w : World) : Prop where
  ready : w.Ready id
  inCharge : (w.runningAs id).Placed
  others : ∀ id', id' ≠ id → id'.Dormant (w.commands.get id').command

variable {w : World} {id : CommandId} {param : UInt8}

/-- A command that is shown as finished relies on nothing. -/
theorem Placed.dormant (h : w.Placed w.currentCommand) (hok : w.shownState = .ok)
    (id : CommandId) : id.Dormant (w.commands.get id).command := by
  by_cases hid : id = w.currentCommand
  · subst hid
    obtain ⟨-, hplans, hunloaded⟩ := h.inCharge
    rw [Running.goesOnAs_of_not_remembers (h.ready.not_remembers hok _)] at hplans hunloaded
    rcases (CommandId.shownState_eq_ok _ _).mp hok with hstate | hover
    · have hended : w.current.command.state.ended := by
        rw [hstate]
        rfl
      refine ⟨CommandId.restsWithout_of_ended hended, hplans, ?_⟩
      have hstate' : (w.runningAs w.currentCommand).command.state = .ok := hstate
      have hdone : w.currentCommand.unloadEnded (w.runningAs w.currentCommand).command := by
        simpa [CommandId.hasUnloaded, hstate'] using hunloaded
      exact hdone
    · exact CommandId.dormant_of_handingOver hover hplans
  · exact h.others id hid

theorem Placed.panic (h : w.Placed id) (ec : ErrorCode) : (w.panic ec).Placed id := by
  refine ⟨h.ready.panic ec, ?_, fun id' hid' => ?_⟩
  · exact h.inCharge.stopped (panic_get ec id).2.1 (panic_resumed ec id)
      (w.modules.proceeds_setLeds _).toKeeps h.inCharge.placed.leds.setAllBlinking
  · obtain ⟨-, hdata, hinternal | hsame⟩ := panic_get (w := w) ec id'
    · exact (h.others id' hid').stopped hinternal hdata
    · rw [hsame]
      exact h.others id' hid'

theorem sound_goesOn {m m' : Modules} (h : m.GoesOn m') (hleds : m.leds.Sound) :
    m'.leds.Sound := by
  cases h with
  | stepInputs => exact hleds.step _
  | interrupt | stepMovables | killMotors | clearQueueFull | inputs | erase => exact hleds

theorem Placed.goesOn (h : w.Placed id) {m : Modules} (hm : w.modules.GoesOn m) :
    Placed id { w with modules := m } :=
  ⟨h.ready.proceeds hm.proceeds,
    h.inCharge.carries ⟨rfl, .inl rfl, hm.proceeds.toKeeps⟩
      (sound_goesOn hm h.inCharge.placed.leds), h.others⟩

theorem Placed.resetAs (hquiet : ∀ id, ¬ (w.commands.get id).recovery.remembers)
    (hdormant : ∀ id : CommandId, id.Dormant (w.commands.get id).command)
    (hleds : w.modules.leds.Sound)
    (hneeds : w.modules.slotActive ∨ id.resetNeedsSlot param w.modules = false) :
    (w.resetAs id param).Placed id := by
  refine ⟨Ready.resetAs hquiet param, ?_, fun id' hid' => ?_⟩
  · have hget := w.get_resetAs_self id param
    have hrem : ¬ ((w.resetAs id param).runningAs id).recovery.remembers := by
      rw [runningAs]
      dsimp only
      rw [hget]
      exact hquiet id
    refine ⟨?_, ?_, ?_⟩ <;>
      (rw [Running.goesOnAs_of_not_remembers hrem, runningAs]; dsimp only; rw [hget])
    · exact (hdormant id).placed_reset hleds hneeds
    · exact CommandId.plansTool_reset (hdormant id).plans param
    · exact CommandId.hasUnloaded_reset (hdormant id) param
  · rw [get_resetAs_of_ne _ hid']
    exact hdormant id'

theorem Placed.stepAs (h : w.Placed w.currentCommand) (hknown : w.slotMissing = false) :
    (w.stepAs w.currentCommand).Placed w.currentCommand := by
  refine ⟨h.ready.stepAs, ?_, fun id' hid' => ?_⟩
  · rw [runningAs_stepAs]
    exact h.inCharge.step h.ready.blocked hknown
  · rw [get_stepAs_of_ne _ hid']
    exact h.others id' hid'

theorem upholds_placed :
    Upholds Placed (fun s => s.slotMissing = false) (fun _ _ => False)
      (fun w => w.slotMissing = false) where
  goesOn h hm := h.goesOn hm
  panic ec _ h := h.panic ec
  recast h hmodules hcommands := by
    refine ⟨upholds_ready.recast h.ready hmodules hcommands, ?_, fun id' hid' => ?_⟩
    · rw [runningAs, hmodules, hcommands]
      exact h.inCharge
    · rw [hcommands]
      exact h.others id' hid'
  start {w w' s} h hbefore hok _ hknown hmodules hcommands _ := by
    obtain ⟨userInput, lastCommandProcessedMs, hmodules⟩ := hmodules
    refine Placed.resetAs (fun id => ?_) (fun id => ?_) ?_ ?_
    · rw [hcommands]
      exact h.ready.not_remembers hok id
    · rw [hcommands]
      exact h.dormant hok id
    · rw [hmodules]
      exact h.inCharge.placed.leds
    · rw [Start.slotMissing, hbefore] at hknown
      rw [hmodules]
      cases hactive : w.modules.slotActive with
      | true => exact .inl hactive
      | false =>
          rw [hactive] at hknown
          refine .inr (Eq.trans ?_ hknown)
          cases s.command <;> rfl
  write _ hallowed := hallowed.elim
  step {w} h hknown :=
    w.stepCommand_of_stepAs (fun h hm => h.goesOn hm) (fun ec _ h => h.panic ec) (h.stepAs hknown)

end World

/-- Whenever a command needs the active slot in the iteration, this is a tool. -/
def LoopReport.SlotKnown (r : LoopReport) : Prop :=
  (∀ s ∈ r.starts, s.slotMissing = false) ∧ r.stepping.slotMissing = false

instance (r : LoopReport) : Decidable r.SlotKnown := inferInstanceAs (Decidable (_ ∧ _))

/-- A slot whose filament is taken to be in the nozzle is a tool. -/
theorem Globals.slot_init (storage : PermanentStorage)
    (h : (Globals.init storage).filamentLoaded > .atPulley) :
    (Globals.init storage).activeSlot < Config.toolCount := by
  rw [init] at h ⊢
  dsimp only at h ⊢
  by_contra hslot
  rw [if_neg hslot] at h
  exact absurd h (by decide)

theorem StartUp.reset_globals (c : StartUp) (m : Modules) :
    (StartUp.reset c m).2.2.leds = m.leds ∧
      ((StartUp.reset c m).2.2.globals = m.globals ∨
        (StartUp.reset c m).2.2.globals.filamentLoaded = .atPulley) := by
  rw [reset]
  grind [checkFINDAvsEEPROM, Modules.setFilamentLoaded, Modules.holdIdlerSelector,
    Globals.setFilamentLoaded]

theorem BootInput.sound_startUp (b : BootInput) : b.startUp.2.leds.Sound := by
  have hsound : LEDs.Sound {} := ⟨by decide, rfl, rfl⟩
  rw [startUp]
  dsimp only
  split
  · exact hsound
  · obtain ⟨hleds, hglobals⟩ := StartUp.reset_globals { data := () } b.modules
    have hmodules : (StartUp.reset { data := () } b.modules).2.2.leds.Sound := by
      rw [hleds]
      exact hsound
    split
    · next hloaded =>
        have hslot : (StartUp.reset { data := () } b.modules).2.2.globals.activeSlot <
            Config.toolCount := by
          rcases hglobals with heq | hpulley
          · have hinit : (Globals.init b.storage).filamentLoaded > .atPulley := by
              have hloaded : (StartUp.reset { data := () } b.modules).2.2.globals.filamentLoaded >
                .atPulley := hloaded
              rwa [heq] at hloaded
            rw [heq]
            exact Globals.slot_init b.storage hinit
          · have hloaded : (StartUp.reset { data := () } b.modules).2.2.globals.filamentLoaded >
              .atPulley := hloaded
            rw [hpulley] at hloaded
            exact absurd hloaded (by decide)
        exact hmodules.setPairButOffOthers hslot _ _
    · exact hmodules

theorem BootInput.placed_world (b : BootInput) (id : CommandId) : b.world.Placed id := by
  have hdormant : ∀ id : CommandId, id.Dormant (b.world.commands.get id).command := by
    intro id
    rw [world, World.processReset]
    cases id <;> (dsimp only; split) <;> exact ⟨rfl, by first | trivial | exact .inl rfl, rfl⟩
  have hleds : b.world.modules.leds.Sound := by
    rw [world, World.processReset]
    dsimp only
    split <;> exact b.sound_startUp
  refine ⟨b.ready_world id, Running.placed_of_dormant (hdormant id) hleds ?_, fun id' _ => hdormant id'⟩
  rw [World.runningAs]
  dsimp only
  rw [b.recovery_world]
  exact not_not_intro rfl

/-- After power-on without a record no slot is active. Nothing has to be unloaded for the eject;
it ends, as every eject, in the error that asks for the filament to be removed. -/
def ejectOfNothing : List LoopInput :=
  untilParked ++ [(idleInput false).withRequest .eject 0, idleInput false, allMovesDone false,
    allMovesDone false, allMovesDone false]

end MmuFirmware
