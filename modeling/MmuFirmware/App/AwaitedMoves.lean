import MmuFirmware.App.Readiness
import MmuFirmware.Logic.IdlerWaits

/-!
No command waits for a move of the idler that is not planned, as long as the idler is not
busy when it is asked. Refusals are not noticed: a request that comes while the idler moves
leaves the command waiting for ever.
-/
namespace MmuFirmware

open Modules

/-- What `Reset` asks of the idler at the start of a command. -/
def Start.asks (s : Start) : Option IdlerRequest :=
  s.command.resetAsks (s.before.commands.get s.command).command s.param s.before.modules

namespace World

variable {w : World} {id : CommandId}

/-- The idler operation the current command waits for. -/
def awaits (w : World) : Option IdlerOperation := w.currentCommand.awaits w.current.command

/-- What `StepInner` of the current command asks of the idler, where it is executed. -/
def stepAsks (w : World) : Option IdlerRequest :=
  let (waiting, r) := (w.runningAs w.currentCommand).waitForModulesErrorRecovery
  if waiting ∨ r.command.state = .errInternal then none
  else w.currentCommand.asks r.command r.modules

end World

namespace Running

variable {id : CommandId} {r r' : Running id.Data}

theorem awaits_goesOnAs (hrem : ¬ r.recovery.remembers) :
    id.awaits r.goesOnAs = id.awaits r.command :=
  CommandId.awaits_congr _ _ (resumed_of_not_remembers hrem) rfl

/-- In the state the command goes on in, what it waits for is planned. -/
structure Attended (r : Running id.Data) : Prop where
  schedules : r.modules.Schedules (id.awaits r.goesOnAs)
  nested : NestedQuiet r.resumed (id.nestedAwaits r.command)

theorem attended_of_idle (h : id.Idle r.command) (hrem : ¬ r.recovery.remembers) :
    r.Attended := by
  refine ⟨?_, .inr (.inr h.2)⟩
  rw [awaits_goesOnAs hrem]
  exact schedules_of_idle h.1

theorem Attended.carries (h : r.Attended) (hcarries : r.Carries r') : r'.Attended := by
  refine ⟨?_, ?_⟩
  · rcases hcarries.resumed with heq | hadrift
    · rw [CommandId.awaits_congr r.goesOnAs r'.goesOnAs heq hcarries.data]
      exact hcarries.modules.schedules h.schedules
    · exact schedules_of_idle (CommandId.awaits_of_state (.inr (.inr hadrift.2)))
  · rw [CommandId.nestedAwaits_congr hcarries.data]
    rcases hcarries.resumed with heq | hadrift
    · rw [heq]
      exact h.nested
    · refine .inr (.inr (h.nested.idle ?_ ?_))
      all_goals rcases hadrift.1 with hstate | hstate | hstate <;> rw [hstate] <;> decide

/-- A panic stops the command, at once or when it would go on. -/
theorem Attended.stopped (h : r.Attended) (hdata : r'.command.data = r.command.data)
    (hresumed : r'.resumed = r.resumed ∨ r'.resumed = .errInternal)
    (hmodules : r.modules.Keeps r'.modules) : r'.Attended := by
  rcases hresumed with heq | hinternal
  · exact h.carries ⟨hdata, .inl heq, hmodules⟩
  · exact ⟨schedules_of_idle (CommandId.awaits_of_state (.inr (.inl hinternal))),
      .inr (.inl hinternal)⟩

/-- The step of a command that is attended to, where its requests are heard. -/
theorem Attended.step (h : r.Attended) (hblocked : r.Blocked)
    (hheard : ¬ (r.waitForModulesErrorRecovery.1 = true ∨
        r.waitForModulesErrorRecovery.2.command.state = .errInternal) →
      AllHeard (id.asks r.waitForModulesErrorRecovery.2.command
        r.waitForModulesErrorRecovery.2.modules)) :
    (r.step id.stepInner).2.Attended := by
  have hattended := h.carries carries_waitForModules
  obtain ⟨-, hquiet⟩ := hblocked.waitForModules
  rw [Running.step]
  generalize r.waitForModulesErrorRecovery = w at hattended hheard hquiet ⊢
  dsimp only
  split
  · exact hattended
  · next hgo =>
      have hheard := hheard hgo
      rw [not_or, Bool.not_eq_true] at hgo
      have hrem := (hquiet hgo.1).resolve_right hgo.2
      obtain ⟨hschedules, hnested⟩ := hattended
      rw [awaits_goesOnAs hrem] at hschedules
      rw [resumed_of_not_remembers hrem] at hnested
      refine ⟨?_, ?_⟩
      · rw [awaits_goesOnAs (by exact hrem)]
        exact CommandId.schedules_stepInner hschedules hnested hheard
      · rw [resumed_of_not_remembers (by exact hrem)]
        exact CommandId.nestedQuiet_stepInner hnested

end Running

theorem CommandId.idle_of_handingOver {id : CommandId} {c : id.Object}
    (h : id.handingOver c = true) : id.Idle c := by
  cases id with
  | cutFilament =>
      simp only [handingOver, Bool.and_eq_true, beq_iff_eq] at h
      have hnested : c.data.unl.awaits = none := by rw [UnloadFilament.awaits, h.2]
      refine ⟨?_, hnested⟩
      rw [awaits, CutFilament.awaits, h.1]
      exact hnested
  | ejectFilament =>
      simp only [handingOver, Bool.and_eq_true, beq_iff_eq] at h
      have hnested : c.data.unl.awaits = none := by rw [UnloadFilament.awaits, h.2]
      refine ⟨?_, hnested⟩
      rw [awaits, EjectFilament.awaits, h.1]
      exact hnested
  | toolChange =>
      simp only [handingOver, Bool.and_eq_true, beq_iff_eq] at h
      have hnested : c.data.unl.awaits = none := by rw [UnloadFilament.awaits, h.2]
      refine ⟨?_, hnested⟩
      rw [awaits, ToolChange.awaits, h.1]
      exact hnested
  | startUp | noCommand | home | moveSelector | setMode | loadFilament | unloadFilament => cases h

namespace World

/-- The command in charge is attended to, the others are idle. -/
structure Attended (id : CommandId) (w : World) : Prop where
  ready : w.Ready id
  inCharge : (w.runningAs id).Attended
  others : ∀ id', id' ≠ id → id'.Idle (w.commands.get id').command

variable {w : World} {id : CommandId} {param : UInt8}

/-- A command that is shown as finished waits for nothing. -/
theorem Attended.idle (h : w.Attended w.currentCommand) (hok : w.shownState = .ok)
    (id : CommandId) : id.Idle (w.commands.get id).command := by
  by_cases hid : id = w.currentCommand
  · subst hid
    rcases (CommandId.shownState_eq_ok _ _).mp hok with hstate | hover
    · have hnested := h.inCharge.nested
      rw [Running.resumed_of_not_remembers (by exact h.ready.not_remembers hok _)] at hnested
      have hstate' : (w.runningAs w.currentCommand).command.state = .ok := hstate
      rw [hstate'] at hnested
      exact ⟨CommandId.awaits_of_state (.inl hstate), hnested.idle (by decide) (by decide)⟩
    · exact CommandId.idle_of_handingOver hover
  · exact h.others id hid

/-- A panic does not make a command wait. -/
theorem idle_panic (ec : ErrorCode) {id : CommandId} (h : id.Idle (w.commands.get id).command) :
    id.Idle ((w.panic ec).commands.get id).command := by
  obtain ⟨-, hdata, hinternal | hsame⟩ := panic_get (w := w) ec id
  · exact ⟨CommandId.awaits_of_state (.inr (.inl hinternal)),
      (CommandId.nestedAwaits_congr hdata).trans h.2⟩
  · rwa [hsame]

theorem Attended.panic (h : w.Attended id) (ec : ErrorCode) : (w.panic ec).Attended id := by
  refine ⟨h.ready.panic ec, ?_, fun id' hid' => idle_panic ec (h.others id' hid')⟩
  exact h.inCharge.stopped (panic_get ec id).2.1 (panic_resumed ec id)
    (w.modules.proceeds_setLeds _).toKeeps

theorem resetAsks_congr (id : CommandId) (c : id.Object) (param : UInt8) (m : Modules)
    (userInput : UserInput) (lastCommandProcessedMs : UInt16) :
    id.resetAsks c param { m with userInput, lastCommandProcessedMs } = id.resetAsks c param m := by
  cases id <;> rfl

theorem Attended.resetAs (hquiet : ∀ id, ¬ (w.commands.get id).recovery.remembers)
    (hidle : ∀ id : CommandId, id.Idle (w.commands.get id).command)
    (hheard : AllHeard (id.resetAsks (w.commands.get id).command param w.modules)) :
    (w.resetAs id param).Attended id := by
  refine ⟨Ready.resetAs hquiet param, ?_, fun id' hid' => ?_⟩
  · have hrem : ¬ ((w.resetAs id param).runningAs id).recovery.remembers := by
      rw [runningAs]
      dsimp only
      rw [get_resetAs_self]
      exact hquiet id
    refine ⟨?_, ?_⟩
    · rw [Running.awaits_goesOnAs hrem, runningAs]
      dsimp only
      rw [get_resetAs_self]
      exact CommandId.schedules_reset (hidle id) hheard
    · rw [Running.resumed_of_not_remembers hrem, runningAs]
      dsimp only
      rw [get_resetAs_self]
      exact CommandId.nestedQuiet_reset (hidle id)
  · rw [get_resetAs_of_ne _ hid']
    exact hidle id'

theorem Attended.stepAs (h : w.Attended w.currentCommand) (hheard : AllHeard w.stepAsks) :
    (w.stepAs w.currentCommand).Attended w.currentCommand := by
  refine ⟨h.ready.stepAs, ?_, fun id' hid' => ?_⟩
  · have hstep := h.inCharge.step h.ready.blocked fun hgo => by
      rw [stepAsks] at hheard
      dsimp only at hheard
      rwa [if_neg hgo] at hheard
    rw [runningAs_stepAs]
    exact hstep
  · rw [get_stepAs_of_ne _ hid']
    exact h.others id' hid'

theorem Attended.proceeds (h : w.Attended id) {m : Modules} (hm : w.modules.Proceeds m) :
    Attended id { w with modules := m } :=
  ⟨h.ready.proceeds hm, h.inCharge.carries ⟨rfl, .inl rfl, hm.toKeeps⟩, h.others⟩

theorem upholds_attended :
    Upholds Attended (fun s => AllHeard s.asks) (fun _ _ => False)
      (fun w => AllHeard w.stepAsks) where
  goesOn h hm := h.proceeds hm.proceeds
  panic ec _ h := h.panic ec
  recast h hmodules hcommands := by
    refine ⟨upholds_ready.recast h.ready hmodules hcommands, ?_, fun id' hid' => ?_⟩
    · rw [runningAs, hmodules, hcommands]
      exact h.inCharge
    · rw [hcommands]
      exact h.others id' hid'
  start h hbefore hok _ hasks hmodules hcommands _ := by
    obtain ⟨userInput, lastCommandProcessedMs, hmodules⟩ := hmodules
    refine Attended.resetAs (fun id => ?_) (fun id => ?_) ?_
    · rw [hcommands]
      exact h.ready.not_remembers hok id
    · rw [hcommands]
      exact h.idle hok id
    · rw [hcommands, hmodules, resetAsks_congr, ← hbefore]
      exact hasks
  write _ hallowed := hallowed.elim
  step {w} h hheard :=
    w.stepCommand_of_stepAs (fun h hm => h.proceeds hm.proceeds) (fun ec _ h => h.panic ec)
      (h.stepAs hheard)

end World

theorem BootInput.attended_world (b : BootInput) (id : CommandId) : b.world.Attended id := by
  have hidle : ∀ id : CommandId, id.Idle (b.world.commands.get id).command := by
    intro id
    rw [world, World.processReset]
    cases id <;> (dsimp only; split) <;> exact ⟨rfl, rfl⟩
  refine ⟨b.ready_world id, Running.attended_of_idle (hidle id) ?_, fun id' _ => hidle id'⟩
  rw [World.runningAs]
  dsimp only
  rw [b.recovery_world]
  exact not_not_intro rfl

/-- Every request to the idler in the iteration is heard. -/
def LoopReport.Heard (r : LoopReport) : Prop :=
  (∀ s ∈ r.starts, AllHeard s.asks) ∧ AllHeard r.stepping.stepAsks

instance (r : LoopReport) : Decidable r.Heard := inferInstanceAs (Decidable (_ ∧ _))

/-- In every run without register writes in which every request to the idler finds it neither
moving nor on hold, or has been planned already, whatever a command waits for is planned. -/
theorem awaited_moves_planned (b : BootInput) (inputs : List LoopInput)
    (hwrites : ∀ r ∈ b.reports inputs, ∀ rq, r.request = some rq → rq.code ≠ .write)
    (hheard : ∀ r ∈ b.reports inputs, r.Heard) :
    ∀ op, (b.run inputs).awaits = some op → (b.run inputs).modules.idler.ext.plannedMove = op := by
  have hattended := World.upholds_attended.run (b.attended_world _) inputs fun r hr =>
    ⟨(hheard r hr).1, hwrites r hr, (hheard r hr).2⟩
  change World.Attended (b.run inputs).currentCommand (b.run inputs) at hattended
  generalize b.run inputs = w at hattended ⊢
  intro op hop
  by_cases hrem : (w.runningAs w.currentCommand).recovery.remembers
  · -- a command held up by a failed module waits for nothing but the module
    have hidle : w.awaits = none := by
      refine CommandId.awaits_of_state ?_
      rcases hattended.ready.blocked hrem with h | ⟨h, -⟩ | ⟨h, -⟩
      · exact .inr (.inl h)
      · exact .inr (.inr (.inr (.inr h)))
      · exact .inr (.inr (.inr (.inl h)))
    rw [hidle] at hop
    cases hop
  · have hschedules := hattended.inCharge.schedules
    rw [Running.awaits_goesOnAs hrem] at hschedules
    exact hschedules op hop

/-- Both axes have homed and parked when a load is requested. -/
def loadAtRest : List LoopInput :=
  [idlerStalls false, idlerStalls false, idlerMoveDone, selectorStalls, selectorStalls,
    allMovesDone false, (idleInput false).withRequest .load 0]

theorem awaited_moves_planned_load :
    (({} : BootInput).run loadAtRest).modules.idler.ext.plannedMove = .engage :=
  awaited_moves_planned {} loadAtRest (noWrites_of_all (by decide +kernel)) (by decide +kernel)
    .engage (by decide +kernel)

/-- The idler has just homed and moves to its parking position when a load is requested. -/
def loadWhileParking : List LoopInput :=
  [idlerStalls false, idlerStalls false, (idleInput false).withRequest .load 0, idlerMoveDone,
    idleInput false]

/-- The load waits for an engaged idler; the idler is at rest and plans no such thing. -/
theorem load_waits_unplanned :
    ¬ ∀ (b : BootInput) (inputs : List LoopInput),
      (∀ r ∈ b.reports inputs, ∀ rq, r.request = some rq → rq.code ≠ .write) →
      let w := b.run inputs
      ¬ w.modules.idler.failed ∧ ¬ w.modules.selector.failed ∧ w.modules.idler.onHold = false ∧
        w.modules.selector.onHold = false →
      ∀ op, w.awaits = some op →
        w.modules.idler.ext.currentlyEngaged = op ∨ w.modules.idler.ext.plannedMove = op := by
  intro h
  have hplanned := h {} loadWhileParking (noWrites_of_all (by decide +kernel))
    (by decide +kernel) .engage (by decide +kernel)
  revert hplanned
  decide +kernel

end MmuFirmware
