import MmuFirmware.App.Readiness
import MmuFirmware.Logic.ErrorReports

/-!
When a query is answered with "finished". The answer is read off the error code of the current
command, so it is truthful as long as an unfinished command has another code than `OK`.
-/
namespace MmuFirmware

namespace CommandId

/-- The codes `OK` of an unfinished command: a tool change the selector has refused to begin,
and a command whose module recovers where no failure is remembered. -/
def Silent (id : CommandId) (state : ProgressCode) (error : ErrorCode) : Prop :=
  error = .ok ∧ (id = .toolChange ∧ state = .errDisengagingIdler ∨ state = .empty)

instance (id : CommandId) (state : ProgressCode) (error : ErrorCode) :
    Decidable (id.Silent state error) := inferInstanceAs (Decidable (_ ∧ _))

def Tells (id : CommandId) (state : ProgressCode) (error : ErrorCode) : Prop :=
  id.Candid state error ∨ id.Silent state error

theorem tells_of_error {id : CommandId} {state : ProgressCode} {error : ErrorCode}
    (h : error ≠ .ok) : id.Tells state error := .inl (.of_error h)

/-- The commands whose step reports a state it does not know. -/
def reportsUnhandled : CommandId → Bool
  | .startUp | .noCommand | .setMode => false
  | _ => true

theorem error_stepInner_of_empty {id : CommandId} {c : id.Object} {m : Modules}
    (hid : id.reportsUnhandled) (hstate : c.state = .empty) :
    (id.stepInner c m).2.1.error ≠ .ok := by
  have hunhandled : id.stepInner c m = c.unhandledState m := by
    cases id with
    | cutFilament =>
        show CutFilament.stepInner c m = _
        rw [CutFilament.stepInner, hstate]
    | ejectFilament =>
        show EjectFilament.stepInner c m = _
        rw [EjectFilament.stepInner, hstate]
    | home =>
        show Home.stepInner c m = _
        rw [Home.stepInner, hstate]
    | loadFilament =>
        show LoadFilament.stepInner c m = _
        rw [LoadFilament.stepInner, hstate]
    | moveSelector =>
        show MoveSelector.stepInner c m = _
        rw [MoveSelector.stepInner, hstate]
    | toolChange =>
        show ToolChange.stepInner c m = _
        rw [ToolChange.stepInner, hstate]
    | unloadFilament =>
        show UnloadFilament.stepInner c m = _
        rw [UnloadFilament.stepInner, hstate]
    | startUp | noCommand | setMode => cases hid
  rw [hunhandled]
  exact Command.error_unhandledState

end CommandId

namespace Running

variable {id : CommandId} {r : Running id.Data}

/-- What the error code tells, and will tell when the module has recovered. -/
structure Tells (r : Running id.Data) : Prop where
  now : id.Tells r.command.state r.command.error
  later : r.recovery.remembers →
    id.Tells r.recovery.stateBeforeModuleFailed r.recovery.errorBeforeModuleFailed

theorem Tells.enterModuleFailure (h : r.Tells) {ec : ErrorCode} (hec : ec ≠ .ok) :
    (r.enterModuleFailure ec).Tells := by
  rw [Running.enterModuleFailure]
  split
  · exact ⟨CommandId.tells_of_error hec, fun _ => h.now⟩
  · exact h

theorem Tells.failAgain (h : r.Tells) {ec : ErrorCode} (hec : ec ≠ .ok) :
    (r.failAgain ec).Tells := by
  rw [Running.failAgain]
  split
  · exact ⟨CommandId.tells_of_error hec, h.later⟩
  · exact h

theorem Tells.awaitHomingRequest (h : r.Tells) {ec : ErrorCode} {axis : Axis} :
    (r.awaitHomingRequest ec axis).Tells := by
  rw [Running.awaitHomingRequest]
  split
  · dsimp only
    split
    · exact ⟨CommandId.tells_of_error ErrorCode.running_ne_ok, h.later⟩
    · exact ⟨h.now, h.later⟩
  · exact h

theorem Tells.recovered (h : r.Tells) {axis : Axis} : (r.recovered axis).Tells := by
  refine ⟨?_, fun hrem => absurd hrem (not_remembers_recovered axis)⟩
  show id.Tells r.recovery.stateBeforeModuleFailed r.recovery.errorBeforeModuleFailed
  by_cases hrem : r.recovery.remembers
  · exact h.later hrem
  · by_cases herror : r.recovery.errorBeforeModuleFailed = .ok
    · exact .inr ⟨herror, .inr (not_not.mp hrem)⟩
    · exact CommandId.tells_of_error herror

theorem Tells.waitForOne (h : r.Tells) {ec : ErrorCode} (hec : ec ≠ .ok) (axis : Axis) :
    (r.waitForOneModuleErrorRecovery ec axis).2.Tells := by
  rw [waitForOneModuleErrorRecovery]
  split
  · exact ((h.enterModuleFailure hec).failAgain hec).awaitHomingRequest
  · split
    · split
      · split
        · exact h.recovered
        · exact h
      · exact h
    · exact h

theorem Tells.waitForModules (h : r.Tells) : r.waitForModulesErrorRecovery.2.Tells :=
  ((h.waitForOne (Modules.checkMovable_ne_ok _ _) _).waitForOne (Modules.checkMovable_ne_ok _ _)
    _).waitForOne (Modules.checkMovable_ne_ok _ _) _

/-- What is asked of a step once failed modules have been checked: a code that is due is not
lost, a retry does something, and a command without a code gets one. -/
structure GoesCandidly (waiting : Bool) (r : Running id.Data) : Prop where
  deferred : ¬ (waiting = true ∨ r.command.state = .errInternal) → r.command.DefersError r.modules
  retry : ¬ (waiting = true ∨ r.command.state = .errInternal) →
    id.retriesSilently r.command r.modules = false
  silent : id.Silent r.command.state r.command.error →
    waiting = false ∧
      (r.command.state = .errDisengagingIdler → r.modules.idler.disengaged) ∧
      (r.command.state = .empty → id.reportsUnhandled)

instance (waiting : Bool) : Decidable (r.GoesCandidly waiting) :=
  decidable_of_iff (_ ∧ _ ∧ _)
    ⟨fun ⟨hdeferred, hretry, hsilent⟩ => ⟨hdeferred, hretry, hsilent⟩,
      fun h => ⟨h.deferred, h.retry, h.silent⟩⟩

def StepsCandidly (r : Running id.Data) : Prop :=
  r.waitForModulesErrorRecovery.2.GoesCandidly r.waitForModulesErrorRecovery.1

instance : Decidable r.StepsCandidly := inferInstanceAs (Decidable (GoesCandidly _ _))

theorem Tells.step (h : r.Tells) (hsteps : r.StepsCandidly) :
    id.Candid (r.step id.stepInner).2.command.state (r.step id.stepInner).2.command.error ∧
      (r.step id.stepInner).2.Tells := by
  have htells := h.waitForModules
  rw [StepsCandidly] at hsteps
  rw [Running.step]
  generalize r.waitForModulesErrorRecovery = w at htells hsteps ⊢
  dsimp only
  split
  · next hstays =>
      refine ⟨htells.now.resolve_right fun hnow => ?_, htells⟩
      obtain ⟨hgoes, -, -⟩ := hsteps.silent hnow
      rcases hstays with hwaiting | hinternal
      · exact Bool.false_ne_true (hgoes.symm.trans hwaiting)
      · rcases hnow.2 with ⟨-, hstate⟩ | hstate
        · exact absurd (hstate.symm.trans hinternal) (by decide)
        · exact absurd (hstate.symm.trans hinternal) (by decide)
  · next hgoes =>
      have hdefers := hsteps.deferred hgoes
      have hcandid : id.Candid (id.stepInner w.2.command w.2.modules).2.1.state
          (id.stepInner w.2.command w.2.modules).2.1.error := by
        rcases htells.now with hnow | hnow
        · exact CommandId.candid_stepInner hnow hdefers (hsteps.retry hgoes)
        · obtain ⟨-, hdisengaged, hunhandled⟩ := hsteps.silent hnow
          rcases hnow.2 with ⟨hid, hstate⟩ | hstate
          · subst hid
            exact .of_error
              (ToolChange.error_stepInner_of_disengaged hstate (hdisengaged hstate) hdefers)
          · exact .of_error (CommandId.error_stepInner_of_empty (hunhandled hstate) hstate)
      exact ⟨hcandid, .inl hcandid, htells.later⟩

theorem nested_step {P : UnloadFilament → Prop} (hP : UnloadFilament.Preserve P)
    (h : ∀ unl ∈ id.nested r.command, P unl) :
    ∀ unl ∈ id.nested (r.step id.stepInner).2.command, P unl := by
  have hkept := CommandId.nested_of_data h (carries_waitForModules (r := r)).data
  rw [Running.step]
  generalize r.waitForModulesErrorRecovery = w at hkept ⊢
  dsimp only
  split
  · exact hkept
  · exact CommandId.stepInner_preserves hP hkept

end Running

theorem MoveSelector.error_reset {c : MoveSelector} {m : Modules} {param : UInt8} :
    (MoveSelector.reset c param m).2.1.error ≠ .ok := by
  rw [MoveSelector.reset]
  dsimp only
  split
  · exact ErrorCode.running_ne_ok
  · exact show ErrorCode.homingSelectorFailed ≠ .ok by decide

namespace CommandId

variable {id : CommandId} {c : id.Object} {m : Modules}

/-- Where a start keeps the state as it is, the code may be `OK`. -/
theorem tells_of_shownState {error : ErrorCode} (hshown : id.shownState c = .ok)
    (hid : id.handingOver c = false) : id.Tells c.state error := by
  have hstate := ((shownState_eq_ok id c).mp hshown).resolve_right (by rw [hid]; decide)
  rw [hstate]
  exact .inl .of_ok

/-- The commands that are started by a button. -/
theorem candid_reset_manual (hid : id = .moveSelector ∨ id = .loadFilament)
    (hshown : id.shownState c = .ok) (param : UInt8) :
    id.Candid (id.reset c param m).2.1.state (id.reset c param m).2.1.error := by
  rcases hid with rfl | rfl
  · exact .of_error MoveSelector.error_reset
  · intro hok
    rcases LoadFilament.reset_states c param m with herror | hstate
    · exact absurd hok herror
    · exact hstate.trans hshown

/-- A start leaves a code that tells, wherever it is made. -/
theorem tells_reset (hshown : id.shownState c = .ok) (param : UInt8) :
    id.Tells (id.reset c param m).2.1.state (id.reset c param m).2.1.error := by
  cases id with
  | startUp =>
      have hreset : (StartUp.reset c m).2.1 = c ∨
          (StartUp.reset c m).2.1.error = .findaVsEepromDisrepancy := by
        rw [StartUp.reset]
        dsimp only
        split
        · exact .inl rfl
        · exact .inr rfl
      show Tells _ (StartUp.reset c m).2.1.state (StartUp.reset c m).2.1.error
      rcases hreset with heq | herror
      · rw [heq]
        exact tells_of_shownState hshown rfl
      · exact tells_of_error (by rw [herror]; decide)
  | noCommand => exact tells_of_shownState hshown rfl
  | cutFilament => exact tells_of_error (CutFilament.error_reset param)
  | ejectFilament => exact tells_of_error (EjectFilament.error_reset param)
  | home => exact tells_of_error ErrorCode.running_ne_ok
  | loadFilament =>
      rcases LoadFilament.reset_states c param m with herror | hstate
      · exact tells_of_error herror
      · show Tells _ (LoadFilament.reset c param m).2.1.state _
        rw [hstate]
        exact tells_of_shownState hshown rfl
  | moveSelector => exact tells_of_error MoveSelector.error_reset
  | setMode => exact .inl .of_ok
  | toolChange =>
      rcases ToolChange.reset_states c param m with herror | hunloading | ⟨-, hstate | hstate⟩
      · exact tells_of_error herror
      · exact .inl fun _ => .inr hunloading
      · show Tells _ (ToolChange.reset c param m).2.1.state _
        rw [hstate]
        exact .inl fun _ => (ToolChange.shownState_eq_ok.mp hshown).imp_right And.left
      · by_cases hok : (ToolChange.reset c param m).2.1.error = .ok
        · exact .inr ⟨hok, .inl ⟨rfl, hstate⟩⟩
        · exact tells_of_error hok
  | unloadFilament =>
      rcases UnloadFilament.reset_states c m with herror | heq
      · exact tells_of_error herror
      · show Tells _ (UnloadFilament.reset c m).1.state (UnloadFilament.reset c m).1.error
        rw [heq]
        exact tells_of_shownState hshown rfl

end CommandId

namespace Commands

/-- What the codes of all commands tell while one of them is in charge. The others can be
replaced, or a panic has stopped them. -/
structure Tells (cs : Commands) (inCharge : CommandId) : Prop where
  now : inCharge.Tells (cs.get inCharge).command.state (cs.get inCharge).command.error
  later : ∀ id : CommandId, (cs.get id).recovery.remembers →
    id.Tells (cs.get id).recovery.stateBeforeModuleFailed
      (cs.get id).recovery.errorBeforeModuleFailed
  nested : ∀ id : CommandId, ∀ unl ∈ id.nested (cs.get id).command, unl.Nested
  others : ∀ id : CommandId, id ≠ inCharge →
    id.shownState (cs.get id).command = .ok ∨ (cs.get id).command.state = .errInternal

variable {cs : Commands} {inCharge id : CommandId}

/-- A command that is shown as finished can be replaced by another one. -/
theorem Tells.set (h : cs.Tells inCharge)
    (hreplaced : id ≠ inCharge → inCharge.shownState (cs.get inCharge).command = .ok ∨
      (cs.get inCharge).command.state = .errInternal)
    {t : TopLevel id.Data} (hnow : id.Tells t.command.state t.command.error)
    (hlater : t.recovery.remembers →
      id.Tells t.recovery.stateBeforeModuleFailed t.recovery.errorBeforeModuleFailed)
    (hnested : ∀ unl ∈ id.nested t.command, unl.Nested) : (cs.set id t).Tells id := by
  refine ⟨?_, fun id' => ?_, fun id' => ?_, fun id' hid' => ?_⟩
  · rw [get_set_self]
    exact hnow
  · by_cases hid : id' = id
    · subst hid
      rw [get_set_self]
      exact hlater
    · rw [get_set_of_ne _ hid]
      exact h.later id'
  · by_cases hid : id' = id
    · subst hid
      rw [get_set_self]
      exact hnested
    · rw [get_set_of_ne _ hid]
      exact h.nested id'
  · rw [get_set_of_ne _ hid']
    by_cases hcharge : id' = inCharge
    · subst hcharge
      exact hreplaced hid'.symm
    · exact h.others id' hcharge

/-- A panic that hits another command than the one in charge. -/
theorem Tells.stop (h : cs.Tells inCharge) (hid : id ≠ inCharge) {t : TopLevel id.Data}
    (hstate : t.command.state = .errInternal) (hrecovery : t.recovery = (cs.get id).recovery)
    (hdata : t.command.data = (cs.get id).command.data) : (cs.set id t).Tells inCharge := by
  refine ⟨?_, fun id' => ?_, fun id' => ?_, fun id' hid' => ?_⟩
  · rw [get_set_of_ne _ hid.symm]
    exact h.now
  · by_cases hsame : id' = id
    · subst hsame
      rw [get_set_self, hrecovery]
      exact h.later id'
    · rw [get_set_of_ne _ hsame]
      exact h.later id'
  · by_cases hsame : id' = id
    · subst hsame
      rw [get_set_self]
      exact CommandId.nested_of_data (h.nested id') hdata
    · rw [get_set_of_ne _ hsame]
      exact h.nested id'
  · by_cases hsame : id' = id
    · subst hsame
      rw [get_set_self]
      exact .inr hstate
    · rw [get_set_of_ne _ hsame]
      exact h.others id' hid'

/-- The error code of the command in charge tells whether it has finished. -/
structure Candid (cs : Commands) (inCharge : CommandId) : Prop where
  tells : cs.Tells inCharge
  candid : inCharge.Candid (cs.get inCharge).command.state (cs.get inCharge).command.error

end Commands

namespace World

def Candid (w : World) : Prop := w.commands.Candid w.currentCommand

variable {w : World}

theorem Candid.congr (h : w.Candid) {w' : World} (hcommands : w'.commands = w.commands)
    (hcurrent : w'.currentCommand = w.currentCommand) : w'.Candid := by
  rw [Candid, hcommands, hcurrent]
  exact h

theorem candid_panic (h : w.commands.Tells w.currentCommand) {ec : ErrorCode} (hec : ec ≠ .ok) :
    (w.panic ec).Candid := by
  have hget := Commands.get_set_self w.commands w.currentCommand
    { w.current with command := { w.current.command with state := .errInternal, error := ec } }
  refine ⟨h.set (fun hne => absurd rfl hne) (.inl (.of_error hec)) (h.later _) ?_, ?_⟩
  · exact CommandId.nested_of_data (h.nested w.currentCommand) rfl
  · refine .of_error ?_
    have herror := congrArg (fun t => t.command.error) hget
    exact fun hok => hec (herror.symm.trans hok)

theorem tells_panic {inCharge : CommandId} (h : w.commands.Tells inCharge) {ec : ErrorCode}
    (hec : ec ≠ .ok) :
    (w.panic ec).commands.Tells inCharge ∧
      (w.commands.Candid inCharge → (w.panic ec).commands.Candid inCharge) := by
  by_cases hid : w.currentCommand = inCharge
  · subst hid
    have hcandid : (w.panic ec).Candid := candid_panic h hec
    exact ⟨hcandid.tells, fun _ => hcandid⟩
  · have hstops : (w.panic ec).commands.Tells inCharge := h.stop hid rfl rfl rfl
    refine ⟨hstops, fun hcandid => ⟨hstops, ?_⟩⟩
    have hkept : (w.panic ec).commands.get inCharge = w.commands.get inCharge :=
      Commands.get_set_of_ne _ (Ne.symm hid) _
    rw [hkept]
    exact hcandid.candid

theorem tells_deliverPanic {inCharge : CommandId} (h : w.commands.Tells inCharge) :
    w.deliverPanic.commands.Tells inCharge ∧
      (w.commands.Candid inCharge → w.deliverPanic.commands.Candid inCharge) := by
  have hqueue : ErrorCode.queueFull ≠ .ok := by decide
  rw [deliverPanic]
  split
  · exact tells_panic (w := { w with modules := w.modules.clearQueueFull }) h hqueue
  · exact ⟨h, id⟩

theorem Candid.deliverPanic (h : w.Candid) : w.deliverPanic.Candid := by
  rw [Candid, deliverPanic_currentCommand]
  exact (tells_deliverPanic h.tells).2 h

theorem Candid.stepModules (h : w.Candid) (i : LoopInput) : (w.stepModules i).Candid := by
  rw [World.stepModules]
  exact Candid.deliverPanic (h.congr rfl rfl)

theorem Candid.runtimeHWChecks (h : w.Candid) (vccADC : UInt16) :
    (w.runtimeHWChecks vccADC).Candid := by
  have hundervoltage : ErrorCode.mcuUndervoltageVcc ≠ .ok := by decide
  rw [World.runtimeHWChecks]
  split
  · exact candid_panic (w := { w with modules := w.modules.killMotors }) h.tells hundervoltage
  · exact h

theorem Candid.interrupt (h : w.Candid) (i : Interrupts) : (w.interrupt i).Candid :=
  h.congr rfl rfl

theorem Candid.beforeMessages (h : w.Candid) (i : LoopInput) : (w.beforeMessages i).Candid :=
  (((h.interrupt i.beforeModules).stepModules i).runtimeHWChecks i.vccADC).interrupt i.beforeMessages

/-- A start replaces the command in charge by another one that has been finished as well. -/
theorem tells_resetAs {w₀ : World} (h : w₀.Candid) (hshown : w₀.shownState = .ok)
    (hcommands : w.commands = w₀.commands) {id : CommandId}
    (hstopped : (w₀.commands.get id).command.state ≠ .errInternal) (param : UInt8) :
    (w.resetAs id param).commands.Tells id ∧
      (id = .moveSelector ∨ id = .loadFilament → (w.resetAs id param).commands.Candid id) := by
  have htells := h.tells
  have hidle : id.shownState (w.commands.get id).command = .ok := by
    rw [hcommands]
    by_cases hid : id = w₀.currentCommand
    · subst hid
      exact hshown
    · exact (htells.others id hid).resolve_right hstopped
  rw [← hcommands] at htells
  have hstarted : (w.resetAs id param).commands.Tells id := by
    refine htells.set (fun _ => ?_) (CommandId.tells_reset hidle param) (htells.later id) ?_
    · rw [hcommands]
      exact .inl hshown
    · exact CommandId.reset_preserves UnloadFilament.preserve_nested.toRestarts (htells.nested id) param
  refine ⟨hstarted, fun hmanual => ⟨hstarted, ?_⟩⟩
  rw [get_resetAs_self]
  exact CommandId.candid_reset_manual hmanual hidle param

end World

/-- No command that a panic has stopped is started again. -/
def Start.Fresh (s : Start) : Prop :=
  (s.before.commands.get s.command).command.state ≠ .errInternal

instance (s : Start) : Decidable s.Fresh := inferInstanceAs (Decidable (_ ≠ _))

namespace World

variable {w w' : World}

theorem ChecksManually.candid {o : Option Start} (hchecks : w.ChecksManually w' o) (h : w.Candid)
    (hfresh : ∀ s ∈ o, s.Fresh) : w'.Candid := by
  cases hchecks with
  | quiet => exact h.congr rfl rfl
  | @start userInput lastCommandProcessedMs w₁ hw₁ hok _ id hid param =>
      have hcommands : w₁.commands = w.commands := by rw [hw₁]
      obtain ⟨htells, hcandid⟩ := tells_resetAs h hok hcommands (hfresh _ rfl) param
      exact (tells_deliverPanic htells).2 (hcandid hid)

theorem Serves.tells {rq : RequestMsg} {o : Option Start} (hserves : w.Serves rq w' o)
    (h : w.Candid) (hfresh : ∀ s ∈ o, s.Fresh) : w'.commands.Tells w'.currentCommand := by
  cases hserves with
  | quiet => exact (h.congr rfl rfl).tells
  | reset =>
      have hcommands : (w.processReset rq.value).commands = w.commands := by
        rw [processReset]
        split <;> rfl
      exact (h.congr hcommands (w.processReset_currentCommand _)).tells
  | write =>
      have hwritten : Candid { w with modules := (writeRegister rq.value rq.value2 w.modules).2 } :=
        h.congr rfl rfl
      exact hwritten.deliverPanic.tells
  | @start hok _ id _ w₁ hw₁ =>
      have hcommands : w₁.commands = w.commands := by rw [hw₁]
      obtain ⟨htells, -⟩ := tells_resetAs h hok hcommands (hfresh _ rfl) rq.value
      rw [resetCommand_currentCommand, show w₁.currentCommand = id by rw [hw₁]]
      exact (tells_deliverPanic htells).1

theorem candid_stepCommand (h : w.commands.Tells w.currentCommand)
    (hsteps : (w.runningAs w.currentCommand).StepsCandidly) : w.stepCommand.Candid := by
  have htells : (w.runningAs w.currentCommand).Tells := ⟨h.now, h.later _⟩
  obtain ⟨hcandid, hnext⟩ := htells.step hsteps
  have hnested := Running.nested_step (r := w.runningAs w.currentCommand)
    UnloadFilament.preserve_nested (h.nested w.currentCommand)
  have hstepped : (w.stepAs w.currentCommand).Candid := by
    refine ⟨h.set (fun hne => absurd rfl hne) hnext.now hnext.later hnested, ?_⟩
    rw [← runningAs_stepAs] at hcandid
    exact hcandid
  exact hstepped.deliverPanic

variable (i : LoopInput)

theorem Candid.readMessages (h : w.Candid) (hfresh : ∀ s ∈ (w.report i).starts, s.Fresh) :
    (w.readMessages i).2.Candid := by
  have hmanual := (w.startManually_checks i).candid (h.beforeMessages i) fun s hs =>
    hfresh s (List.mem_append_left _ (Option.mem_toList.mpr hs))
  exact hmanual.congr rfl rfl

theorem Candid.beforeCommand (h : w.Candid) (hfresh : ∀ s ∈ (w.report i).starts, s.Fresh) :
    (w.beforeCommand i).commands.Tells (w.beforeCommand i).currentCommand := by
  have hread := h.readMessages i hfresh
  have hserve : (w.serve i).world.commands.Tells (w.serve i).world.currentCommand :=
    (w.serve_serves i).tells hread fun s hs =>
      hfresh s (List.mem_append_right _ (Option.mem_toList.mpr hs))
  exact hserve

/-- A board that has been reset is not stepped any more. -/
theorem Candid.loop (h : w.Candid) (hfresh : ∀ s ∈ (w.report i).starts, s.Fresh)
    (hsteps : ((w.report i).stepping.runningAs (w.report i).stepping.currentCommand).StepsCandidly) :
    (w.loop i).1.Candid ∨ (w.loop i).1.boardReset = true := by
  rw [World.loop]
  split
  · exact .inl h
  · dsimp only
    split
    · next hreset => exact .inr hreset
    · exact .inl (candid_stepCommand (h.beforeCommand i hfresh) hsteps)

end World

namespace CommandId

variable {id : CommandId} {c : id.Object}

/-- The code shown is that of a finished command, or that of the finished unload of a cut or an
eject. A tool change shows `RUNNING` instead of the latter. -/
theorem shownError_eq_ok (h : id.Candid c.state c.error)
    (hnested : ∀ unl ∈ id.nested c, unl.Nested) :
    id.shownError c = .ok ↔
      (c.state = .ok ∧ c.error = .ok) ∨ id.handingOver c = true ∧ id ≠ .toolChange := by
  have hplain : (c.error = .ok → c.state = .ok) → id.handingOver c = false →
      (c.error = .ok ↔
        (c.state = .ok ∧ c.error = .ok) ∨ id.handingOver c = true ∧ id ≠ .toolChange) := by
    intro hcandid hover
    rw [hover]
    simpa using hcandid
  have hdelegates : ∀ {unl : UnloadFilament}, unl.Nested → c.state = .unloadingFilament →
      (unl.error = .ok ↔
        (c.state = .ok ∧ c.error = .ok) ∨ (c.state == .unloadingFilament && unl.state == .ok) = true) := by
    intro unl hunl hstate
    rw [hstate]
    simpa using ⟨hunl.candid, hunl.finished⟩
  cases id with
  | cutFilament =>
      by_cases hstate : c.state = .unloadingFilament
      · have hunl := hdelegates (hnested _ rfl) hstate
        show CutFilament.shownError c = .ok ↔ _
        rw [CutFilament.shownError, if_pos hstate]
        simpa [handingOver] using hunl
      · show CutFilament.shownError c = .ok ↔ _
        rw [CutFilament.shownError, if_neg hstate]
        exact hplain h (by simp [handingOver, hstate])
  | ejectFilament =>
      by_cases hstate : c.state = .unloadingFilament
      · have hunl := hdelegates (hnested _ rfl) hstate
        show EjectFilament.shownError c = .ok ↔ _
        rw [EjectFilament.shownError, if_pos hstate]
        simpa [handingOver] using hunl
      · show EjectFilament.shownError c = .ok ↔ _
        rw [EjectFilament.shownError, if_neg hstate]
        exact hplain h (by simp [handingOver, hstate])
  | toolChange =>
      show ToolChange.shownError c = .ok ↔ _
      rw [ToolChange.shownError]
      split
      · next hstate =>
          split
          · simp [hstate, show ErrorCode.running ≠ .ok by decide]
          · next herror => simp [hstate, herror]
      · next hstate =>
          refine hplain (fun hok => (h hok).resolve_right hstate) ?_
          simpa [handingOver] using fun hunloading => absurd hunloading hstate
  | startUp | noCommand | home | loadFilament | moveSelector | setMode | unloadFilament =>
      exact hplain h rfl

end CommandId

namespace World

variable (w : World)

/-- A button the printer has to be told about comes before the status of the command. -/
def buttonPending : Bool :=
  w.modules.userInput.printerInCharge && w.modules.userInput.consumeEventForPrinter.1 != .noEvent

/-- A cut or an eject shows the code of its unload, which has finished. -/
def SpeaksForUnload : Prop :=
  w.handingOver = true ∧ w.currentCommand ≠ .toolChange ∧ w.buttonPending = false

instance : Decidable w.SpeaksForUnload := inferInstanceAs (Decidable (_ ∧ _ ∧ _))

/-- "Finished" is answered for a finished command only. -/
def AnswersTruthfully : Prop :=
  w.runningCommandStatus.1.code = .finished →
    w.topLevelState = .ok ∧ w.current.command.error = .ok

instance : Decidable w.AnswersTruthfully := inferInstanceAs (Decidable (_ → _ ∧ _))

theorem commandStatus_finished_iff : w.commandStatus.code = .finished ↔ w.shownError = .ok := by
  rw [commandStatus]
  split
  · next hrunning => simp [hrunning, ErrorCode.running_ne_ok]
  · split
    · next hok => simp [hok]
    · next hother => simp [hother]

theorem finished_iff :
    w.runningCommandStatus.1.code = .finished ↔ w.buttonPending = false ∧ w.shownError = .ok := by
  rw [runningCommandStatus, buttonPending]
  cases w.modules.userInput.printerInCharge with
  | false => simpa using w.commandStatus_finished_iff
  | true =>
      dsimp only
      by_cases hevent : w.modules.userInput.consumeEventForPrinter.1 = .noEvent
      · rw [hevent]
        exact Iff.trans (commandStatus_finished_iff _) (by simp [shownError, current])
      · simp [hevent]

variable {w}

theorem shownError_eq_ok_iff (h : w.Candid) :
    w.shownError = .ok ↔
      (w.topLevelState = .ok ∧ w.current.command.error = .ok) ∨
        w.handingOver = true ∧ w.currentCommand ≠ .toolChange :=
  CommandId.shownError_eq_ok h.candid (h.tells.nested _)

theorem answersTruthfully_iff (h : w.Candid) : w.AnswersTruthfully ↔ ¬ w.SpeaksForUnload := by
  have hover : w.handingOver = true → w.topLevelState ≠ .ok := CommandId.handingOver_ne_ok
  rw [AnswersTruthfully, SpeaksForUnload, finished_iff, shownError_eq_ok_iff h]
  constructor
  · rintro htruthful ⟨hhanding, hid, hbutton⟩
    exact hover hhanding (htruthful ⟨hbutton, .inr ⟨hhanding, hid⟩⟩).1
  · rintro hnever ⟨hbutton, hfinished | ⟨hhanding, hid⟩⟩
    · exact hfinished
    · exact absurd ⟨hhanding, hid, hbutton⟩ hnever

end World

/-- No command a panic has stopped is started, and the step of the iteration gives an unfinished
command a code. -/
structure LoopReport.Orderly (r : LoopReport) : Prop where
  starts : ∀ s ∈ r.starts, s.Fresh
  steps : (r.stepping.runningAs r.stepping.currentCommand).StepsCandidly

instance (r : LoopReport) : Decidable r.Orderly :=
  decidable_of_iff (_ ∧ _) ⟨fun ⟨hstarts, hsteps⟩ => ⟨hstarts, hsteps⟩, fun h => ⟨h.starts, h.steps⟩⟩

theorem World.candid_serving {w : World} (h : w.Candid ∨ w.boardReset = true)
    (inputs : List LoopInput) (horderly : ∀ r ∈ w.reports inputs, r.Orderly) :
    ∀ r ∈ w.reports inputs, r.serving.Candid := by
  have hgoes {w : World} (h : w.Candid ∨ w.boardReset = true) (hreset : w.boardReset = false) :
      w.Candid := h.resolve_right (by simp [hreset])
  intro r hr
  obtain ⟨-, hbegin⟩ := run_of_reports (I := fun w => w.Candid ∨ w.boardReset = true)
    (fun _ i hw hreset (hr : LoopReport.Orderly _) =>
      (hgoes hw hreset).loop i hr.starts hr.steps) h inputs horderly
  obtain ⟨w', i, hw', hreset, rfl⟩ := hbegin r hr
  exact (hgoes hw' hreset).readMessages i (horderly _ hr).starts

theorem BootInput.candid_startUp (b : BootInput) :
    b.startUp.1.error = .ok → b.startUp.1.state = .ok := by
  rw [startUp]
  dsimp only
  split
  · next herror => exact fun hok => absurd hok herror
  · rw [StartUp.reset]
    dsimp only
    split
    · exact fun _ => rfl
    · exact fun hok => absurd hok (show ErrorCode.findaVsEepromDisrepancy ≠ .ok by decide)

theorem BootInput.candid_world (b : BootInput) : b.world.Candid := by
  let cs : Commands := { startUp := { command := b.startUp.1 } }
  have hcandid : cs.Candid .startUp := by
    refine ⟨⟨.inl b.candid_startUp, fun id hrem => ?_, fun id => ?_, fun id hid => .inl ?_⟩,
      b.candid_startUp⟩
    · cases id <;> exact absurd rfl hrem
    · have hfresh : UnloadFilament.Nested { data := {} } := ⟨fun _ => rfl, fun _ => rfl, nofun⟩
      cases id with
      | cutFilament | ejectFilament | toolChange =>
          rintro _ ⟨⟩
          exact hfresh
      | startUp | noCommand | home | loadFilament | moveSelector | setMode | unloadFilament =>
          exact fun _ hunl => absurd hunl (Option.not_mem_none _)
    · cases id with
      | startUp => exact absurd rfl hid
      | noCommand | cutFilament | ejectFilament | home | loadFilament | moveSelector | setMode
      | toolChange | unloadFilament => rfl
  have hworld : b.world.commands = cs ∧ b.world.currentCommand = .startUp := by
    rw [world, World.processReset]
    dsimp only
    split <;> exact ⟨rfl, rfl⟩
  rw [World.Candid, hworld.1, hworld.2]
  exact hcandid

/-- In every run whose iterations are orderly, the answer to a query is truthful exactly where
it is not the code of the unload nested in a cut or an eject that has not finished. -/
theorem answers_truthful_iff (b : BootInput) (inputs : List LoopInput)
    (horderly : ∀ r ∈ b.reports inputs, r.Orderly) :
    ∀ r ∈ b.reports inputs, r.serving.AnswersTruthfully ↔ ¬ r.serving.SpeaksForUnload :=
  fun r hr => World.answersTruthfully_iff
    (World.candid_serving (.inl b.candid_world) inputs horderly r hr)

/-- The query comes right after the unload of an eject has finished. -/
def queryDuringEject : List LoopInput :=
  ejectUntilUnloaded ++ [(idleInput false).withRequest .query 0]

theorem finished_during_eject :
    ¬ ∀ (b : BootInput) (inputs : List LoopInput), ∀ r ∈ b.reports inputs,
      r.serving.AnswersTruthfully := by
  intro h
  have hquery := h loadedBoot queryDuringEject
  revert hquery
  decide +kernel

theorem answers_truthful_iff_load :
    ∃ r ∈ ({} : BootInput).reports [idleInput false, (idleInput false).withRequest .query 0],
      r.serving.AnswersTruthfully := by
  have hserved : ∃ r ∈ ({} : BootInput).reports [idleInput false, (idleInput false).withRequest .query 0],
      ¬ r.serving.SpeaksForUnload := by
    decide +kernel
  obtain ⟨r, hr, hspeaks⟩ := hserved
  exact ⟨r, hr, (answers_truthful_iff _ _ (by decide +kernel) r hr).mpr hspeaks⟩

end MmuFirmware
