import MmuFirmware.App.MainLoop

/-!
Invariants of the main loop. An iteration is a sequence of stages, so what every stage
preserves holds after every iteration; the frame lemmas say what the stages leave alone.
-/
namespace MmuFirmware
namespace World

variable (w : World)

section Frame

@[simp] theorem panic_currentCommand (ec : ErrorCode) :
    (w.panic ec).currentCommand = w.currentCommand := rfl

@[simp] theorem panic_currentCommandRq (ec : ErrorCode) :
    (w.panic ec).currentCommandRq = w.currentCommandRq := rfl

@[simp] theorem panic_protocol (ec : ErrorCode) : (w.panic ec).protocol = w.protocol := rfl

@[simp] theorem panic_boardReset (ec : ErrorCode) :
    (w.panic ec).boardReset = w.boardReset := rfl

@[simp] theorem deliverPanic_currentCommand :
    w.deliverPanic.currentCommand = w.currentCommand := by
  rw [deliverPanic]
  split <;> rfl

@[simp] theorem deliverPanic_currentCommandRq :
    w.deliverPanic.currentCommandRq = w.currentCommandRq := by
  rw [deliverPanic]
  split <;> rfl

@[simp] theorem deliverPanic_protocol : w.deliverPanic.protocol = w.protocol := by
  rw [deliverPanic]
  split <;> rfl

@[simp] theorem deliverPanic_boardReset : w.deliverPanic.boardReset = w.boardReset := by
  rw [deliverPanic]
  split <;> rfl

@[simp] theorem resetCommand_currentCommand (id : CommandId) (param : UInt8) :
    (w.resetCommand id param).2.currentCommand = w.currentCommand := by
  simp [resetCommand, setCommand]

@[simp] theorem resetCommand_currentCommandRq (id : CommandId) (param : UInt8) :
    (w.resetCommand id param).2.currentCommandRq = w.currentCommandRq := by
  simp [resetCommand, setCommand]

@[simp] theorem resetCommand_protocol (id : CommandId) (param : UInt8) :
    (w.resetCommand id param).2.protocol = w.protocol := by
  simp [resetCommand, setCommand]

@[simp] theorem resetCommand_boardReset (id : CommandId) (param : UInt8) :
    (w.resetCommand id param).2.boardReset = w.boardReset := by
  simp [resetCommand, setCommand]

@[simp] theorem stepModules_currentCommand (i : LoopInput) :
    (w.stepModules i).currentCommand = w.currentCommand := by
  simp [stepModules]

@[simp] theorem stepModules_currentCommandRq (i : LoopInput) :
    (w.stepModules i).currentCommandRq = w.currentCommandRq := by
  simp [stepModules]

@[simp] theorem stepModules_protocol (i : LoopInput) :
    (w.stepModules i).protocol = w.protocol := by
  simp [stepModules]

@[simp] theorem runtimeHWChecks_currentCommand (vccADC : UInt16) :
    (w.runtimeHWChecks vccADC).currentCommand = w.currentCommand := by
  rw [runtimeHWChecks]
  split <;> simp

@[simp] theorem runtimeHWChecks_currentCommandRq (vccADC : UInt16) :
    (w.runtimeHWChecks vccADC).currentCommandRq = w.currentCommandRq := by
  rw [runtimeHWChecks]
  split <;> simp

@[simp] theorem runtimeHWChecks_protocol (vccADC : UInt16) :
    (w.runtimeHWChecks vccADC).protocol = w.protocol := by
  rw [runtimeHWChecks]
  split <;> simp

@[simp] theorem beforeMessages_currentCommand (i : LoopInput) :
    (w.beforeMessages i).currentCommand = w.currentCommand := by
  simp [beforeMessages, interrupt]

@[simp] theorem stepCommand_currentCommand :
    w.stepCommand.currentCommand = w.currentCommand := by
  simp [stepCommand]

@[simp] theorem stepCommand_currentCommandRq :
    w.stepCommand.currentCommandRq = w.currentCommandRq := by
  simp [stepCommand]

@[simp] theorem stepCommand_protocol : w.stepCommand.protocol = w.protocol := by
  simp [stepCommand]

end Frame

section Starts

/-- Everything a check of the buttons can do: at most the input is consumed and the timer
moved, or, where the current command is shown as finished, a button starts a command. -/
inductive ChecksManually : World → Option Start → Prop
  | quiet (userInput : UserInput) (lastCommandProcessedMs : UInt16) :
      ChecksManually { w with modules := { w.modules with userInput, lastCommandProcessedMs } } none
  | start {userInput : UserInput} {lastCommandProcessedMs : UInt16} {w' : World}
      (hw' : w' = { w with modules := { w.modules with userInput, lastCommandProcessedMs } })
      (hok : w.shownState = .ok) (hloaded : w.modules.filamentLoaded ≤ .atPulley)
      {id : CommandId} (hid : id = .moveSelector ∨ id = .loadFilament) (param : UInt8)
      (hissued : ∃ ev, manualCommand ev w.modules.activeSlot = some (id, param)) :
      ChecksManually { (w'.resetCommand id param).2 with currentCommand := id }
        (some { before := w, command := id, param, accepted := (w'.resetCommand id param).1 })

theorem checksManually : w.ChecksManually w.checkManualOperation.2 w.checkManualOperation.1 := by
  rw [checkManualOperation]
  dsimp only
  split
  · split
    · exact .quiet _ _
    · exact .quiet _ _
  · split
    · next hidle =>
        split
        · next id param hcommand =>
            refine .start rfl hidle.1 hidle.2.1 ?_ param ⟨_, hcommand⟩
            rw [manualCommand] at hcommand
            grind
        · exact .quiet _ _
    · exact .quiet _ _

/-- The codes that plan a command. -/
def plansCommand : RequestMsgCodes → Bool
  | .cut | .eject | .home | .load | .mode | .tool | .unload => true
  | _ => false

/-- Everything a request can do: to change the user's input or the filament sensor at most,
to reset the board, to write a register, or, where the current command is shown as finished,
to start a command. -/
inductive Serves (rq : RequestMsg) : World → Option Start → Prop
  | quiet (userInput : UserInput) (fsensor : FSensor) :
      Serves rq { w with modules := { w.modules with userInput, fsensor } } none
  | reset (hcode : rq.code = .reset) : Serves rq (w.processReset rq.value) none
  | write (hcode : rq.code = .write) :
      Serves rq
        (World.deliverPanic { w with modules := (writeRegister rq.value rq.value2 w.modules).2 })
        none
  | start (hok : w.shownState = .ok) (hcode : plansCommand rq.code) {id : CommandId}
      (hid : id = commandOf rq.code) {w' : World}
      (hw' : w' = { w with currentCommand := id, currentCommandRq := rq }) :
      Serves rq (w'.resetCommand id rq.value).2
        (some
          { before := w, command := id, param := rq.value
            accepted := (w'.resetCommand id rq.value).1 })

/-- A status is that of the command, or a button the printer has been waiting for. -/
theorem runningCommandStatus_cases :
    (∃ userInput, w.runningCommandStatus.2 = { w with modules := { w.modules with userInput } }) ∧
      (w.runningCommandStatus.1 = w.commandStatus ∨ w.runningCommandStatus.1.code = .button) := by
  rw [runningCommandStatus]
  split
  · dsimp only
    split
    · exact ⟨⟨_, rfl⟩, .inr rfl⟩
    · exact ⟨⟨_, rfl⟩, .inl rfl⟩
  · exact ⟨⟨_, rfl⟩, .inl rfl⟩

theorem serves (rq : RequestMsg) :
    w.Serves rq (w.processRequestMsg rq).world (w.processRequestMsg rq).started := by
  have hplan (hcode : plansCommand rq.code) :
      w.Serves rq (w.planCommand rq).world (w.planCommand rq).started := by
    rw [planCommand]
    split
    · next hok => exact .start hok hcode rfl rfl
    · exact .quiet w.modules.userInput w.modules.fsensor
  rw [processRequestMsg]
  cases hcode : rq.code with
  | query =>
      obtain ⟨⟨userInput, hinput⟩, -⟩ := w.runningCommandStatus_cases
      dsimp only
      rw [hinput]
      exact .quiet userInput w.modules.fsensor
  | reset => exact .reset hcode
  | write => exact .write hcode
  | cut | eject | home | load | mode | tool | unload => exact hplan (by simp [hcode, plansCommand])
  | button => exact .quiet _ w.modules.fsensor
  | filamentSensor => exact .quiet w.modules.userInput _
  | unknown | finda | version | filamentType | read =>
      exact .quiet w.modules.userInput w.modules.fsensor

theorem startManually_checks (i : LoopInput) :
    (w.beforeMessages i).ChecksManually (w.startManually i).2 (w.startManually i).1 :=
  (w.beforeMessages i).checksManually

theorem serve_serves (i : LoopInput) :
    (w.readMessages i).2.Serves (w.readMessages i).2.protocol.requestMsg (w.serve i).world
      (w.serve i).started := by
  rw [serve]
  split
  · exact serves _ _
  · exact .quiet _ _

@[simp] theorem processReset_currentCommand (resetType : UInt8) :
    (w.processReset resetType).currentCommand = w.currentCommand := by
  rw [processReset]
  split <;> rfl

@[simp] theorem processReset_currentCommandRq (resetType : UInt8) :
    (w.processReset resetType).currentCommandRq = w.currentCommandRq := by
  rw [processReset]
  split <;> rfl

@[simp] theorem processReset_protocol (resetType : UInt8) :
    (w.processReset resetType).protocol = w.protocol := by
  rw [processReset]
  split <;> rfl

variable {w} {w' : World} {s : Option Start} {rq : RequestMsg}

theorem ChecksManually.protocol (h : w.ChecksManually w' s) : w'.protocol = w.protocol := by
  cases h with
  | quiet => rfl
  | start hw' => simp [hw']

theorem ChecksManually.currentCommandRq (h : w.ChecksManually w' s) :
    w'.currentCommandRq = w.currentCommandRq := by
  cases h with
  | quiet => rfl
  | start hw' => simp [hw']

theorem ChecksManually.currentCommand (h : w.ChecksManually w' none) :
    w'.currentCommand = w.currentCommand := by
  cases h
  rfl

/-- Whatever a button starts replaces a command that is shown as finished. -/
theorem ChecksManually.before {s : Start} (h : w.ChecksManually w' (some s)) :
    s.before = w ∧ w.shownState = .ok := by
  cases h with
  | start _ hok => exact ⟨rfl, hok⟩

theorem Serves.protocol (h : w.Serves rq w' s) : w'.protocol = w.protocol := by
  cases h with
  | quiet => rfl
  | reset | write => simp
  | start _ _ _ hw' => simp [hw']

/-- Queries are answered with the request planned last. -/
theorem Serves.currentCommandRq (h : w.Serves rq w' s) :
    w'.currentCommandRq = if s.isSome then rq else w.currentCommandRq := by
  cases h with
  | quiet => rfl
  | reset | write => simp
  | start _ _ _ hw' => simp [hw']

theorem Serves.plans (h : w.Serves rq w' s) (hs : s.isSome) : plansCommand rq.code := by
  cases h with
  | quiet | reset | write => cases hs
  | start _ hcode => exact hcode

theorem Serves.currentCommand (h : w.Serves rq w' none) :
    w'.currentCommand = w.currentCommand := by
  cases h with
  | quiet => rfl
  | reset | write => simp

theorem Serves.before {s : Start} (h : w.Serves rq w' (some s)) :
    s.before = w ∧ w.shownState = .ok := by
  cases h with
  | start hok => exact ⟨rfl, hok⟩

end Starts

/-- A property every stage of an iteration preserves, as far as requests are allowed. -/
structure StagesPreserve (Allowed : RequestMsg → Prop) (I : World → Prop) : Prop where
  interrupt : ∀ w i, I w → I (w.interrupt i)
  stepModules : ∀ w i, I w → I (w.stepModules i)
  runtimeHWChecks : ∀ w vccADC, I w → I (w.runtimeHWChecks vccADC)
  checkManualOperation : ∀ w, I w → I w.checkManualOperation.2
  receive : ∀ w bytes, I w → I (w.receive bytes)
  checkMsgs : ∀ w, I w → I w.checkMsgs.2
  processRequestMsg : ∀ w, I w → w.checkMsgs.1 → Allowed w.checkMsgs.2.protocol.requestMsg →
    I (w.checkMsgs.2.processRequestMsg w.checkMsgs.2.protocol.requestMsg).world
  stepCommand : ∀ w, I w → I w.stepCommand

namespace StagesPreserve

variable {Allowed : RequestMsg → Prop} {I : World → Prop} (h : StagesPreserve Allowed I)
  {w : World} (hw : I w) (i : LoopInput)
include h hw

theorem beforeMessages : I (w.beforeMessages i) :=
  h.interrupt _ _ (h.runtimeHWChecks _ _ (h.stepModules _ _ (h.interrupt _ _ hw)))

theorem received : I ((w.startManually i).2.receive i.rx) :=
  h.receive _ _ (h.checkManualOperation _ (h.beforeMessages hw i))

variable (hallowed : ∀ rq, (w.report i).request = some rq → Allowed rq)
include hallowed

theorem serve : I (w.serve i).world := by
  rw [World.serve]
  split
  · next hcompleted =>
      refine h.processRequestMsg _ (h.received hw i) hcompleted (hallowed _ ?_)
      rw [report, if_pos hcompleted]
      rfl
  · exact h.checkMsgs _ (h.received hw i)

theorem beforeCommand : I (w.beforeCommand i) := h.interrupt _ _ (h.serve hw i hallowed)

theorem loop : I (w.loop i).1 := by
  rw [World.loop]
  split
  · exact hw
  · dsimp only
    split
    · exact h.beforeCommand hw i hallowed
    · exact h.stepCommand _ (h.beforeCommand hw i hallowed)

end StagesPreserve

/-- An iteration either reports or finds the board reset. -/
theorem loop_snd_eq_some {i : LoopInput} {r : LoopReport} :
    (w.loop i).2 = some r ↔ w.boardReset = false ∧ w.report i = r := by
  cases hreset : w.boardReset <;> simp [loop, hreset]

theorem reports_cons (i : LoopInput) (inputs : List LoopInput) :
    w.reports (i :: inputs) = (w.loop i).2.toList ++ (w.loop i).1.reports inputs := by
  rw [reports, Transducer.trace_cons, List.filterMap_cons]
  cases (w.loop i).2 <;> rfl

theorem reports_append (inputs inputs' : List LoopInput) :
    w.reports (inputs ++ inputs') = w.reports inputs ++ (w.run inputs).reports inputs' := by
  rw [reports, Transducer.trace_append, List.filterMap_append]
  rfl

/-- Once the board is reset nothing goes on. -/
theorem loop_of_boardReset (h : w.boardReset = true) (i : LoopInput) : w.loop i = (w, none) := by
  simp [loop, h]

theorem reports_of_boardReset (h : w.boardReset = true) (i : LoopInput)
    (inputs : List LoopInput) : w.reports (i :: inputs) = w.reports inputs := by
  rw [reports_cons, w.loop_of_boardReset h]
  rfl

theorem reports_of_goes (h : w.boardReset = false) (i : LoopInput) (inputs : List LoopInput) :
    w.reports (i :: inputs) = w.report i :: (w.loop i).1.reports inputs := by
  rw [reports_cons, w.loop_snd_eq_some.mpr ⟨h, rfl⟩]
  rfl

/-- What every allowed iteration preserves holds after every run that starts with it and in which
all iterations are allowed, and each of them begins with it. -/
theorem run_of_reports {I : World → Prop} {Allowed : LoopReport → Prop}
    (hloop : ∀ w i, I w → w.boardReset = false → Allowed (w.report i) → I (w.loop i).1)
    {w : World} (hw : I w) (inputs : List LoopInput) (hallowed : ∀ r ∈ w.reports inputs, Allowed r) :
    I (w.run inputs) ∧
      ∀ r ∈ w.reports inputs, ∃ w' i, I w' ∧ w'.boardReset = false ∧ w'.report i = r := by
  induction inputs generalizing w with
  | nil => exact ⟨hw, fun r hr => absurd hr (by simp [reports])⟩
  | cons i inputs ih =>
      cases hreset : w.boardReset with
      | true =>
          have hstays : (w.loop i).1 = w := congrArg Prod.fst (w.loop_of_boardReset hreset i)
          rw [w.reports_of_boardReset hreset] at hallowed ⊢
          rw [World.run, Transducer.run_cons, hstays]
          exact ih hw hallowed
      | false =>
          rw [w.reports_of_goes hreset] at hallowed ⊢
          rw [List.forall_mem_cons] at hallowed ⊢
          obtain ⟨hhere, hlater⟩ := hallowed
          obtain ⟨hend, hbegin⟩ := ih (hloop w i hw hreset hhere) hlater
          exact ⟨hend, ⟨w, i, hw, hreset, rfl⟩, hbegin⟩

/-- What every stage preserves holds after every run that starts with it and in which every
request is allowed. -/
theorem StagesPreserve.run {Allowed : RequestMsg → Prop} {I : World → Prop}
    (h : StagesPreserve Allowed I) {w : World} (hw : I w) (inputs : List LoopInput)
    (hallowed : ∀ r ∈ w.reports inputs, ∀ rq, r.request = some rq → Allowed rq) :
    I (w.run inputs) :=
  (run_of_reports (I := I) (fun _ i hw _ hr => h.loop hw i hr) hw inputs hallowed).1

end World
end MmuFirmware
