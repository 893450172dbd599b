import MmuFirmware.App.Exclusion
import MmuFirmware.App.Robust

/-!
Invariants that say which command is in charge. A start puts another command in charge, a
step is one of the command in charge, and nothing else touches the commands but a panic. The
first such invariant: only the command in charge can remember a failed module.
-/
namespace MmuFirmware

/-- The selector is moved from the active slot, by a button. -/
def Start.Issued (s : Start) : Prop :=
  s.command = .moveSelector →
    ∃ ev, World.manualCommand ev s.before.modules.activeSlot = some (.moveSelector, s.param)

namespace World

/-- No request moves the selector by itself. -/
theorem commandOf_ne_moveSelector (code : RequestMsgCodes) : commandOf code ≠ .moveSelector := by
  cases code <;> decide

variable (w : World)

/-- A command object as its step would find it. -/
def runningAs (id : CommandId) : Running id.Data where
  command := (w.commands.get id).command
  recovery := (w.commands.get id).recovery
  modules := w.modules

/-- `resetCommand` before a panic is delivered. -/
def resetAs (id : CommandId) (param : UInt8) : World :=
  w.setCommand id (id.reset (w.commands.get id).command param w.modules).2.1
    (id.reset (w.commands.get id).command param w.modules).2.2

/-- `stepCommand` before a panic is delivered. -/
def stepAs (id : CommandId) : World :=
  let r := ((w.runningAs id).step id.stepInner).2
  { w with
    commands := w.commands.set id { command := r.command, recovery := r.recovery }
    modules := r.modules }

theorem stepCommand_eq : w.stepCommand = (w.stepAs w.currentCommand).deliverPanic := rfl

@[simp] theorem get_resetAs_self (id : CommandId) (param : UInt8) :
    (w.resetAs id param).commands.get id =
      { w.commands.get id with
        command := (id.reset (w.commands.get id).command param w.modules).2.1 } :=
  Commands.get_set_self _ _ _

theorem get_resetAs_of_ne {id id' : CommandId} (hid : id' ≠ id) (param : UInt8) :
    (w.resetAs id param).commands.get id' = w.commands.get id' :=
  Commands.get_set_of_ne _ hid _

theorem get_stepAs_of_ne {id id' : CommandId} (hid : id' ≠ id) :
    (w.stepAs id).commands.get id' = w.commands.get id' :=
  Commands.get_set_of_ne _ hid _

@[simp] theorem runningAs_stepAs (id : CommandId) :
    (w.stepAs id).runningAs id = ((w.runningAs id).step id.stepInner).2 := by
  rw [runningAs, stepAs]
  dsimp only
  rw [Commands.get_set_self]

/-- What a step preserves is preserved when its panic has been delivered as well. -/
theorem stepCommand_of_stepAs {P : World → Prop}
    (hgoesOn : ∀ {w : World} {m : Modules}, P w → w.modules.GoesOn m → P { w with modules := m })
    (hpanic : ∀ {w : World} (ec : ErrorCode), PanicCode ec → P w → P (w.panic ec))
    (h : P (w.stepAs w.currentCommand)) : P w.stepCommand := by
  rw [stepCommand_eq, deliverPanic]
  split
  · exact hpanic _ (.inl rfl) (hgoesOn h .clearQueueFull)
  · exact h

/-- A property of the command in charge that lasts, as far as starts, register writes and steps
allow. -/
structure Upholds (I : CommandId → World → Prop) (StartAllowed : Start → Prop)
    (WriteAllowed : World → RequestMsg → Prop) (StepAllowed : World → Prop) : Prop where
  goesOn : ∀ {id : CommandId} {w : World} {m : Modules}, I id w → w.modules.GoesOn m →
    I id { w with modules := m }
  panic : ∀ {id : CommandId} {w : World} (ec : ErrorCode), PanicCode ec → I id w →
    I id (w.panic ec)
  recast : ∀ {id : CommandId} {w w' : World}, I id w → w'.modules = w.modules →
    w'.commands = w.commands → I id w'
  start : ∀ {w w' : World} {s : Start},
    I w.currentCommand w → s.before = w → w.shownState = .ok → s.Issued → StartAllowed s →
    (∃ userInput lastCommandProcessedMs,
      w'.modules = { w.modules with userInput, lastCommandProcessedMs }) →
    w'.commands = w.commands → s.accepted = (w'.resetCommand s.command s.param).1 →
    I s.command (w'.resetAs s.command s.param)
  write : ∀ {w : World} {rq : RequestMsg}, I w.currentCommand w → WriteAllowed w rq →
    I w.currentCommand { w with modules := (writeRegister rq.value rq.value2 w.modules).2 }
  step : ∀ {w : World}, I w.currentCommand w → StepAllowed w → I w.currentCommand w.stepCommand

namespace Upholds

variable {I : CommandId → World → Prop} {StartAllowed : Start → Prop}
  {WriteAllowed : World → RequestMsg → Prop} {StepAllowed : World → Prop}
  (h : Upholds I StartAllowed WriteAllowed StepAllowed)
include h

theorem robust (id : CommandId) : Robust (I id) where
  goesOn := h.goesOn
  panic := h.panic
  congr hw hmodules hcommands _ := h.recast hw hmodules hcommands

variable {w} (hw : I w.currentCommand w)
include hw

theorem checksManually {w' : World} {o : Option Start} (hchecks : w.ChecksManually w' o)
    (hallowed : ∀ s ∈ o, StartAllowed s) : I w'.currentCommand w' := by
  cases o with
  | none =>
      rw [hchecks.currentCommand]
      exact (h.robust _).checksManually hw hchecks
  | some s =>
      have hs := hallowed s rfl
      cases hchecks with
      | @start userInput lastCommandProcessedMs w₁ hw₁ hok _ id _ param hcommand =>
          have hmodules : w₁.modules = { w.modules with userInput, lastCommandProcessedMs } := by
            rw [hw₁]
          have hissued : Start.Issued
              { before := w, command := id, param, accepted := (w₁.resetCommand id param).1 } := by
            rintro ⟨⟩
            exact hcommand
          have hstarted := h.start hw rfl hok hissued hs ⟨_, _, hmodules⟩ (by rw [hw₁]) rfl
          exact h.recast ((h.robust _).deliverPanic hstarted) rfl rfl

theorem serves {w' : World} {o : Option Start} {rq : RequestMsg} (hserves : w.Serves rq w' o)
    (hwrite : rq.code = .write → WriteAllowed w rq) (hallowed : ∀ s ∈ o, StartAllowed s) :
    I w'.currentCommand w' := by
  cases o with
  | none =>
      rw [hserves.currentCommand]
      exact (h.robust _).serves hw hserves fun hcode => h.write hw (hwrite hcode)
  | some s =>
      have hs := hallowed s rfl
      cases hserves with
      | @start hok _ id hid w₁ hw₁ =>
          have hmodules : w₁.modules = w.modules := by rw [hw₁]
          have hissued : Start.Issued
              { before := w, command := id, param := rq.value
                accepted := (w₁.resetCommand id rq.value).1 } := by
            intro hmove
            exact absurd (hid.symm.trans hmove) (commandOf_ne_moveSelector _)
          have hstarted := h.start hw rfl hok hissued hs
            ⟨w.modules.userInput, w.modules.lastCommandProcessedMs, hmodules⟩ (by rw [hw₁]) rfl
          rw [resetCommand_currentCommand, show w₁.currentCommand = id by rw [hw₁]]
          exact (h.robust _).deliverPanic hstarted

omit hw in
/-- The request of an iteration, if any, is served in the state its messages are read in. -/
theorem serve {i : LoopInput} (hread : I (w.readMessages i).2.currentCommand (w.readMessages i).2)
    (hplanned : ∀ s ∈ (w.serve i).started, StartAllowed s)
    (hwrite : ∀ rq, (w.report i).request = some rq → rq.code = .write →
      WriteAllowed (w.report i).serving rq) :
    I (w.serve i).world.currentCommand (w.serve i).world := by
  cases hcompleted : (w.readMessages i).1 with
  | true =>
      refine h.serves hread (w.serve_serves i) (hwrite _ ?_) hplanned
      rw [report, if_pos hcompleted]
  | false =>
      rw [World.serve, hcompleted]
      exact hread

variable (i : LoopInput) (hstarts : ∀ s ∈ (w.report i).starts, StartAllowed s)
include hstarts

omit hw in
theorem readMessages_of_beforeMessages
    (hbefore : I (w.beforeMessages i).currentCommand (w.beforeMessages i)) :
    I (w.readMessages i).2.currentCommand (w.readMessages i).2 := by
  have hmanual := h.checksManually hbefore (w.startManually_checks i) fun s hs =>
    hstarts s (List.mem_append_left _ (Option.mem_toList.mpr hs))
  exact h.recast hmanual rfl rfl

omit hstarts in
theorem beforeMessages : I (w.beforeMessages i).currentCommand (w.beforeMessages i) := by
  rw [beforeMessages_currentCommand]
  exact (h.robust _).beforeMessages hw i

theorem readMessages : I (w.readMessages i).2.currentCommand (w.readMessages i).2 :=
  h.readMessages_of_beforeMessages i hstarts (h.beforeMessages hw i)

variable (hwrite : ∀ rq, (w.report i).request = some rq → rq.code = .write →
  WriteAllowed (w.report i).serving rq)
include hwrite

omit hw in
theorem beforeCommand_of_beforeMessages
    (hbefore : I (w.beforeMessages i).currentCommand (w.beforeMessages i)) :
    I (w.beforeCommand i).currentCommand (w.beforeCommand i) := by
  have hserve := h.serve (h.readMessages_of_beforeMessages i hstarts hbefore)
    (fun s hs => hstarts s (List.mem_append_right _ (Option.mem_toList.mpr hs))) hwrite
  exact (h.robust _).interrupt hserve _

theorem beforeCommand : I (w.beforeCommand i).currentCommand (w.beforeCommand i) :=
  h.beforeCommand_of_beforeMessages i hstarts hwrite (h.beforeMessages hw i)

omit hw hstarts hwrite in
/-- From the state the current command is stepped in to the next iteration. -/
theorem loop_of_beforeCommand (hbefore : I (w.beforeCommand i).currentCommand (w.beforeCommand i))
    (hreset : w.boardReset = false) (hstep : StepAllowed (w.beforeCommand i)) :
    I (w.loop i).1.currentCommand (w.loop i).1 := by
  rw [World.loop, hreset, if_neg Bool.false_ne_true]
  dsimp only
  split
  · exact hbefore
  · rw [stepCommand_currentCommand]
    exact h.step hbefore hstep

theorem loop (hstep : StepAllowed (w.beforeCommand i)) :
    I (w.loop i).1.currentCommand (w.loop i).1 := by
  cases hreset : w.boardReset with
  | true =>
      rw [World.loop, hreset]
      exact hw
  | false => exact h.loop_of_beforeCommand i (h.beforeCommand hw i hstarts hwrite) hreset hstep

omit hw hstarts hwrite in
/-- The property holds where the last step of a run is made. -/
theorem lastStepping {w : World} (hw : I w.currentCommand w) {inputs : List LoopInput}
    {earlier : List LoopReport} {r : LoopReport} (hreports : w.reports inputs = earlier ++ [r])
    (hallowed : ∀ r' ∈ earlier ++ [r], (∀ s ∈ r'.starts, StartAllowed s) ∧
      ∀ rq, r'.request = some rq → rq.code = .write → WriteAllowed r'.serving rq)
    (hsteps : ∀ r' ∈ earlier, StepAllowed r'.stepping) :
    I r.stepping.currentCommand r.stepping := by
  induction inputs generalizing w earlier with
  | nil => exact absurd hreports (by simp [reports])
  | cons i inputs ih =>
      cases hreset : w.boardReset with
      | true =>
          rw [w.reports_of_boardReset hreset] at hreports
          exact ih hw hreports hallowed hsteps
      | false =>
          rw [w.reports_of_goes hreset] at hreports
          cases earlier with
          | nil =>
              have hr : w.report i = r := (List.cons_eq_cons.mp hreports).1
              obtain ⟨hstarts, hwrite⟩ := hallowed r (List.mem_append_right _ (by simp))
              rw [← hr] at hstarts hwrite ⊢
              exact h.beforeCommand hw i hstarts hwrite
          | cons r' earlier =>
              obtain ⟨hr, hrest⟩ := List.cons_eq_cons.mp hreports
              obtain ⟨hstarts, hwrite⟩ := hallowed r' (by simp)
              have hstep := hsteps r' (by simp)
              rw [← hr] at hstarts hwrite hstep
              exact ih (h.loop hw i hstarts hwrite hstep) hrest
                (fun r'' hr'' => hallowed r'' (List.mem_cons_of_mem _ hr''))
                fun r'' hr'' => hsteps r'' (List.mem_cons_of_mem _ hr'')

omit hw hstarts hwrite in
/-- The property holds at the end of every run that starts with it and in which all starts,
writes and steps are allowed. -/
theorem run {w : World} (hw : I w.currentCommand w) (inputs : List LoopInput)
    (hallowed : ∀ r ∈ w.reports inputs, (∀ s ∈ r.starts, StartAllowed s) ∧
      (∀ rq, r.request = some rq → rq.code = .write → WriteAllowed r.serving rq) ∧
      StepAllowed r.stepping) :
    I (w.run inputs).currentCommand (w.run inputs) :=
  (run_of_reports (I := fun w => I w.currentCommand w)
    (fun _ i hw _ hr => h.loop hw i hr.1 hr.2.1 hr.2.2) hw inputs hallowed).1

omit hw hstarts hwrite in
/-- Every iteration of such a run begins with the property. -/
theorem reports {w : World} (hw : I w.currentCommand w) (inputs : List LoopInput)
    (hallowed : ∀ r ∈ w.reports inputs, (∀ s ∈ r.starts, StartAllowed s) ∧
      (∀ rq, r.request = some rq → rq.code = .write → WriteAllowed r.serving rq) ∧
      StepAllowed r.stepping) :
    ∀ r ∈ w.reports inputs, ∃ w' i, I w'.currentCommand w' ∧ w'.report i = r := by
  intro r hr
  obtain ⟨-, hbegin⟩ := run_of_reports (I := fun w => I w.currentCommand w)
    (fun _ i hw _ hr => h.loop hw i hr.1 hr.2.1 hr.2.2) hw inputs hallowed
  obtain ⟨w', i, hw', -, hreport⟩ := hbegin r hr
  exact ⟨w', i, hw', hreport⟩

omit hw hstarts hwrite in
/-- It holds where commands are started. -/
theorem starts {w : World} (hw : I w.currentCommand w) (inputs : List LoopInput)
    (hallowed : ∀ r ∈ w.reports inputs, (∀ s ∈ r.starts, StartAllowed s) ∧
      (∀ rq, r.request = some rq → rq.code = .write → WriteAllowed r.serving rq) ∧
      StepAllowed r.stepping) :
    ∀ r ∈ w.reports inputs, ∀ s ∈ r.starts, I s.before.currentCommand s.before := by
  intro r hr s hs
  obtain ⟨w', i, hw', rfl⟩ := h.reports hw inputs hallowed r hr
  have hstarts := (hallowed _ hr).1
  rcases List.mem_append.mp hs with hmanual | hplanned
  · have hchecks := w'.startManually_checks i
    rw [show (w'.startManually i).1 = some s from Option.mem_toList.mp hmanual] at hchecks
    rw [hchecks.before.1]
    exact h.beforeMessages hw' i
  · have hserves := w'.serve_serves i
    rw [show (w'.serve i).started = some s from Option.mem_toList.mp hplanned] at hserves
    rw [hserves.before.1]
    exact h.readMessages hw' i hstarts

end Upholds

section Ready

/-- Only the command in charge can remember a failed module. -/
structure Ready (id : CommandId) (w : World) : Prop where
  blocked : (w.runningAs id).Blocked
  others : ∀ id', id' ≠ id → ¬ (w.commands.get id').recovery.remembers

variable {w} {id : CommandId}

theorem unloading_of_handingOver {c : id.Object} (h : id.handingOver c = true) :
    c.state = .unloadingFilament := by
  cases id <;> simp_all [CommandId.handingOver]

/-- What is shown as finished remembers nothing. -/
theorem Ready.not_remembers (h : w.Ready w.currentCommand) (hok : w.shownState = .ok)
    (id : CommandId) : ¬ (w.commands.get id).recovery.remembers := by
  by_cases hid : id = w.currentCommand
  · subst hid
    have hstate : w.current.command.state = .ok ∨
        w.current.command.state = .unloadingFilament :=
      ((CommandId.shownState_eq_ok _ _).mp hok).imp_right unloading_of_handingOver
    apply Recovery.Blocked.not_remembers h.blocked
    all_goals
      show w.current.command.state ≠ _
      rcases hstate with hstate | hstate <;> rw [hstate] <;> decide
  · exact h.others id hid

theorem panic_commands (ec : ErrorCode) :
    (w.panic ec).commands =
      w.commands.set w.currentCommand
        { w.current with
          command := { w.current.command with state := .errInternal, error := ec } } := rfl

theorem panic_get (ec : ErrorCode) (id : CommandId) :
    ((w.panic ec).commands.get id).recovery = (w.commands.get id).recovery ∧
      ((w.panic ec).commands.get id).command.data = (w.commands.get id).command.data ∧
      (((w.panic ec).commands.get id).command.state = .errInternal ∨
        (w.panic ec).commands.get id = w.commands.get id) := by
  rw [panic_commands]
  by_cases hid : id = w.currentCommand
  · subst hid
    rw [Commands.get_set_self]
    exact ⟨rfl, rfl, .inl rfl⟩
  · rw [Commands.get_set_of_ne _ hid]
    exact ⟨rfl, rfl, .inr rfl⟩

/-- A panic stops a command at once, or, where it remembers a failed module, not for good. -/
theorem panic_resumed (ec : ErrorCode) (id : CommandId) :
    ((w.panic ec).runningAs id).resumed = (w.runningAs id).resumed ∨
      ((w.panic ec).runningAs id).resumed = .errInternal := by
  obtain ⟨hrecovery, -, hstate⟩ := panic_get (w := w) ec id
  rw [Running.resumed, Running.resumed, runningAs, runningAs]
  dsimp only
  rw [hrecovery]
  rcases hstate with hinternal | hsame
  · rw [hinternal, Recovery.resumed, Recovery.resumed]
    split
    · exact .inr rfl
    · exact .inl rfl
  · rw [hsame]
    exact .inl rfl

theorem Ready.panic (h : w.Ready id) (ec : ErrorCode) : (w.panic ec).Ready id := by
  refine ⟨?_, fun id' hid' => ?_⟩
  · obtain ⟨hrecovery, -, hinternal | hsame⟩ := panic_get (w := w) ec id
    · exact fun _ => .inl hinternal
    · have hblocked : Recovery.Blocked ((w.panic ec).commands.get id).recovery
          ((w.panic ec).commands.get id).command.state w.modules := by
        rw [hsame]
        exact h.blocked
      exact hblocked.proceeds (w.modules.proceeds_setLeds _)
  · rw [(panic_get ec id').1]
    exact h.others id' hid'

theorem Ready.resetAs (hquiet : ∀ id, ¬ (w.commands.get id).recovery.remembers)
    (param : UInt8) : (w.resetAs id param).Ready id := by
  have hget : ∀ id', ((w.resetAs id param).commands.get id').recovery =
      (w.commands.get id').recovery := by
    intro id'
    by_cases hid : id' = id
    · subst hid
      rw [get_resetAs_self]
    · rw [get_resetAs_of_ne _ hid]
  refine ⟨.of_not_remembers ?_, fun id' _ => ?_⟩
  · show ¬ ((World.resetAs w id param).commands.get id).recovery.remembers
    rw [hget]
    exact hquiet id
  · rw [hget]
    exact hquiet id'

theorem Ready.stepAs (h : w.Ready id) : (w.stepAs id).Ready id := by
  refine ⟨?_, fun id' hid' => ?_⟩
  · rw [runningAs_stepAs]
    exact h.blocked.step
  · rw [get_stepAs_of_ne _ hid']
    exact h.others id' hid'

theorem Ready.proceeds (h : w.Ready id) {m : Modules} (hm : w.modules.Proceeds m) :
    Ready id { w with modules := m } :=
  ⟨Recovery.Blocked.proceeds h.blocked hm, h.others⟩

theorem upholds_ready :
    Upholds Ready (fun _ => True) (fun _ _ => False) (fun _ => True) where
  goesOn h hm := h.proceeds hm.proceeds
  panic ec _ h := h.panic ec
  recast h hmodules hcommands := by
    refine ⟨?_, fun id' hid' => ?_⟩
    · rw [runningAs, hmodules, hcommands]
      exact h.blocked
    · rw [hcommands]
      exact h.others id' hid'
  start h hbefore hok _ _ _ hcommands _ := by
    refine Ready.resetAs (fun id => ?_) _
    rw [hcommands]
    exact h.not_remembers hok id
  write _ hallowed := hallowed.elim
  step {w} h _ :=
    w.stepCommand_of_stepAs (fun h hm => h.proceeds hm.proceeds) (fun ec _ h => h.panic ec) h.stepAs

end Ready

end World

/-- At power-on no command remembers anything. -/
theorem BootInput.recovery_world (b : BootInput) (id : CommandId) :
    (b.world.commands.get id).recovery = {} := by
  rw [world, World.processReset]
  cases id <;> (dsimp only; split) <;> rfl

theorem BootInput.ready_world (b : BootInput) (id : CommandId) : b.world.Ready id := by
  have hquiet : ∀ id, ¬ (b.world.commands.get id).recovery.remembers := by
    intro id
    rw [b.recovery_world]
    exact not_not_intro rfl
  exact ⟨.of_not_remembers (hquiet id), fun id' _ => hquiet id'⟩

theorem requests_of_all {reports : List LoopReport} {P : RequestMsg → Prop} [DecidablePred P]
    (h : ∀ r ∈ reports, r.request.all fun rq => P rq) :
    ∀ r ∈ reports, ∀ rq, r.request = some rq → P rq := by
  intro r hr rq hrq
  simpa [hrq] using h r hr

theorem noWrites_of_all {b : BootInput} {inputs : List LoopInput}
    (h : ∀ r ∈ b.reports inputs, r.request.all (·.code ≠ .write)) :
    ∀ r ∈ b.reports inputs, ∀ rq, r.request = some rq → rq.code ≠ .write :=
  requests_of_all h

end MmuFirmware
