import MmuFirmware.App.Readiness
import MmuFirmware.Logic.Completion

/-!
What a tool change, a load or an unload has achieved when it finishes. However often it is
stopped by a failed module or tried again by the user, it keeps to the slot it was started
for. A tool change may be replaced while it hands over from its unload and become current
again by a start that is refused; it then goes on with the slot it remembers.
-/
namespace MmuFirmware

namespace Running

variable {id : CommandId} {r r' : Running id.Data} {slot : UInt8}

/-- The command has not finished and is still about its slot, unless a panic has stopped it
for good. -/
structure OnItsWay (slot : UInt8) (r : Running id.Data) : Prop where
  unfinished : r.resumed ≠ .ok
  follows : r.resumed = .errInternal ∨ id.Follows slot r.goesOnAs r.modules

theorem OnItsWay.of_errInternal (h : r.resumed = .errInternal) : r.OnItsWay slot := by
  refine ⟨?_, .inl h⟩
  rw [h]
  decide

theorem OnItsWay.carries (h : r.OnItsWay slot) (hcarries : r.Carries r') :
    r'.OnItsWay slot := by
  rcases hcarries.resumed with heq | ⟨hadrift, hadrift'⟩
  · refine ⟨heq ▸ h.unfinished, ?_⟩
    rcases h.follows with hinternal | hfollows
    · exact .inl (heq.trans hinternal)
    · exact .inr (hfollows.congr heq hcarries.data hcarries.modules)
  · refine ⟨?_, ?_⟩
    · rcases hadrift' with heq | heq | heq <;> rw [heq] <;> decide
    · rcases h.follows with hinternal | hfollows
      · rw [hinternal] at hadrift
        exact absurd hadrift (by simp [Adrift])
      · exact .inr (hfollows.adrift hadrift hadrift' hcarries.data hcarries.modules)

/-- One step: the command goes on, or it has reached what it was started for. -/
theorem OnItsWay.step (h : r.OnItsWay slot) (hblocked : r.Blocked) :
    ((r.step id.stepInner).2.command.state ≠ .ok → (r.step id.stepInner).2.OnItsWay slot) ∧
      ((r.step id.stepInner).2.command.state = .ok →
        id.Done slot (r.step id.stepInner).2.modules) := by
  have hway := h.carries carries_waitForModules
  obtain ⟨hstill, hquiet⟩ := hblocked.waitForModules
  rw [Running.step]
  generalize r.waitForModulesErrorRecovery = w at hway hstill hquiet ⊢
  dsimp only
  split
  · refine ⟨fun _ => hway, fun hok => ?_⟩
    have hrem : ¬ w.2.recovery.remembers := by
      apply Recovery.Blocked.not_remembers hstill
      all_goals
        rw [hok]
        decide
    exact absurd ((resumed_of_not_remembers hrem).trans hok) hway.unfinished
  · next hgo =>
      rw [not_or, Bool.not_eq_true] at hgo
      have hrem := (hquiet hgo.1).resolve_right hgo.2
      have hresumed := resumed_of_not_remembers hrem
      have hfollows : id.Follows slot w.2.command w.2.modules := by
        refine (hway.follows.resolve_left ?_).congr hresumed.symm rfl (.refl _)
        rw [hresumed]
        exact hgo.2
      obtain ⟨hnext, hdone⟩ := hfollows.stepInner fun hok =>
        hway.unfinished (hresumed.trans hok)
      refine ⟨fun hbusy => ⟨?_, .inr ?_⟩, hdone⟩
      · rw [resumed_of_not_remembers (by exact hrem)]
        exact hbusy
      · exact hnext.congr (resumed_of_not_remembers (by exact hrem)) rfl (.refl _)

/-- What another command may replace without putting an end to it: a command that hands over,
or one that has been stopped for good. -/
def Interruptible (r : Running id.Data) : Prop :=
  r.resumed = .errInternal ∨ id.handingOver r.command

/-- While it hands over, the command depends on nothing but its data. -/
theorem OnItsWay.replaced (h : r.OnItsWay slot) (hid : id.bringsFilament)
    (hrem : ¬ r.recovery.remembers) (hinterruptible : r.Interruptible)
    (hrecovery : r'.recovery = r.recovery) (hstate : r'.command.state = r.command.state)
    (hdata : id = .toolChange → r'.command.data = r.command.data) :
    r'.OnItsWay slot := by
  have hresumed : r'.resumed = r.resumed := by rw [resumed, resumed, hrecovery, hstate]
  refine ⟨hresumed ▸ h.unfinished, ?_⟩
  rcases hinterruptible with hinternal | hover
  · exact .inl (hresumed.trans hinternal)
  · have hunloading := World.unloading_of_handingOver hover
    have hgoes : r'.resumed = .unloadingFilament :=
      (hresumed.trans (resumed_of_not_remembers hrem)).trans hunloading
    have hfollows := h.follows.resolve_left fun hinternal => by
      rw [← hresumed, hgoes] at hinternal
      cases hinternal
    cases id with
    | toolChange =>
        refine .inr ⟨?_, fun hne => absurd hgoes hne, fun hfeeding => ?_⟩
        · show r'.command.data.plannedSlot = slot
          rw [hdata rfl]
          exact hfollows.planned
        · exact absurd (hgoes.symm.trans hfeeding) (by decide)
    | startUp | noCommand | cutFilament | ejectFilament | home | loadFilament | moveSelector
    | setMode | unloadFilament => simp_all [CommandId.handingOver, CommandId.bringsFilament]

end Running

namespace World

/-- Some command is in charge; the one that is followed is on its way to its slot, and where
it is not in charge it can be replaced. -/
structure Pursues (id : CommandId) (slot : UInt8) (inCharge : CommandId) (w : World) : Prop where
  ready : w.Ready inCharge
  onItsWay : (w.runningAs id).OnItsWay slot
  replaced : inCharge ≠ id → (w.runningAs id).Interruptible

variable {w : World} {id inCharge : CommandId} {slot : UInt8}

theorem Pursues.proceeds (h : w.Pursues id slot inCharge) {m : Modules}
    (hm : w.modules.Proceeds m) : Pursues id slot inCharge { w with modules := m } :=
  ⟨h.ready.proceeds hm, h.onItsWay.carries ⟨rfl, .inl rfl, hm.toKeeps⟩, h.replaced⟩

theorem Pursues.recast (h : w.Pursues id slot inCharge) {w' : World}
    (hmodules : w'.modules = w.modules) (hcommands : w'.commands = w.commands) :
    w'.Pursues id slot inCharge := by
  have hrunning : w'.runningAs id = w.runningAs id := by
    rw [runningAs, runningAs, hmodules, hcommands]
  refine ⟨upholds_ready.recast h.ready hmodules hcommands, ?_, ?_⟩
  · rw [hrunning]
    exact h.onItsWay
  · rw [hrunning]
    exact h.replaced

theorem Pursues.panic (h : w.Pursues id slot inCharge) (ec : ErrorCode) :
    (w.panic ec).Pursues id slot inCharge := by
  obtain ⟨hrecovery, hdata, hstate⟩ := panic_get (w := w) ec id
  refine ⟨h.ready.panic ec, ?_, fun hother => ?_⟩
  · rcases panic_resumed (w := w) ec id with heq | hinternal
    · exact h.onItsWay.carries ⟨hdata, .inl heq, (w.modules.proceeds_setLeds _).toKeeps⟩
    · exact .of_errInternal hinternal
  · rcases hstate with hinternal | hsame
    · have hrem : ¬ ((w.panic ec).runningAs id).recovery.remembers := by
        rw [runningAs]
        dsimp only
        rw [hrecovery]
        exact h.ready.others id hother.symm
      exact .inl ((Running.resumed_of_not_remembers hrem).trans hinternal)
    · have hreplaced := h.replaced hother
      rw [Running.Interruptible, Running.resumed, runningAs] at hreplaced ⊢
      dsimp only at hreplaced ⊢
      rwa [hsame]

/-- What is followed and shown as finished hands over. -/
theorem Pursues.handingOver (h : w.Pursues w.currentCommand slot w.currentCommand)
    (hok : w.shownState = .ok) : w.handingOver = true := by
  refine ((CommandId.shownState_eq_ok _ _).mp hok).resolve_left fun hstate => ?_
  have hrem := h.ready.not_remembers hok w.currentCommand
  have hresumed := Running.resumed_of_not_remembers (r := w.runningAs w.currentCommand) hrem
  exact h.onItsWay.unfinished (hresumed.trans hstate)

/-- Where a command may be started, the one that is followed can be replaced. -/
theorem Pursues.interruptible (h : w.Pursues id slot w.currentCommand)
    (hok : w.shownState = .ok) : (w.runningAs id).Interruptible := by
  by_cases hid : w.currentCommand = id
  · subst hid
    exact .inr (h.handingOver hok)
  · exact h.replaced hid

theorem Pursues.resetAs (h : w.Pursues id slot inCharge) (hid : id.bringsFilament)
    (hquiet : ∀ id', ¬ (w.commands.get id').recovery.remembers)
    (hinterruptible : (w.runningAs id).Interruptible) {started : CommandId} {param : UInt8}
    (hrefused : started = id →
      (started.reset (w.commands.get started).command param w.modules).1 = false) :
    (w.resetAs started param).Pursues id slot started := by
  refine ⟨Ready.resetAs hquiet param, ?_, fun hother => ?_⟩
  · by_cases hsame : started = id
    · subst hsame
      obtain ⟨hstate, hdata⟩ := CommandId.reset_of_refused hid (hrefused rfl)
      refine h.onItsWay.replaced hid (hquiet started) hinterruptible ?_ ?_ ?_
      all_goals
        rw [runningAs]
        dsimp only
        rw [get_resetAs_self]
      · rfl
      · exact hstate
      · exact hdata
    · have hkept := w.get_resetAs_of_ne (Ne.symm hsame) param
      refine h.onItsWay.replaced hid (hquiet id) hinterruptible ?_ ?_ fun _ => ?_
      all_goals
        rw [runningAs]
        dsimp only
        rw [hkept]
        rfl
  · have hkept := w.get_resetAs_of_ne hother.symm param
    rw [Running.Interruptible, Running.resumed, runningAs] at hinterruptible ⊢
    dsimp only at hinterruptible ⊢
    rwa [hkept]

/-- A step of another command leaves the one that is followed where it is. -/
theorem Pursues.stepAs_other (h : w.Pursues id slot inCharge) (hid : id.bringsFilament)
    (hother : inCharge ≠ id) : (w.stepAs inCharge).Pursues id slot inCharge := by
  have hkept := w.get_stepAs_of_ne hother.symm
  have hreplaced := h.replaced hother
  refine ⟨h.ready.stepAs, ?_, fun _ => ?_⟩
  · refine h.onItsWay.replaced hid (h.ready.others id hother.symm) hreplaced ?_ ?_ fun _ => ?_
    all_goals
      rw [runningAs]
      dsimp only
      rw [hkept]
      rfl
  · rw [Running.Interruptible, Running.resumed, runningAs] at hreplaced ⊢
    dsimp only at hreplaced ⊢
    rwa [hkept]

/-- Its own step takes it further, or to its end. -/
theorem Pursues.stepAs_self (h : w.Pursues id slot id) :
    (((w.stepAs id).runningAs id).command.state ≠ .ok → (w.stepAs id).Pursues id slot id) ∧
      (((w.stepAs id).runningAs id).command.state = .ok →
        id.Done slot (w.stepAs id).modules) := by
  obtain ⟨hgoes, hdone⟩ := h.onItsWay.step h.ready.blocked
  rw [← runningAs_stepAs] at hgoes hdone
  exact ⟨fun hbusy => ⟨h.ready.stepAs, hgoes hbusy, fun hne => absurd rfl hne⟩, hdone⟩

/-- A panic that is due stops the command in charge. -/
theorem deliverPanic_cases (w : World) :
    w.deliverPanic = w ∨ w.deliverPanic.topLevelState = .errInternal := by
  rw [deliverPanic]
  split
  · refine .inr ?_
    have hcommands := Commands.get_set_self w.commands w.currentCommand
      { w.current with command := { w.current.command with state := .errInternal, error := .queueFull } }
    exact congrArg (fun t => t.command.state) hcommands
  · exact .inl rfl

theorem deliverPanic_recovery (id : CommandId) :
    (w.deliverPanic.commands.get id).recovery = (w.commands.get id).recovery := by
  rw [deliverPanic]
  split
  · exact (panic_get _ id).1
  · rfl

theorem Pursues.stepCommand (h : w.Pursues id slot w.currentCommand) (hid : id.bringsFilament)
    (hbusy : ¬ (w.currentCommand = id ∧ w.stepCommand.topLevelState = .ok)) :
    w.stepCommand.Pursues id slot w.currentCommand := by
  have hpursues : (w.stepAs w.currentCommand).Pursues id slot w.currentCommand →
      w.stepCommand.Pursues id slot w.currentCommand :=
    w.stepCommand_of_stepAs (fun h hm => h.proceeds hm.proceeds) fun ec _ h => h.panic ec
  by_cases hself : w.currentCommand = id
  · subst hself
    by_cases hok : ((w.stepAs w.currentCommand).runningAs w.currentCommand).command.state = .ok
    · -- it would have finished but for a panic
      have hready : (w.stepAs w.currentCommand).Ready w.currentCommand := h.ready.stepAs
      have hrem : ¬ ((w.stepAs w.currentCommand).commands.get w.currentCommand).recovery.remembers := by
        apply Recovery.Blocked.not_remembers hready.blocked
        all_goals
          rw [hok]
          decide
      have hinternal : w.stepCommand.topLevelState = .errInternal := by
        refine (deliverPanic_cases (w.stepAs w.currentCommand)).resolve_left fun hquiet => ?_
        rw [stepCommand_eq, hquiet] at hbusy
        exact hbusy ⟨rfl, hok⟩
      rw [← deliverPanic_recovery, ← stepCommand_eq] at hrem
      refine ⟨upholds_ready.step h.ready trivial, .of_errInternal ?_, fun hne => absurd rfl hne⟩
      rw [topLevelState, current, stepCommand_currentCommand] at hinternal
      exact (Running.resumed_of_not_remembers hrem).trans hinternal
    · exact hpursues (h.stepAs_self.1 hok)
  · exact hpursues (h.stepAs_other hid hself)

theorem Pursues.done (h : w.Pursues w.currentCommand slot w.currentCommand)
    (hok : w.stepCommand.topLevelState = .ok) :
    w.currentCommand.Done slot w.stepCommand.modules := by
  have hquiet : (w.stepAs w.currentCommand).deliverPanic = w.stepAs w.currentCommand := by
    refine (deliverPanic_cases (w.stepAs w.currentCommand)).resolve_right fun hinternal => ?_
    rw [← stepCommand_eq, hok] at hinternal
    cases hinternal
  rw [stepCommand_eq, hquiet] at hok ⊢
  exact h.stepAs_self.2 hok

/-- What is pursued lasts as long as the command is not started again and does not finish. -/
theorem upholds_pursues (hid : id.bringsFilament) :
    Upholds (Pursues id slot) (fun s => ¬ (s.command = id ∧ s.accepted)) (fun _ _ => False)
      (fun w => ¬ (w.currentCommand = id ∧ w.stepCommand.topLevelState = .ok)) where
  goesOn h hm := h.proceeds hm.proceeds
  panic ec _ h := h.panic ec
  recast h hmodules hcommands := h.recast hmodules hcommands
  start {w w' s} h hbefore hok _ hallowed hmodules hcommands haccepted := by
    obtain ⟨userInput, lastCommandProcessedMs, hmodules⟩ := hmodules
    have hinterruptible := h.interruptible hok
    have hquiet := h.ready.not_remembers hok
    have hproceeds : w.modules.Proceeds w'.modules := by
      rw [hmodules]
      exact Modules.proceeds_of_eq rfl rfl rfl rfl rfl rfl
    have hrecast : w'.Pursues id slot w.currentCommand :=
      (h.proceeds hproceeds).recast rfl hcommands
    rw [← hcommands] at hquiet
    refine hrecast.resetAs hid hquiet ?_ fun hstarted => ?_
    · rw [runningAs, hcommands]
      exact hinterruptible
    · rw [Bool.eq_false_iff]
      intro hagain
      exact hallowed ⟨hstarted, haccepted.trans hagain⟩
  write _ hallowed := hallowed.elim
  step h hbusy := h.stepCommand hid hbusy

theorem nothingToDo_congr (id : CommandId) (param : UInt8) (m : Modules) (userInput : UserInput)
    (lastCommandProcessedMs : UInt16) :
    id.nothingToDo param { m with userInput, lastCommandProcessedMs } = id.nothingToDo param m := by
  cases id <;> rfl

theorem targetSlot_congr (id : CommandId) (param : UInt8) (m : Modules) (userInput : UserInput)
    (lastCommandProcessedMs : UInt16) :
    id.targetSlot param { m with userInput, lastCommandProcessedMs } = id.targetSlot param m := by
  cases id <;> rfl

/-- A start that is accepted and has something to do. -/
theorem pursues_resetAs (hid : id.bringsFilament)
    (hquiet : ∀ id', ¬ (w.commands.get id').recovery.remembers) {param : UInt8}
    (haccepted : (w.resetCommand id param).1 = true)
    (hwork : id.nothingToDo param w.modules = false) :
    (w.resetAs id param).Pursues id (id.targetSlot param w.modules) id := by
  obtain ⟨hfollows, hbusy⟩ := CommandId.follows_reset hid haccepted hwork
  have hrem : ¬ ((w.resetAs id param).runningAs id).recovery.remembers := by
    rw [runningAs, get_resetAs_self]
    exact hquiet id
  have hcommand : ((w.resetAs id param).runningAs id).command =
      (id.reset (w.commands.get id).command param w.modules).2.1 := by
    rw [runningAs, get_resetAs_self]
  have hresumed := Running.resumed_of_not_remembers hrem
  rw [← hcommand] at hfollows hbusy
  refine ⟨Ready.resetAs hquiet param, ⟨?_, .inr ?_⟩, fun hne => absurd rfl hne⟩
  · rw [hresumed]
    exact hbusy
  · exact hfollows.congr hresumed rfl (.refl _)

section Established

variable {w' : World} {s : Start} (hready : w.Ready w.currentCommand)
  (hid : s.command.bringsFilament) (haccepted : s.accepted = true)
  (hwork : s.command.nothingToDo s.param s.before.modules = false)
include hready hid haccepted hwork

theorem ChecksManually.pursues (hchecks : w.ChecksManually w' (some s)) :
    w'.Pursues s.command (s.command.targetSlot s.param s.before.modules) w'.currentCommand := by
  cases hchecks with
  | @start userInput lastCommandProcessedMs w₁ hw₁ hok _ id _ param =>
      have hmodules : w₁.modules = { w.modules with userInput, lastCommandProcessedMs } := by
        rw [hw₁]
      have hquiet : ∀ id', ¬ (w₁.commands.get id').recovery.remembers := by
        rw [hw₁]
        exact hready.not_remembers hok
      have hstarted := pursues_resetAs hid hquiet haccepted (by
        rw [hmodules, nothingToDo_congr]
        exact hwork)
      rw [hmodules, targetSlot_congr] at hstarted
      exact (((upholds_pursues hid).robust _).deliverPanic hstarted).recast rfl rfl

theorem Serves.pursues {rq : RequestMsg} (hserves : w.Serves rq w' (some s)) :
    w'.Pursues s.command (s.command.targetSlot s.param s.before.modules) w'.currentCommand := by
  cases hserves with
  | @start hok _ id _ w₁ hw₁ =>
      have hmodules : w₁.modules = w.modules := by rw [hw₁]
      have hquiet : ∀ id', ¬ (w₁.commands.get id').recovery.remembers := by
        rw [hw₁]
        exact hready.not_remembers hok
      have hstarted := pursues_resetAs hid hquiet haccepted (by rwa [hmodules])
      rw [hmodules] at hstarted
      rw [resetCommand_currentCommand, show w₁.currentCommand = id by rw [hw₁]]
      exact ((upholds_pursues hid).robust _).deliverPanic hstarted

end Established

/-- After a load has been started nothing else is in the same iteration. -/
theorem Pursues.shownState_ne_ok (h : w.Pursues id slot w.currentCommand)
    (hid : w.currentCommand = id) (hload : id = .loadFilament) : w.shownState ≠ .ok := by
  subst hid
  intro hok
  have hover := h.handingOver hok
  rw [World.handingOver, current, hload] at hover
  cases hover

theorem ChecksManually.command_eq {w' : World} {s : Start} (hid : s.command.bringsFilament)
    (hchecks : w.ChecksManually w' (some s)) :
    w'.currentCommand = s.command ∧ s.command = .loadFilament := by
  cases hchecks with
  | start _ _ _ hcommand =>
      refine ⟨rfl, ?_⟩
      rcases hcommand with rfl | rfl
      · cases hid
      · rfl

/-- The iteration of the start itself. -/
theorem pursues_beforeCommand (hready : w.Ready w.currentCommand) {i : LoopInput} {s : Start}
    (hs : s ∈ (w.report i).starts) (hid : s.command.bringsFilament) (haccepted : s.accepted)
    (hwork : s.command.nothingToDo s.param s.before.modules = false)
    (hwrite : ∀ rq, (w.report i).request = some rq → rq.code ≠ .write) :
    (w.beforeCommand i).Pursues s.command (s.command.targetSlot s.param s.before.modules)
      (w.beforeCommand i).currentCommand := by
  have hupholds : Upholds (Pursues s.command (s.command.targetSlot s.param s.before.modules))
      _ _ _ :=
    upholds_pursues hid
  have hserve : (w.serve i).world.Pursues s.command
      (s.command.targetSlot s.param s.before.modules) (w.serve i).world.currentCommand := by
    have hserves := w.serve_serves i
    rw [LoopReport.starts, List.mem_append, Option.mem_toList, Option.mem_toList] at hs
    rcases hs with hmanual | hplanned
    · have hbefore : (w.beforeMessages i).Ready (w.beforeMessages i).currentCommand := by
        rw [beforeMessages_currentCommand]
        exact (upholds_ready.robust _).beforeMessages hready i
      have hchecks := w.startManually_checks i
      rw [show (w.startManually i).1 = some s from hmanual] at hchecks
      obtain ⟨hcommand, hload⟩ := hchecks.command_eq hid
      have hcommand : (w.readMessages i).2.currentCommand = s.command := hcommand
      have hread : (w.readMessages i).2.Pursues s.command
          (s.command.targetSlot s.param s.before.modules) (w.readMessages i).2.currentCommand :=
        (hchecks.pursues hbefore hid haccepted hwork).recast rfl rfl
      refine hupholds.serve hread (fun s' hs' => ?_) hwrite
      rw [show (w.serve i).started = some s' from hs'] at hserves
      exact absurd hserves.before.2 (hread.shownState_ne_ok hcommand hload)
    · rw [show (w.serve i).started = some s from hplanned] at hserves
      exact hserves.pursues (upholds_ready.readMessages hready i fun _ _ => trivial) hid
        haccepted hwork
  exact (hupholds.robust _).interrupt hserve _

end World

/-- The step of the iteration takes the command to its OK state, or finds it there. -/
def LoopReport.Finishes (r : LoopReport) (id : CommandId) : Prop :=
  r.stepping.currentCommand = id ∧ r.stepping.stepCommand.topLevelState = .ok

instance (r : LoopReport) (id : CommandId) : Decidable (r.Finishes id) :=
  inferInstanceAs (Decidable (_ ∧ _))

theorem LoopReport.done_of_finishes {id : CommandId} {slot : UInt8} {r : LoopReport}
    (h : r.stepping.Pursues id slot r.stepping.currentCommand) (hlast : r.Finishes id) :
    id.Done slot r.stepping.stepCommand.modules := by
  obtain ⟨hid, hok⟩ := hlast
  subst hid
  exact h.done hok

/-- The start is made in the first iteration of `inputs`, the command finishes in the last. -/
theorem World.Ready.done {w : World} (hready : w.Ready w.currentCommand)
    {inputs : List LoopInput} {first last : LoopReport} {later earlier : List LoopReport}
    (hreports : w.reports inputs = first :: later) (hlater : first :: later = earlier ++ [last])
    (hwrites : ∀ r ∈ w.reports inputs, ∀ rq, r.request = some rq → rq.code ≠ .write)
    {s : Start} (hs : s ∈ first.starts) (hcommand : s.command.bringsFilament)
    (haccepted : s.accepted) (hwork : s.command.nothingToDo s.param s.before.modules = false)
    (hrestarts : ∀ r ∈ later, ∀ s' ∈ r.starts, ¬ (s'.command = s.command ∧ s'.accepted))
    (hfirst : ∀ r ∈ earlier, ¬ r.Finishes s.command) (hlast : last.Finishes s.command) :
    s.command.Done (s.command.targetSlot s.param s.before.modules)
      last.stepping.stepCommand.modules := by
  refine LoopReport.done_of_finishes ?_ hlast
  have hupholds : Upholds (Pursues s.command (s.command.targetSlot s.param s.before.modules))
      _ _ _ :=
    upholds_pursues hcommand
  induction inputs with
  | nil => exact absurd hreports (by simp [reports])
  | cons i inputs ih =>
      cases hreset : w.boardReset with
      | true =>
          rw [w.reports_of_boardReset hreset] at hreports hwrites
          exact ih hreports hwrites
      | false =>
          rw [w.reports_of_goes hreset] at hreports hwrites
          obtain ⟨hi, hrest⟩ := List.cons_eq_cons.mp hreports
          have hbefore := pursues_beforeCommand hready (i := i) (by rwa [hi]) hcommand haccepted
            hwork (hwrites _ (by simp))
          cases earlier with
          | nil =>
              have hlast : w.report i = last := hi.trans (List.cons_eq_cons.mp hlater).1
              rw [← hlast]
              exact hbefore
          | cons first' earlier =>
              obtain ⟨hfirst', hlater⟩ := List.cons_eq_cons.mp hlater
              have hstep := hfirst first' (by simp)
              rw [← hfirst', ← hi] at hstep
              refine hupholds.lastStepping (hupholds.loop_of_beforeCommand i hbefore hreset hstep)
                (hrest.trans hlater) ?_ fun r hr => hfirst r (List.mem_cons_of_mem _ hr)
              intro r hr
              have hr : r ∈ later := hlater.symm ▸ hr
              refine ⟨fun s' hs' => hrestarts r hr s' hs', hwrites r ?_⟩
              rw [← hrest] at hr
              exact List.mem_cons_of_mem _ hr

/-- In every run without register writes: when a tool change, a load or an unload that was
accepted with something to do first reaches its OK state, whatever happened in between, it has
done what it was started for. -/
theorem finished_command_is_done (b : BootInput) (before inputs : List LoopInput)
    (hwrites : ∀ r ∈ b.reports (before ++ inputs), ∀ rq, r.request = some rq → rq.code ≠ .write)
    (first last : LoopReport) (later earlier : List LoopReport)
    (hreports : (b.run before).reports inputs = first :: later)
    (hlater : first :: later = earlier ++ [last]) (s : Start) (hs : s ∈ first.starts)
    (hcommand : s.command.bringsFilament) (haccepted : s.accepted)
    (hwork : s.command.nothingToDo s.param s.before.modules = false)
    (hrestarts : ∀ r ∈ later, ∀ s' ∈ r.starts, ¬ (s'.command = s.command ∧ s'.accepted))
    (hfirst : ∀ r ∈ earlier, ¬ r.Finishes s.command) (hlast : last.Finishes s.command) :
    s.command.Done (s.command.targetSlot s.param s.before.modules)
      last.stepping.stepCommand.modules := by
  rw [BootInput.reports, World.reports_append] at hwrites
  refine World.Ready.done ?_ hreports hlater (fun r hr => hwrites r (List.mem_append_right _ hr)) hs
    hcommand haccepted hwork hrestarts hfirst hlast
  exact World.upholds_ready.run (b.ready_world _) before fun r hr =>
    ⟨fun _ _ => trivial, hwrites r (List.mem_append_left _ hr), trivial⟩

/-- Both axes home and park. -/
def untilParked : List LoopInput :=
  [idlerStalls false, idlerStalls false, idlerMoveDone, selectorStalls, selectorStalls,
    allMovesDone false]

def findaSettles (findaPin : Bool) : LoopInput :=
  { beforeModules := { elapsedMs := 200 }, findaPin }

/-- A load of slot 0: the filament is fed to FINDA and retracted twice, then the idler
disengages. -/
def loadReports : List LoopReport :=
  (({} : BootInput).run untilParked).reports
    [(idleInput false).withRequest .load 0, allMovesDone false, findaSettles true, findaSettles true,
      findaSettles false, findaSettles false, allMovesDone false, allMovesDone false, findaSettles true,
      findaSettles true, findaSettles false, findaSettles false, allMovesDone false, allMovesDone false,
      allMovesDone false]

theorem loadReports_ne_nil : loadReports ≠ [] := by decide +kernel

theorem finished_command_is_done_load :
    LoadFilament.Done 0
      (loadReports.getLast loadReports_ne_nil).stepping.stepCommand.modules :=
  finished_command_is_done {} untilParked _ (noWrites_of_all (by decide +kernel))
    (loadReports.head loadReports_ne_nil) (loadReports.getLast loadReports_ne_nil)
    loadReports.tail loadReports.dropLast (List.cons_head_tail _).symm
    ((List.cons_head_tail _).trans (List.dropLast_append_getLast _).symm)
    { before := (loadReports.head loadReports_ne_nil).serving, command := .loadFilament, param := 0
      accepted := true }
    (by decide +kernel) rfl rfl rfl (by decide +kernel) (by decide +kernel) (by decide +kernel)

end MmuFirmware
