import MmuFirmware.App.Completion
import MmuFirmware.Logic.Standstill

/-!
While a command waits for the user the idler and the selector are on hold, as long as no retry
leaves it waiting and no failure is lost.
-/
namespace MmuFirmware

namespace Modules

variable {m m' : Modules}

/-- Nothing beside the logic moves what is on hold. -/
theorem Held.goesOn (h : m.Held) (hm : m.GoesOn m') : m.HeldAs m' := by
  cases hm with
  | stepMovables findaPin =>
      have hidler : m.idler.step m.globals = m.idler := if_pos h.idler
      have hselector : ∀ finda homingValid,
          m.selector.step m.globals finda homingValid = m.selector :=
        fun _ _ => if_pos h.selector
      refine ⟨⟨?_, ?_⟩, ?_, ?_⟩
      · exact (congrArg Movable.onHold hidler).trans h.idler
      · exact (congrArg Movable.onHold (hselector _ _)).trans h.selector
      · exact congrArg Movable.state hidler
      · exact congrArg Movable.state (hselector _ _)
  | interrupt | stepInputs | killMotors | clearQueueFull | inputs | erase =>
      exact ⟨⟨h.idler, h.selector⟩, rfl, rfl⟩

theorem GoesOn.pulley_ne_homingFailed (hm : m.GoesOn m') (h : m.pulley.state ≠ .homingFailed) :
    m'.pulley.state ≠ .homingFailed := by
  cases hm with
  | stepMovables findaPin => exact Pulley.step_ne_homingFailed h
  | interrupt | stepInputs | killMotors | clearQueueFull | inputs | erase => exact h

end Modules

namespace Running

variable {δ : Type} {r : Running δ} {nested : Prop}

theorem Stands.goesOn (h : r.Stands nested) {m : Modules} (hm : r.modules.GoesOn m) :
    Stands nested { r with modules := m } := by
  refine h.congr rfl (hm.pulley_ne_homingFailed h.pulley) (fun hwaits => ?_)
    (fun hwaits hrem => ?_) fun hrem hstate => ?_
  · obtain ⟨hheld, hsound⟩ := h.waits hwaits
    exact (hheld.goesOn hm).standsStill hsound
  · obtain ⟨hfailed, hstate⟩ := h.stuck hwaits hrem
    exact ⟨hm.proceeds.failed .pulley hfailed, hstate⟩
  · exact ((h.failing hrem hstate).goesOn hm).held

/-- A command that is stopped does not wait any more, but the unload in it may. -/
theorem Stands.stopped {r' : Running δ} (h : r.Stands nested) (hrecovery : r'.recovery = r.recovery)
    (hstate : r'.command.state = .errInternal ∨ r'.command.state = r.command.state)
    (hresumed : r'.resumed = r.resumed ∨ r'.resumed = .errInternal)
    (hidler : r'.modules.idler = r.modules.idler)
    (hselector : r'.modules.selector = r.modules.selector)
    (hpulley : r'.modules.pulley = r.modules.pulley) : r'.Stands nested := by
  have hwaits : r'.AwaitsUser nested → r.AwaitsUser nested := by
    rintro (hwaits | hn)
    · refine .inl ((hresumed.resolve_right fun hstopped => ?_).symm.trans hwaits)
      exact absurd (hstopped.symm.trans hwaits) (by decide)
    · exact .inr hn
  have hholds (hheld : r.modules.Held) : r'.modules.Held :=
    ⟨(congrArg Movable.onHold hidler).trans hheld.idler,
      (congrArg Movable.onHold hselector).trans hheld.selector⟩
  refine ⟨fun hfailed => h.pulley (hpulley ▸ hfailed), fun hn => ?_, fun hw => ?_,
    fun hw hrem => ?_, fun hrem hwaiting => ?_⟩
  · rcases hresumed with heq | hstopped
    · exact (h.unloads hn).imp heq.trans heq.trans
    · exact .inr hstopped
  · obtain ⟨hheld, hsound⟩ := h.waits (hwaits hw)
    exact ⟨hholds hheld,
      hsound.congr (congrArg Movable.state hidler) (congrArg Movable.state hselector)⟩
  · rw [hrecovery] at hrem
    obtain ⟨hfailed, hhoming⟩ := h.stuck (hwaits hw) hrem
    refine ⟨?_, ?_⟩
    · have hfailed : Movable.failed r.modules.pulley := hfailed
      rwa [← hpulley] at hfailed
    · rcases hstate with hstate | hstate
      · rw [hstate]
        decide
      · rwa [hstate]
  · rw [hrecovery] at hrem
    rcases hstate with hstate | hstate
    · exact absurd (hstate.symm.trans hwaiting) (by decide)
    · exact hholds (h.failing hrem (hstate.symm.trans hwaiting))

end Running

namespace CommandId

/-- A command that neither waits for the user nor runs an unload that does. -/
structure Unwaiting (id : CommandId) (c : id.Object) : Prop where
  own : c.state ≠ .errWaitingForUser
  unload : ∀ unl ∈ id.nested c, unl.state ≠ .errWaitingForUser

variable {id : CommandId} {c : id.Object} {m : Modules}

theorem Unwaiting.reset (h : id.Unwaiting c) (hid : id ≠ .startUp) (param : UInt8) :
    id.Unwaiting (id.reset c param m).2.1 :=
  ⟨reset_ne_waiting hid h.own param,
    reset_preserves UnloadFilament.restarts_ne_waiting h.unload param⟩

theorem unwaiting_of_handingOver (h : id.handingOver c = true) : id.Unwaiting c := by
  cases id with
  | cutFilament | ejectFilament | toolChange =>
      simp only [handingOver, Bool.and_eq_true, beq_iff_eq] at h
      refine ⟨h.1 ▸ (by decide), ?_⟩
      rintro _ ⟨⟩
      exact h.2 ▸ (by decide)
  | startUp | noCommand | home | moveSelector | setMode | loadFilament | unloadFilament => cases h

end CommandId

theorem Running.stands_of_unwaiting {id : CommandId} {r : Running id.Data}
    (hrem : ¬ r.recovery.remembers) (h : id.Unwaiting r.command)
    (hpulley : r.modules.pulley.state ≠ .homingFailed) : r.Stands (id.NestedWaits r.command) := by
  have hidle : ¬ r.AwaitsUser (id.NestedWaits r.command) := by
    rintro (hwaits | hn)
    · exact h.own ((resumed_of_not_remembers hrem).symm.trans hwaits)
    · exact CommandId.not_nestedWaits h.unload hn
  exact ⟨hpulley, fun hn => absurd (.inr hn) hidle, fun hwaits => absurd hwaits hidle,
    fun hwaits => absurd hwaits hidle, fun hrem' => absurd hrem' hrem⟩

namespace World

/-- The command in charge waits only with the movables on hold. The others do not wait. -/
structure StandsStill (id : CommandId) (w : World) : Prop where
  ready : w.Ready id
  tools : ∀ id' : CommandId, id'.KeepsTool (w.commands.get id').command
  pulley : w.modules.pulley.state ≠ .homingFailed
  inCharge : id ≠ .startUp → (w.runningAs id).Stands (id.NestedWaits (w.commands.get id).command)
  others : ∀ id', id' ≠ id → id'.Unwaiting (w.commands.get id').command

variable {w : World} {id : CommandId} {param : UInt8}

/-- A command that is shown as finished does not wait. -/
theorem StandsStill.unwaiting (h : w.StandsStill w.currentCommand) (hok : w.shownState = .ok)
    (id : CommandId) : id.Unwaiting (w.commands.get id).command := by
  by_cases hid : id = w.currentCommand
  · subst hid
    rcases (CommandId.shownState_eq_ok _ _).mp hok with hstate | hover
    · have hstate : (w.commands.get w.currentCommand).command.state = .ok := hstate
      refine ⟨hstate ▸ (by decide), ?_⟩
      by_cases hstart : w.currentCommand = .startUp
      · rw [hstart]
        exact fun _ hunl => absurd hunl (Option.not_mem_none _)
      · apply CommandId.ne_waiting_of_not_nestedWaits
        intro hn
        have hresumed : (w.runningAs w.currentCommand).resumed = .ok :=
          (Running.resumed_of_not_remembers (h.ready.not_remembers hok _)).trans hstate
        rcases (h.inCharge hstart).unloads hn with hunloads | hstopped
        · exact absurd (hresumed.symm.trans hunloads) (by decide)
        · exact absurd (hresumed.symm.trans hstopped) (by decide)
    · exact CommandId.unwaiting_of_handingOver hover
  · exact h.others id hid

theorem StandsStill.goesOn (h : w.StandsStill id) {m : Modules} (hm : w.modules.GoesOn m) :
    StandsStill id { w with modules := m } :=
  ⟨h.ready.proceeds hm.proceeds, h.tools, hm.pulley_ne_homingFailed h.pulley,
    fun hid => (h.inCharge hid).goesOn hm, h.others⟩

theorem StandsStill.panic (h : w.StandsStill id) (ec : ErrorCode) :
    (w.panic ec).StandsStill id := by
  refine ⟨h.ready.panic ec, fun id' => ?_, h.pulley, fun hid => ?_, fun id' hid' => ?_⟩
  · exact (h.tools id').congr (panic_get ec id').2.1
  · obtain ⟨hrecovery, hdata, hstate⟩ := panic_get (w := w) ec id
    rw [propext (CommandId.NestedWaits.congr hdata)]
    refine (h.inCharge hid).stopped hrecovery (hstate.imp_right fun hsame => ?_)
      (panic_resumed ec id) rfl rfl rfl
    exact congrArg (fun t : TopLevel id.Data => t.command.state) hsame
  · obtain ⟨-, hdata, hinternal | hsame⟩ := panic_get (w := w) ec id'
    · refine ⟨hinternal ▸ (by decide), ?_⟩
      exact CommandId.nested_of_data (h.others id' hid').unload hdata
    · rw [hsame]
      exact h.others id' hid'

theorem StandsStill.resetAs (hquiet : ∀ id, ¬ (w.commands.get id).recovery.remembers)
    (htools : ∀ id' : CommandId, id'.KeepsTool (w.commands.get id').command)
    (hpulley : w.modules.pulley.state ≠ .homingFailed)
    (hidle : ∀ id : CommandId, id.Unwaiting (w.commands.get id).command) :
    (w.resetAs id param).StandsStill id := by
  have hpulley' : (w.resetAs id param).modules.pulley.state ≠ .homingFailed :=
    id.holds_reset (D := Modules.pulleySound) hpulley _ (by cases id <;> trivial)
  refine ⟨Ready.resetAs hquiet param, fun id' => ?_, hpulley', fun hid => ?_, fun id' hid' => ?_⟩
  · by_cases hid : id' = id
    · subst hid
      rw [get_resetAs_self]
      exact CommandId.keepsTool_reset (htools id') param
    · rw [get_resetAs_of_ne _ hid]
      exact htools id'
  · have hrecovery : ((w.resetAs id param).commands.get id).recovery =
        (w.commands.get id).recovery := by
      rw [get_resetAs_self]
    have hunwaiting : id.Unwaiting ((w.resetAs id param).commands.get id).command := by
      rw [get_resetAs_self]
      exact (hidle id).reset hid param
    refine @Running.stands_of_unwaiting id ((w.resetAs id param).runningAs id) ?_ hunwaiting
      hpulley'
    rw [runningAs, hrecovery]
    exact hquiet id
  · rw [get_resetAs_of_ne _ hid']
    exact hidle id'

theorem StandsStill.stepAs (h : w.StandsStill w.currentCommand)
    (hleaves : w.currentCommand ≠ .startUp → ¬ (w.runningAs w.currentCommand).leavesHold) :
    (w.stepAs w.currentCommand).StandsStill w.currentCommand := by
  have hcommand : ((w.stepAs w.currentCommand).commands.get w.currentCommand).command =
      ((w.runningAs w.currentCommand).step w.currentCommand.stepInner).2.command := by
    rw [← runningAs_stepAs]
    rfl
  refine ⟨h.ready.stepAs, fun id' => ?_, ?_, fun hid => ?_, fun id' hid' => ?_⟩
  · by_cases hid : id' = w.currentCommand
    · subst hid
      rw [hcommand]
      exact Running.keepsTool_step (h.tools w.currentCommand)
    · rw [get_stepAs_of_ne _ hid]
      exact h.tools id'
  · exact Running.holds_step (D := Modules.pulleySound) h.pulley fun _ _ => by
      cases w.currentCommand <;> simp [CommandId.StepsWithin, Modules.pulleySound]
  · rw [runningAs_stepAs, hcommand]
    exact Running.stands_step hid (h.inCharge hid) h.ready.blocked (h.tools w.currentCommand)
      (hleaves hid)
  · rw [get_stepAs_of_ne _ hid']
    exact h.others id' hid'

theorem upholds_standsStill :
    Upholds StandsStill (fun _ => True) (fun _ _ => False)
      (fun w => w.currentCommand ≠ .startUp → ¬ (w.runningAs w.currentCommand).leavesHold) where
  goesOn h hm := h.goesOn hm
  panic ec _ h := h.panic ec
  recast {id w w'} h hmodules hcommands := by
    refine ⟨upholds_ready.recast h.ready hmodules hcommands, fun id' => ?_, ?_, fun hid => ?_,
      fun id' hid' => ?_⟩
    · rw [hcommands]
      exact h.tools id'
    · rw [hmodules]
      exact h.pulley
    · rw [runningAs, hmodules, hcommands]
      exact h.inCharge hid
    · rw [hcommands]
      exact h.others id' hid'
  start {w w' s} h hbefore hok _ _ hmodules hcommands _ := by
    obtain ⟨userInput, lastCommandProcessedMs, hmodules⟩ := hmodules
    refine StandsStill.resetAs (fun id => ?_) (fun id => ?_) ?_ fun id => ?_
    · rw [hcommands]
      exact h.ready.not_remembers hok id
    · rw [hcommands]
      exact h.tools id
    · rw [hmodules]
      exact h.pulley
    · rw [hcommands]
      exact h.unwaiting hok id
  write _ hallowed := hallowed.elim
  step {w} h hleaves :=
    w.stepCommand_of_stepAs (fun h hm => h.goesOn hm) (fun ec _ h => h.panic ec) (h.stepAs hleaves)

end World

namespace BootInput

variable (b : BootInput)

/-- The pulley is not touched before the main loop. -/
theorem pulley_startUp : b.startUp.2.pulley.state ≠ .homingFailed := by
  have hmodules : b.modules.pulley.state ≠ .homingFailed :=
    (by decide : MovableState.ready ≠ .homingFailed)
  rw [startUp]
  dsimp only
  split
  · exact hmodules
  · have hreset : (StartUp.reset { data := () } b.modules).2.2.pulley.state ≠ .homingFailed :=
      StartUp.holds_reset (D := Modules.pulleySound) hmodules trivial _
    split
    · exact hreset
    · exact hreset

theorem standsStill_world : b.world.StandsStill b.world.currentCommand := by
  have hfresh : ∀ id : CommandId, id ≠ .startUp → id.Unwaiting
      (({ startUp := { command := b.startUp.1 } } : Commands).get id).command := by
    intro id hid
    refine ⟨?_, ?_⟩
    · cases id with
      | startUp => exact absurd rfl hid
      | noCommand | cutFilament | ejectFilament | home | loadFilament | moveSelector | setMode
      | toolChange | unloadFilament => exact (by decide : ProgressCode.ok ≠ .errWaitingForUser)
    · cases id with
      | cutFilament | ejectFilament | toolChange =>
          rintro _ ⟨⟩
          exact (by decide : ProgressCode.ok ≠ .errWaitingForUser)
      | startUp | noCommand | home | loadFilament | moveSelector | setMode | unloadFilament =>
          exact fun _ hunl => absurd hunl (Option.not_mem_none _)
  have htools : ∀ id : CommandId, id.KeepsTool
      (({ startUp := { command := b.startUp.1 } } : Commands).get id).command := by
    intro id
    cases id with
    | cutFilament => exact (by decide : (0 : UInt8) < Config.toolCount)
    | startUp | noCommand | ejectFilament | home | loadFilament | moveSelector | setMode
    | toolChange | unloadFilament => trivial
  have hready := b.ready_world
  rw [world, World.processReset] at hready ⊢
  dsimp only at hready ⊢
  split
  all_goals
    exact ⟨by simpa [*] using hready _, htools, b.pulley_startUp, fun hid => absurd rfl hid, hfresh⟩

end BootInput

namespace World

/-- While the command in charge waits for the user, by itself or in its nested unload, the idler
and the selector are on hold. -/
def WaitsOnHold (w : World) : Prop :=
  w.currentCommand ≠ .startUp → w.shownState = .errWaitingForUser → w.modules.Held

instance (w : World) : Decidable w.WaitsOnHold := inferInstanceAs (Decidable (_ → _ → _))

/-- A command steps so that it waits without the hold. -/
def leavesHold (w : World) : Prop :=
  w.currentCommand ≠ .startUp ∧ (w.runningAs w.currentCommand).leavesHold

instance (w : World) : Decidable w.leavesHold := inferInstanceAs (Decidable (_ ∧ _))

variable {w : World}

theorem StandsStill.waitsOnHold (h : w.StandsStill w.currentCommand) : w.WaitsOnHold := by
  intro hid hwaits
  obtain ⟨-, -, hwaited, -, hfailing⟩ := h.inCharge hid
  rcases CommandId.waits_of_shownState hwaits with hstate | hn
  · by_cases hrem : (w.runningAs w.currentCommand).recovery.remembers
    · exact hfailing hrem hstate
    · exact (hwaited (.inl ((Running.resumed_of_not_remembers hrem).trans hstate))).1
  · exact (hwaited (.inr hn)).1

end World

/-- In every run without register writes in which no retry leaves the command waiting and no
failure is lost, the idler and the selector are on hold whenever the command in charge waits. -/
theorem waits_on_hold (b : BootInput) (inputs : List LoopInput)
    (hwrites : ∀ r ∈ b.reports inputs, ∀ rq, r.request = some rq → rq.code ≠ .write)
    (hleaves : ∀ r ∈ b.reports inputs, ¬ r.stepping.leavesHold) :
    (b.run inputs).WaitsOnHold := by
  refine World.StandsStill.waitsOnHold ?_
  exact World.upholds_standsStill.run b.standsStill_world inputs fun r hr =>
    ⟨fun _ _ => trivial, hwrites r hr, fun hid hleaving => hleaves r hr ⟨hid, hleaving⟩⟩

/-- An unload in vain: the filament does not leave the filament sensor. -/
def unloadUntilWaiting : List LoopInput :=
  [(idleInput true).withRequest .filamentSensor 1, (idleInput true).withRequest .unload 0,
    idlerStalls true, idlerStalls true, allMovesDone true, allMovesDone true, allMovesDone true,
    allMovesDone true, allMovesDone true]

theorem waits_on_hold_unload :
    (loadedBoot.run unloadUntilWaiting).shownState = .errWaitingForUser ∧
      (loadedBoot.run unloadUntilWaiting).modules.Held := by
  have hwaits : (loadedBoot.run unloadUntilWaiting).currentCommand ≠ .startUp ∧
      (loadedBoot.run unloadUntilWaiting).shownState = .errWaitingForUser := by
    decide +kernel
  refine ⟨hwaits.2, waits_on_hold _ _ ?_ ?_ hwaits.1 hwaits.2⟩
  · decide +kernel
  · decide +kernel

/-- Asked to try again with the filament still in the filament sensor but not in FINDA, the unload
goes on waiting, and the hold is gone. -/
theorem retry_leaves_hold :
    ¬ ∀ (b : BootInput) (inputs : List LoopInput),
      (∀ r ∈ b.reports inputs, ∀ rq, r.request = some rq → rq.code ≠ .write) →
        (b.run inputs).WaitsOnHold := by
  intro h
  have hwaits := h loadedBoot (unloadUntilWaiting ++
    [findaSettles false, findaSettles false, (idleInput false).withRequest .button 1])
  revert hwaits
  decide +kernel

end MmuFirmware
