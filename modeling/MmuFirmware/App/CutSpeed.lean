import MmuFirmware.App.Completion
import MmuFirmware.App.Writes
import MmuFirmware.Logic.CutSpeed

/-!
A cut sets the speed of the selector back. It does in every run in which the selector is not
refused the cut and no module fails while it is slowed down.
-/
namespace MmuFirmware

theorem Modules.GoesOn.feedrates {m m' : Modules} (h : m.GoesOn m') :
    m'.feedrates = m.feedrates := by
  cases h <;> rfl

namespace World

open CutFilament (KeepsSpeed)

/-- A cut is the current command, and its step leaves the selector slowed down. -/
def leavesSlowed (w : World) : Bool :=
  w.currentCommand == .cutFilament && CutFilament.leavesSlowed (w.runningAs .cutFilament)

/-- The speeds are the given ones, as far as the cut has not slowed down the selector. -/
structure AtSpeed (speeds : Feedrates) (id : CommandId) (w : World) : Prop where
  ready : w.Ready id
  inCharge : id = .cutFilament → KeepsSpeed speeds (w.runningAs .cutFilament)
  aside : id ≠ .cutFilament →
    w.modules.feedrates = speeds ∧ w.commands.cutFilament.command.state ≠ .performingCut

variable {w : World} {id : CommandId} {speeds : Feedrates} {param : UInt8}

/-- Where no failure is remembered, a cut that does not cut is at the speeds. -/
theorem keepsSpeed_of_ne (hrem : ¬ w.commands.cutFilament.recovery.remembers)
    (hcutting : w.commands.cutFilament.command.state ≠ .performingCut)
    (hspeeds : w.modules.feedrates = speeds) : KeepsSpeed speeds (w.runningAs .cutFilament) := by
  refine ⟨CutFilament.atSpeed_of_ne ?_ hspeeds, fun _ => hspeeds⟩
  rw [Running.resumed_of_not_remembers (r := w.runningAs .cutFilament) hrem]
  exact hcutting

/-- Where a command is shown as finished the speeds are as given. -/
theorem AtSpeed.finished (h : w.AtSpeed speeds w.currentCommand) (hok : w.shownState = .ok) :
    w.modules.feedrates = speeds ∧ w.commands.cutFilament.command.state ≠ .performingCut := by
  by_cases hid : w.currentCommand = .cutFilament
  · have hrem := h.ready.not_remembers hok .cutFilament
    have hstate : w.commands.cutFilament.command.state = .ok ∨
        w.commands.cutFilament.command.state = .unloadingFilament := by
      rw [World.shownState, World.current, hid] at hok
      exact ((CommandId.shownState_eq_ok _ _).mp hok).imp_right unloading_of_handingOver
    have hspeeds := (h.inCharge hid).atSpeed.usual
    rw [Running.resumed_of_not_remembers (r := w.runningAs .cutFilament) hrem] at hspeeds
    have hstate' : (w.runningAs .cutFilament).command.state =
        w.commands.cutFilament.command.state := rfl
    rw [hstate'] at hspeeds
    rcases hstate with hstate | hstate
    · rw [hstate] at hspeeds ⊢
      exact ⟨hspeeds (by decide) (by decide), by decide⟩
    · rw [hstate] at hspeeds ⊢
      exact ⟨hspeeds (by decide) (by decide), by decide⟩
  · exact h.aside hid

theorem AtSpeed.goesOn (h : w.AtSpeed speeds id) {m : Modules} (hm : w.modules.GoesOn m) :
    AtSpeed speeds id { w with modules := m } := by
  refine ⟨h.ready.proceeds hm.proceeds, fun hid => ?_, fun hid => ?_⟩
  · have hkeeps := h.inCharge hid
    refine ⟨?_, fun hwaits => hm.feedrates.trans (hkeeps.waiting hwaits)⟩
    exact hkeeps.atSpeed.carries ⟨rfl, .inl rfl, hm.proceeds.toKeeps⟩ hm.feedrates
  · exact ⟨hm.feedrates.trans (h.aside hid).1, (h.aside hid).2⟩

theorem AtSpeed.panic (h : w.AtSpeed speeds id) (ec : ErrorCode) :
    (w.panic ec).AtSpeed speeds id := by
  obtain ⟨-, hdata, hstate⟩ := panic_get (w := w) ec .cutFilament
  have hspeeds : (w.panic ec).modules.feedrates = w.modules.feedrates := rfl
  refine ⟨h.ready.panic ec, fun hid => ?_, fun hid => ⟨(h.aside hid).1, ?_⟩⟩
  · have hkeeps := h.inCharge hid
    refine ⟨?_, fun hwaits => ?_⟩
    · have hdata' : ((w.panic ec).runningAs .cutFilament).command.data =
          (w.runningAs .cutFilament).command.data := hdata
      have hmodules : ((w.panic ec).runningAs .cutFilament).modules.feedrates =
          (w.runningAs .cutFilament).modules.feedrates := rfl
      rw [hdata', hmodules]
      rcases panic_resumed (w := w) ec .cutFilament with hsame | hinternal
      · rw [hsame]
        exact hkeeps.atSpeed
      · rw [hinternal]
        exact CutFilament.atSpeed_stopped hkeeps.atSpeed.either
    · rcases hstate with hinternal | hsame
      · have hwaits : ((w.panic ec).commands.get .cutFilament).command.state =
            .errWaitingForUser := hwaits
        exact absurd (hinternal.symm.trans hwaits) (by decide)
      · refine hkeeps.waiting ?_
        have hwaits : ((w.panic ec).commands.get .cutFilament).command.state =
            .errWaitingForUser := hwaits
        rw [hsame] at hwaits
        exact hwaits
  · show ((w.panic ec).commands.get .cutFilament).command.state ≠ .performingCut
    rcases hstate with hinternal | hsame
    · rw [hinternal]
      decide
    · rw [hsame]
      exact (h.aside hid).2

theorem AtSpeed.resetAs (hquiet : ∀ id, ¬ (w.commands.get id).recovery.remembers)
    (hspeeds : w.modules.feedrates = speeds)
    (hcutting : w.commands.cutFilament.command.state ≠ .performingCut) (param : UInt8) :
    (w.resetAs id param).AtSpeed speeds id := by
  have hmodules : (w.resetAs id param).modules.feedrates = speeds :=
    (id.feedrates_reset _ _ _).trans hspeeds
  refine ⟨Ready.resetAs hquiet param, fun hid => ?_, fun hid => ⟨hmodules, ?_⟩⟩
  · subst hid
    have hget := w.get_resetAs_self .cutFilament param
    refine keepsSpeed_of_ne ?_ ?_ hmodules
    · show ¬ ((w.resetAs .cutFilament param).commands.get .cutFilament).recovery.remembers
      rw [hget]
      exact hquiet .cutFilament
    · show ((w.resetAs .cutFilament param).commands.get .cutFilament).command.state ≠ _
      rw [hget]
      exact CutFilament.reset_ne_cutting hcutting param
  · show ((w.resetAs id param).commands.get .cutFilament).command.state ≠ _
    rw [get_resetAs_of_ne w (Ne.symm hid)]
    exact hcutting

theorem AtSpeed.stepAs (h : w.AtSpeed speeds w.currentCommand)
    (hslowed : speeds.selectorHoming = speeds.selector ∨ w.leavesSlowed = false) :
    (w.stepAs w.currentCommand).AtSpeed speeds w.currentCommand := by
  refine ⟨h.ready.stepAs, fun hid => ?_, fun hid => ⟨?_, ?_⟩⟩
  · rw [leavesSlowed, hid] at hslowed
    have hblocked := h.ready.blocked
    rw [hid] at hblocked ⊢
    rw [runningAs_stepAs]
    exact (h.inCharge hid).step hblocked (by simpa using hslowed)
  · refine Eq.trans ?_ (h.aside hid).1
    exact Running.feedrates_step hid _
  · show ((w.stepAs w.currentCommand).commands.get .cutFilament).command.state ≠ _
    rw [get_stepAs_of_ne w (Ne.symm hid)]
    exact (h.aside hid).2

theorem upholds_atSpeed (speeds : Feedrates) :
    Upholds (AtSpeed speeds) (fun _ => True) (fun _ _ => False)
      (fun w => speeds.selectorHoming = speeds.selector ∨ w.leavesSlowed = false) where
  goesOn h hm := h.goesOn hm
  panic ec _ h := h.panic ec
  recast h hmodules hcommands := by
    refine ⟨upholds_ready.recast h.ready hmodules hcommands, fun hid => ?_, fun hid => ?_⟩
    · rw [runningAs, hmodules, hcommands]
      exact h.inCharge hid
    · rw [hmodules, hcommands]
      exact h.aside hid
  start {w w' s} h _ hok _ _ hmodules hcommands _ := by
    obtain ⟨userInput, lastCommandProcessedMs, hmodules⟩ := hmodules
    obtain ⟨hspeeds, hcutting⟩ := h.finished hok
    refine AtSpeed.resetAs (fun id => ?_) ?_ ?_ _
    · rw [hcommands]
      exact h.ready.not_remembers hok id
    · rw [hmodules]
      exact hspeeds
    · rw [hcommands]
      exact hcutting
  write _ hallowed := hallowed.elim
  step {w} h hslowed :=
    w.stepCommand_of_stepAs (fun h hm => h.goesOn hm) (fun ec _ h => h.panic ec) (h.stepAs hslowed)

/-- The settings of the speeds matter to no command that remembers a failed module. -/
theorem upholds_ready_feedrates :
    Upholds Ready (fun _ => True) (fun _ rq => rq.value ∈ feedrateRegisters) (fun _ => True) where
  goesOn := upholds_ready.goesOn
  panic := upholds_ready.panic
  recast := upholds_ready.recast
  start := upholds_ready.start
  write {w rq} h hregister := by
    obtain ⟨g, hg, hslot, hloaded, -⟩ := writeRegister_feedrate hregister rq.value2 w.modules
    rw [hg]
    exact h.proceeds (Modules.proceeds_of_eq hslot hloaded rfl rfl rfl rfl)
  step := upholds_ready.step

/-- A cut is accepted at the speeds there are. -/
theorem Serves.atSpeed {w' : World} {s : Start} {rq : RequestMsg}
    (hready : w.Ready w.currentCommand) (hserves : w.Serves rq w' (some s))
    (hcut : s.command = .cutFilament) (haccepted : s.accepted) :
    w'.AtSpeed s.before.modules.feedrates w'.currentCommand := by
  cases hserves with
  | @start hok _ id _ w₁ hw₁ =>
      have hcut : id = .cutFilament := hcut
      subst hcut
      have hquiet : ∀ id, ¬ (w₁.commands.get id).recovery.remembers := by
        rw [hw₁]
        exact hready.not_remembers hok
      have hspeeds : w₁.modules.feedrates = w.modules.feedrates := by rw [hw₁]
      have hreset : (w₁.resetAs .cutFilament rq.value).AtSpeed w.modules.feedrates
          .cutFilament := by
        refine ⟨Ready.resetAs hquiet _, fun _ => ?_, fun hother => absurd rfl hother⟩
        refine keepsSpeed_of_ne ?_ ?_ ((CommandId.feedrates_reset _ _ _ _).trans hspeeds)
        · show ¬ ((w₁.resetAs .cutFilament rq.value).commands.get .cutFilament).recovery.remembers
          rw [get_resetAs_self]
          exact hquiet .cutFilament
        · show ((w₁.resetAs .cutFilament rq.value).commands.get .cutFilament).command.state ≠ _
          rw [get_resetAs_self]
          exact CutFilament.reset_ne_cutting_of_accepted haccepted
      rw [resetCommand_currentCommand, show w₁.currentCommand = .cutFilament by rw [hw₁]]
      exact ((upholds_atSpeed _).robust _).deliverPanic hreset

/-- No button starts a cut. -/
theorem ChecksManually.command_ne_cut {w' : World} {s : Start}
    (h : w.ChecksManually w' (some s)) : s.command ≠ .cutFilament := by
  cases h with
  | start _ _ _ hcommand =>
      rcases hcommand with rfl | rfl
      · exact (by decide : CommandId.moveSelector ≠ .cutFilament)
      · exact (by decide : CommandId.loadFilament ≠ .cutFilament)

theorem atSpeed_beforeCommand (hready : w.Ready w.currentCommand) {i : LoopInput} {s : Start}
    (hs : s ∈ (w.report i).starts) (hcut : s.command = .cutFilament) (haccepted : s.accepted) :
    (w.beforeCommand i).AtSpeed s.before.modules.feedrates (w.beforeCommand i).currentCommand := by
  have hserve : (w.serve i).world.AtSpeed s.before.modules.feedrates
      (w.serve i).world.currentCommand := by
    rw [LoopReport.starts, List.mem_append, Option.mem_toList, Option.mem_toList] at hs
    rcases hs with hmanual | hplanned
    · have hchecks := w.startManually_checks i
      rw [show (w.startManually i).1 = some s from hmanual] at hchecks
      exact absurd hcut hchecks.command_ne_cut
    · have hserves := w.serve_serves i
      rw [show (w.serve i).started = some s from hplanned] at hserves
      exact hserves.atSpeed (upholds_ready.readMessages hready i fun _ _ => trivial) hcut haccepted
  exact ((upholds_atSpeed _).robust _).interrupt hserve _

/-- From the iteration a cut is accepted in, the speeds are what they were then. -/
theorem Ready.atSpeed (hready : w.Ready w.currentCommand) {inputs : List LoopInput}
    (hwrites : ∀ r ∈ w.reports inputs, ∀ rq, r.request = some rq → rq.code ≠ .write)
    {first : LoopReport} {later : List LoopReport} (hreports : w.reports inputs = first :: later)
    {s : Start} (hs : s ∈ first.starts) (hcut : s.command = .cutFilament) (haccepted : s.accepted)
    (hspeeds : speeds = s.before.modules.feedrates)
    (hslowed : speeds.selectorHoming = speeds.selector ∨
      ∀ r ∈ first :: later, r.stepping.leavesSlowed = false) :
    ∀ r ∈ first :: later, r.stepping.AtSpeed speeds r.stepping.currentCommand := by
  have hupholds := upholds_atSpeed speeds
  have hsteps : ∀ r ∈ first :: later,
      speeds.selectorHoming = speeds.selector ∨ r.stepping.leavesSlowed = false :=
    fun r hr => hslowed.imp_right fun h => h r hr
  induction inputs generalizing w with
  | nil => exact absurd hreports (by simp [reports])
  | cons i inputs ih =>
      cases hreset : w.boardReset with
      | true =>
          rw [w.reports_of_boardReset hreset] at hreports hwrites
          exact ih hready hwrites hreports
      | false =>
          rw [w.reports_of_goes hreset] at hreports hwrites
          obtain ⟨hi, hrest⟩ := List.cons_eq_cons.mp hreports
          rw [← hi] at hs hsteps ⊢
          have hbefore := atSpeed_beforeCommand hready hs hcut haccepted
          rw [← hspeeds] at hbefore
          have hloop := hupholds.loop_of_beforeCommand i hbefore hreset
            (hsteps _ List.mem_cons_self)
          rw [← hrest] at hsteps ⊢
          have hallowed : ∀ r ∈ (w.loop i).1.reports inputs, (∀ s ∈ r.starts, True) ∧
              (∀ rq, r.request = some rq → rq.code = .write → False) ∧
              (speeds.selectorHoming = speeds.selector ∨ r.stepping.leavesSlowed = false) :=
            fun r hr => ⟨fun _ _ => trivial, hwrites r (List.mem_cons_of_mem _ hr),
              hsteps r (List.mem_cons_of_mem _ hr)⟩
          intro r hr
          rcases List.mem_cons.mp hr with rfl | hr
          · exact hbefore
          · obtain ⟨w', i', hw', rfl⟩ := hupholds.reports hloop inputs hallowed r hr
            obtain ⟨hstarts, hwrite, -⟩ := hallowed _ hr
            exact hupholds.beforeCommand hw' i' hstarts hwrite

/-- A cut that is finished, or waits for the user, has set the speed back. -/
theorem AtSpeed.restored (h : w.AtSpeed speeds w.currentCommand)
    (hcut : w.currentCommand = .cutFilament)
    (hstate : w.topLevelState = .ok ∨ w.shownState = .errWaitingForUser) :
    w.modules.feedrates = speeds := by
  have hkeeps := h.inCharge hcut
  have hblocked := h.ready.blocked
  rw [topLevelState, shownState, current] at hstate
  rw [hcut] at hblocked hstate
  have husual (hne : w.commands.cutFilament.command.state = .ok ∨
      w.commands.cutFilament.command.state = .unloadingFilament) : w.modules.feedrates = speeds := by
    have hrem : ¬ w.commands.cutFilament.recovery.remembers := by
      apply Recovery.Blocked.not_remembers hblocked
      all_goals
        show w.commands.cutFilament.command.state ≠ _
        rcases hne with hne | hne <;> rw [hne] <;> decide
    have hresumed := Running.resumed_of_not_remembers (r := w.runningAs .cutFilament) hrem
    have hresumed : (w.runningAs .cutFilament).resumed =
        w.commands.cutFilament.command.state := hresumed
    apply hkeeps.atSpeed.usual
    all_goals
      rw [hresumed]
      rcases hne with hne | hne <;> rw [hne] <;> decide
  rcases hstate with hok | hwaits
  · exact husual (.inl hok)
  · have hwaits : CutFilament.shownState w.commands.cutFilament.command = .errWaitingForUser :=
      hwaits
    rw [CutFilament.shownState] at hwaits
    split at hwaits
    · next hunloading => exact husual (.inr hunloading)
    · exact hkeeps.waiting hwaits

end World

/-- After the iteration a cut is finished, or waits for the user. -/
def LoopReport.CutRests (r : LoopReport) : Prop :=
  r.stepping.currentCommand = .cutFilament ∧
    (r.stepping.stepCommand.topLevelState = .ok ∨
      r.stepping.stepCommand.shownState = .errWaitingForUser)

instance (r : LoopReport) : Decidable r.CutRests := inferInstanceAs (Decidable (_ ∧ _))

/-- Whatever speeds have been set before, and without register writes since a cut was accepted:
whenever it is finished or waits for the user, the selector has the speed it had then, if no step
leaves the selector slowed down, or if it homes at the same speed. -/
theorem cut_restores_speed (b : BootInput) (before inputs : List LoopInput)
    (hsettings : ∀ r ∈ b.reports before, ∀ rq, r.request = some rq → rq.code = .write →
      rq.value ∈ feedrateRegisters)
    (hwrites : ∀ r ∈ (b.run before).reports inputs, ∀ rq, r.request = some rq → rq.code ≠ .write)
    (first : LoopReport) (later : List LoopReport)
    (hreports : (b.run before).reports inputs = first :: later) (s : Start)
    (hs : s ∈ first.starts) (hcut : s.command = .cutFilament) (haccepted : s.accepted)
    (hslowed : s.before.modules.globals.selectorHomingFeedrate =
        s.before.modules.globals.selectorFeedrate ∨
      ∀ r ∈ first :: later, r.stepping.leavesSlowed = false) :
    ∀ r ∈ first :: later, r.CutRests →
      r.stepping.stepCommand.modules.globals.selectorFeedrate =
        s.before.modules.globals.selectorFeedrate := by
  have hready : (b.run before).Ready (b.run before).currentCommand := by
    refine World.upholds_ready_feedrates.run (b.ready_world _) before fun r hr => ?_
    exact ⟨fun _ _ => trivial, hsettings r hr, trivial⟩
  intro r hr hrests
  have hstepping := hready.atSpeed hwrites hreports hs hcut haccepted rfl hslowed r hr
  have hstepped := (World.upholds_atSpeed s.before.modules.feedrates).step hstepping
    (hslowed.imp_right fun h => h r hr)
  rw [← r.stepping.stepCommand_currentCommand] at hstepped
  have hspeeds := hstepped.restored
    ((r.stepping.stepCommand_currentCommand).trans hrests.1) hrests.2
  exact congrArg Feedrates.selector hspeeds

/-- Slot 0 is fed to FINDA and retracted, the selector goes aside, and the filament is pushed out
below the blade. -/
def untilBlade : List LoopInput :=
  [(idleInput false).withRequest .cut 0, allMovesDone false, allMovesDone false, findaSettles true,
    findaSettles true, findaSettles false, findaSettles false, allMovesDone false,
    allMovesDone false, allMovesDone false, allMovesDone false]

/-- The selector is told to go faster, the axes home and park. -/
def fasterSelector : List LoopInput := (idleInput false).withWrite 0x12 60 :: untilParked

/-- The blade cuts, then the selector homes and returns. -/
def cutReports : List LoopReport :=
  (({} : BootInput).run fasterSelector).reports
    (untilBlade ++ [allMovesDone false, allMovesDone false, allMovesDone false, allMovesDone false,
      selectorStalls, selectorStalls, selectorStalls, allMovesDone false])

theorem cutReports_ne_nil : cutReports ≠ [] := by decide +kernel

theorem cut_restores_speed_60 :
    (cutReports.getLast cutReports_ne_nil).Finishes .cutFilament ∧
      (cutReports.getLast cutReports_ne_nil).stepping.stepCommand.modules.globals.selectorFeedrate =
        60 := by
  have hrests : (cutReports.getLast cutReports_ne_nil).CutRests := by decide +kernel
  have hfinishes : (cutReports.getLast cutReports_ne_nil).Finishes .cutFilament := by
    decide +kernel
  have hlast : cutReports.getLast cutReports_ne_nil ∈
      cutReports.head cutReports_ne_nil :: cutReports.tail := by
    rw [List.cons_head_tail]
    exact List.getLast_mem _
  have hspeed := cut_restores_speed {} fasterSelector _ (requests_of_all (by decide +kernel))
    (requests_of_all (by decide +kernel))
    (cutReports.head cutReports_ne_nil) cutReports.tail (List.cons_head_tail _).symm
    { before := (cutReports.head cutReports_ne_nil).serving, command := .cutFilament, param := 0
      accepted := true }
    (by decide +kernel) rfl rfl (.inr (by decide +kernel)) _ hlast hrests
  exact ⟨hfinishes, hspeed.trans (by decide +kernel)⟩

/-- FINDA triggers while the idler disengages, so that the selector does not cut. -/
def refusedReports : List LoopReport :=
  (({} : BootInput).run untilParked).reports
    (untilBlade ++ [findaSettles true, findaSettles true, allMovesDone true, allMovesDone true])

theorem refusedReports_ne_nil : refusedReports ≠ [] := by decide +kernel

theorem refused_cut_leaves_slowed :
    ¬ ∀ (b : BootInput) (before inputs : List LoopInput),
      (∀ r ∈ b.reports before, ∀ rq, r.request = some rq → rq.code = .write →
        rq.value ∈ feedrateRegisters) →
      (∀ r ∈ (b.run before).reports inputs, ∀ rq, r.request = some rq → rq.code ≠ .write) →
      ∀ (first : LoopReport) (later : List LoopReport),
        (b.run before).reports inputs = first :: later → ∀ s ∈ first.starts,
          s.command = .cutFilament → s.accepted → ∀ r ∈ first :: later, r.CutRests →
            r.stepping.stepCommand.modules.globals.selectorFeedrate =
              s.before.modules.globals.selectorFeedrate := by
  intro h
  have hlast : refusedReports.getLast refusedReports_ne_nil ∈
      refusedReports.head refusedReports_ne_nil :: refusedReports.tail := by
    rw [List.cons_head_tail]
    exact List.getLast_mem _
  have hspeed := h {} untilParked _ (requests_of_all (by decide +kernel))
    (requests_of_all (by decide +kernel))
    (refusedReports.head refusedReports_ne_nil) refusedReports.tail (List.cons_head_tail _).symm
    { before := (refusedReports.head refusedReports_ne_nil).serving, command := .cutFilament
      param := 0, accepted := true }
    (by decide +kernel) rfl rfl _ hlast (by decide +kernel)
  exact absurd hspeed (by decide +kernel)

end MmuFirmware
