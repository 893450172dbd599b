import MmuFirmware.App.Runs

/-!
One command at a time. A command is started only where `State()` shows the current one as
finished. For the commands that delegate to a nested unload this is also the case in one
iteration in the middle of their run: the unload has finished and its owner has not yet
noticed.
-/
namespace MmuFirmware

/-- The nested unload has reached its OK state, the command itself goes on. -/
def CommandId.handingOver : (id : CommandId) → id.Object → Bool
  | .cutFilament, c => c.state == .unloadingFilament && c.data.unl.state == .ok
  | .ejectFilament, c => c.state == .unloadingFilament && c.data.unl.state == .ok
  | .toolChange, c => c.state == .unloadingFilament && c.data.unl.state == .ok
  | .startUp, _ | .noCommand, _ | .home, _ | .loadFilament, _ | .moveSelector, _ | .setMode, _
  | .unloadFilament, _ => false

def World.handingOver (w : World) : Bool := w.currentCommand.handingOver w.current.command

theorem ToolChange.shownState_eq_ok {c : ToolChange} :
    c.shownState = .ok ↔
      c.state = .ok ∨ c.state = .unloadingFilament ∧ c.data.unl.state = .ok := by
  rw [ToolChange.shownState]
  split
  · next h => simp [h]
  · next h => split <;> simp [h]
  · next hunloading _ => simpa using fun h => absurd h hunloading

theorem CommandId.shownState_eq_ok (id : CommandId) (c : id.Object) :
    id.shownState c = .ok ↔ c.state = .ok ∨ id.handingOver c = true := by
  cases id with
  | toolChange => simpa [shownState, handingOver] using ToolChange.shownState_eq_ok
  | cutFilament =>
      simp only [shownState, CutFilament.shownState, handingOver]
      split <;> simp_all
  | ejectFilament =>
      simp only [shownState, EjectFilament.shownState, handingOver]
      split <;> simp_all
  | _ => simp [shownState, handingOver]

theorem CommandId.handingOver_ne_ok {id : CommandId} {c : id.Object}
    (h : id.handingOver c = true) : c.state ≠ .ok := by
  cases id <;> simp_all [handingOver]

namespace World

variable (w : World)

theorem topLevelState_eq_ok_iff (h : w.shownState = .ok) :
    w.topLevelState = .ok ↔ w.handingOver = false := by
  constructor
  · intro hok
    by_contra hover
    have hover : w.currentCommand.handingOver w.current.command = true := by
      simpa [World.handingOver] using hover
    exact CommandId.handingOver_ne_ok hover hok
  · intro hover
    exact ((CommandId.shownState_eq_ok _ _).mp h).resolve_right
      (by simpa [World.handingOver] using hover)

/-- Whatever starts a command sees the one it replaces shown as finished. -/
theorem start_shownState {i : LoopInput} {s : Start} (h : s ∈ (w.report i).starts) :
    s.before.shownState = .ok := by
  rw [LoopReport.starts, List.mem_append, Option.mem_toList, Option.mem_toList] at h
  rcases h with h | h
  · have hchecks := w.startManually_checks i
    rw [show (w.startManually i).1 = some s from h] at hchecks
    obtain ⟨heq, hok⟩ := hchecks.before
    rwa [heq]
  · have hserves := w.serve_serves i
    rw [show (w.serve i).started = some s from h] at hserves
    obtain ⟨heq, hok⟩ := hserves.before
    rwa [heq]

/-- The current command changes only by a start that is reported. -/
theorem loop_currentCommand (i : LoopInput) (h : (w.report i).starts = []) :
    (w.loop i).1.currentCommand = w.currentCommand := by
  simp only [LoopReport.starts, List.append_eq_nil_iff, Option.toList_eq_nil_iff] at h
  have hchecks := w.startManually_checks i
  rw [show (w.startManually i).1 = none from h.1] at hchecks
  have hserves := w.serve_serves i
  rw [show (w.serve i).started = none from h.2] at hserves
  have hserve : (w.serve i).world.currentCommand = w.currentCommand := by
    calc (w.serve i).world.currentCommand
        = (w.startManually i).2.currentCommand := hserves.currentCommand
      _ = (w.beforeMessages i).currentCommand := hchecks.currentCommand
      _ = w.currentCommand := w.beforeMessages_currentCommand i
  rw [loop]
  split
  · rfl
  · dsimp only
    split
    · exact hserve
    · exact (stepCommand_currentCommand _).trans hserve

end World

theorem BootInput.mem_reports {b : BootInput} {inputs : List LoopInput} {r : LoopReport}
    (h : r ∈ b.reports inputs) : ∃ w i, World.report w i = r := by
  rw [reports, World.reports, List.mem_filterMap] at h
  obtain ⟨o, ho, hr⟩ := h
  obtain ⟨pre, i, post, -, rfl⟩ := (Transducer.mem_trace_iff _ _ _ _).mp ho
  exact ⟨_, i, ((World.loop_snd_eq_some _).mp hr).2⟩

/-- In every run, whatever starts a command replaces one whose own state machine has
finished, except exactly where that one is handing over from its nested unload. -/
theorem start_replaces_finished_iff (b : BootInput) (inputs : List LoopInput)
    (r : LoopReport) (hr : r ∈ b.reports inputs) (s : Start) (hs : s ∈ r.starts) :
    s.before.topLevelState = .ok ↔ s.before.handingOver = false := by
  obtain ⟨w, i, rfl⟩ := BootInput.mem_reports hr
  exact s.before.topLevelState_eq_ok_iff (w.start_shownState hs)

section Handover

/-- Power-on with filament of slot 0 in the nozzle. -/
def loadedBoot : BootInput where
  storage := { PermanentStorage.erased with filamentLoaded := some 0 }
  findaSamples := [(0, true), (101, true)]

def LoopInput.withRequest (i : LoopInput) (code : RequestMsgCodes) (value : UInt8) : LoopInput :=
  { i with rx := encodeRequest (.init code value) }

def LoopInput.withWrite (i : LoopInput) (address : UInt8) (value : UInt16) : LoopInput :=
  { i with rx := encodeWriteRequest address value }

/-- An iteration in which nothing moves, and those in which the axes finish their moves or
stall. Iterations that would only step the motors are folded into one. -/
def idleInput (findaPin : Bool) : LoopInput :=
  { beforeModules := { elapsedMs := 10 }, findaPin }

def allMovesDone (findaPin : Bool) : LoopInput :=
  let all : AxisInput := { pulses := [(100000, false)] }
  { beforeModules := { elapsedMs := 1000, pulley := all, selector := all, idler := all }
    findaPin }

def idlerMoveDone : LoopInput :=
  { beforeModules := { elapsedMs := 1000, idler := { pulses := [(100000, false)] } } }

def idlerStalls (findaPin : Bool) : LoopInput :=
  { beforeModules :=
      { elapsedMs := 1000, idler := { pulses := [(2000, true), (1, true)] } }
    findaPin }

def selectorStalls : LoopInput :=
  { beforeModules :=
      { elapsedMs := 1000, selector := { pulses := [(14500, true), (1, true)] } } }

/-- Eject the filament: the idler homes and engages, FINDA switches off, the filament is
retracted, the idler disengages and the selector homes; then the nested unload is done. -/
def ejectUntilUnloaded : List LoopInput :=
  [(idleInput true).withRequest .eject 0, idlerStalls true, idlerStalls true, allMovesDone true,
    allMovesDone true, idleInput false, idleInput false, idleInput false, allMovesDone false,
    idleInput false, idlerMoveDone, selectorStalls, selectorStalls, allMovesDone false]

/-- A load request accepted in the very next iteration replaces the unfinished eject. -/
theorem eject_replaced_by_load :
    ¬ ∀ r ∈ loadedBoot.reports (ejectUntilUnloaded ++ [(idleInput false).withRequest .load 0]),
      ∀ s ∈ r.starts, s.accepted → s.before.topLevelState = .ok := by
  decide +kernel

/-- The power-on command is replaced by the eject request where it has finished. -/
theorem start_replaces_finished_iff_eject :
    ∃ r ∈ loadedBoot.reports ejectUntilUnloaded, ∃ s ∈ r.starts, s.before.topLevelState = .ok := by
  have hstart : ∃ r ∈ loadedBoot.reports ejectUntilUnloaded,
      ∃ s ∈ r.starts, s.before.handingOver = false := by
    decide +kernel
  obtain ⟨r, hr, s, hs, hover⟩ := hstart
  exact ⟨r, hr, s, hs, (start_replaces_finished_iff _ _ r hr s hs).mpr hover⟩

end Handover

end MmuFirmware
