import MmuFirmware.App.Histories
import MmuFirmware.App.Standstill
import MmuFirmware.Logic.Engagement

/-!
The pulley begins to drive a filament only with the idler ready and engaged on its slot, as long as
no motion of the idler is under way then and the slot was planned last. `Engaged()` alone, which is
what the automata wait for, tells neither.
-/
namespace MmuFirmware

open Transducer

namespace Modules

variable {m m' : Modules}

theorem settled_call (h : m.idler.Settled) (c : ModuleCall) : (m.call c).1.idler.Settled := by
  cases c with
  | idler c => exact Idler.settled_call h (m.globals, c)
  | selector | setFilamentLoaded | eraseEEPROM | others => exact h

theorem Reaches.settled {P : ModuleCall → Prop} (h : m.Reaches P m') (hm : m.idler.Settled) :
    m'.idler.Settled := by
  obtain ⟨calls, -, rfl⟩ := h
  exact (steps_guarantee Modules.call (·.idler.Settled) (fun _ _ => True) (fun _ _ => True)
    (fun m c h _ => ⟨settled_call h c, trivial⟩) m hm calls fun _ _ => trivial).1

theorem GoesOn.settled (hm : m.GoesOn m') (h : m.idler.Settled) : m'.idler.Settled := by
  cases hm with
  | stepMovables findaPin => exact Idler.settled_step m.globals h
  | interrupt | stepInputs | killMotors | clearQueueFull | inputs | erase =>
      exact h.congr rfl rfl rfl

theorem GoesOn.loosens (hm : m.GoesOn m') : m.Loosens m' := by
  cases hm with
  | stepMovables findaPin => exact loosens_of_changes (Idler.changes_step m.globals trivial)
  | interrupt | stepInputs | killMotors | clearQueueFull | inputs | erase => exact .refl m

/-- A write does not hold the idler. -/
theorem loosens_writeRegister (m : Modules) (address : UInt8) (value : UInt16) :
    m.Loosens (writeRegister address value m).2 := by
  have hloosens : Unadjusted m.Loosens :=
    ⟨fun h hidler _ _ _ _ _ hheld => h (hidler ▸ hheld), fun h _ => h, fun h _ => h⟩
  refine hloosens.writeRegister (.refl m) address value (fun _ => .refl m) (fun _ => .refl m)
    fun _ => ?_
  rw [moveIdlerTo]
  split
  · exact loosens_idlerDisengage m
  · exact loosens_idlerEngage m _

end Modules

/-- A command that is shown as finished has the idler released. -/
theorem CommandId.not_mayHold_of_shownState {id : CommandId} {c : id.Object}
    (h : id.shownState c = .ok) : ¬ id.MayHold c := by
  rcases (shownState_eq_ok id c).mp h with hok | hover
  · rintro (hstate | hstate | ⟨hstate, -⟩) <;> exact absurd (hok.symm.trans hstate) (by decide)
  · have hunloading := World.unloading_of_handingOver hover
    rintro (hstate | hstate | ⟨-, unl, hnested, hwaits⟩)
    · exact absurd (hunloading.symm.trans hstate) (by decide)
    · exact absurd (hunloading.symm.trans hstate) (by decide)
    · exact (unwaiting_of_handingOver hover).unload unl hnested hwaits

namespace World

/-- The idler is where it was planned to be once it is at rest, and is held only for the command in
charge. -/
structure Engages (id : CommandId) (w : World) : Prop where
  settled : w.modules.idler.Settled
  held : (w.runningAs id).HeldIdler

variable {w : World} {id : CommandId} {param : UInt8}

theorem Engages.goesOn (h : w.Engages id) {m : Modules} (hm : w.modules.GoesOn m) :
    Engages id { w with modules := m } :=
  ⟨hm.settled h.settled, fun hheld => h.held (hm.loosens hheld)⟩

theorem Engages.panic (h : w.Engages id) (ec : ErrorCode) : (w.panic ec).Engages id := by
  refine ⟨h.settled, fun hheld => ?_⟩
  obtain ⟨-, -, hstopped | hsame⟩ := panic_get (w := w) ec id
  · exact .inl hstopped
  · rw [runningAs]
    dsimp only
    rw [hsame]
    exact h.held hheld

theorem Engages.resetAs (hsettled : w.modules.idler.Settled)
    (hfree : w.modules.idler.onHold = false) : (w.resetAs id param).Engages id := by
  refine ⟨?_, fun hheld => ?_⟩
  · exact (id.reaches_reset (.refl _) _ param).settled hsettled
  · rw [runningAs]
    dsimp only
    rw [get_resetAs_self]
    exact CommandId.mayHold_reset hfree param hheld

theorem Engages.stepAs (h : w.Engages w.currentCommand) :
    (w.stepAs w.currentCommand).Engages w.currentCommand := by
  refine ⟨?_, ?_⟩
  · exact (Running.reaches_step _ (w.runningAs w.currentCommand) (.refl _)).settled h.settled
  · rw [runningAs_stepAs]
    exact h.held.step

theorem upholds_engages :
    Upholds Engages (fun _ => True) (fun _ _ => True) (fun _ => True) where
  goesOn h hm := h.goesOn hm
  panic ec _ h := h.panic ec
  recast {id w w'} h hmodules hcommands := by
    refine ⟨hmodules.symm ▸ h.settled, ?_⟩
    rw [runningAs, hmodules, hcommands]
    exact h.held
  start {w w' s} h hbefore hok _ _ hmodules hcommands _ := by
    obtain ⟨userInput, lastCommandProcessedMs, hmodules⟩ := hmodules
    refine Engages.resetAs ?_ ?_
    · rw [hmodules]
      exact h.settled
    · rw [hmodules, ← Bool.not_eq_true]
      exact fun hheld => CommandId.not_mayHold_of_shownState hok (h.held hheld)
  write {w rq} h _ :=
    ⟨(reaches_writeRegister (P := fun _ => True) (fun _ _ => trivial) (.refl _) _ _
        fun _ => trivial).settled h.settled,
      fun hheld => h.held (Modules.loosens_writeRegister _ _ _ hheld)⟩
  step {w} h _ :=
    w.stepCommand_of_stepAs (fun h hm => h.goesOn hm) (fun ec _ h => h.panic ec) h.stepAs

end World

namespace BootInput

variable (b : BootInput)

theorem settled_modules : b.modules.idler.Settled :=
  ⟨fun _ => rfl, (by decide : MovableState.ready ≠ .plannedHome)⟩

theorem waiting_of_startUp (h : b.startUp.2.idler.onHold = true) :
    b.startUp.1.state = .errWaitingForUser := by
  rw [startUp] at h ⊢
  dsimp only at h ⊢
  split
  · rfl
  · next hpassed =>
      rw [if_neg hpassed] at h
      refine StartUp.waiting_of_reset (m := b.modules) rfl ?_
      apply Movable.Changes.onHold (Idler.changes_init (o := Modules.movesLeft) _) not_false
      split at h
      · exact h
      · exact h

theorem engages_world : b.world.Engages b.world.currentCommand := by
  have hsettled := b.reaches_startUp.settled b.settled_modules
  have hheld := b.waiting_of_startUp
  rw [world, World.processReset]
  dsimp only
  split
  · exact ⟨hsettled, fun h => .inr (.inl (hheld h))⟩
  · exact ⟨hsettled, fun h => .inr (.inl (hheld h))⟩

end BootInput

/-- The slot whose filament the pulley begins to drive in the step of the command in charge. -/
def World.departs (w : World) : Option UInt8 :=
  if w.boardReset then none else (w.runningAs w.currentCommand).departs

/-- In every run, where the pulley begins to drive the filament of a slot, the idler is ready,
engaged and at that slot if and only if no motion of it is under way and the slot was planned
last. -/
theorem pulley_drives_engaged_iff (b : BootInput) (inputs : List LoopInput) :
    ∀ r ∈ b.reports inputs, ∀ slot, r.stepping.departs = some slot →
      (r.stepping.modules.idler.EngagedOn slot ↔
        r.stepping.modules.idler.inMotion = false ∧
          r.stepping.modules.idler.plannedSlot = slot) := by
  intro r hr slot hdeparts
  obtain ⟨w, i, hw, rfl⟩ := World.upholds_engages.reports b.engages_world inputs
    (fun _ _ => ⟨fun _ _ => trivial, fun _ _ _ => trivial, trivial⟩) r hr
  have hbefore : (w.beforeCommand i).Engages (w.beforeCommand i).currentCommand :=
    World.upholds_engages.beforeCommand hw i (fun _ _ => trivial) fun _ _ _ => trivial
  have hrunning : ((w.beforeCommand i).runningAs (w.beforeCommand i).currentCommand).departs =
      some slot := by
    have hdeparts : (w.beforeCommand i).departs = some slot := hdeparts
    rw [World.departs] at hdeparts
    split at hdeparts
    · cases hdeparts
    · exact hdeparts
  obtain ⟨hdrives, hhold, hworks⟩ := hbefore.held.of_departs hrunning
  exact hbefore.settled.engagedOn_iff hdrives.engaged hhold hworks

/-- A load of slot 0 once both axes have been homed. -/
def loadUntilEngaged : List LoopInput :=
  untilParked ++ [(idleInput false).withRequest .load 0, allMovesDone false]

theorem pulley_drives_engaged_load :
    ∃ r ∈ ({} : BootInput).reports loadUntilEngaged,
      r.stepping.departs = some 0 ∧ r.stepping.modules.idler.EngagedOn 0 := by
  have hdeparts : ∃ r ∈ ({} : BootInput).reports loadUntilEngaged,
      r.stepping.departs = some 0 ∧ r.stepping.modules.idler.inMotion = false ∧
        r.stepping.modules.idler.plannedSlot = 0 := by
    decide +kernel
  obtain ⟨r, hr, hdeparts, hrests⟩ := hdeparts
  exact ⟨r, hr, hdeparts, (pulley_drives_engaged_iff {} _ r hr 0 hdeparts).mpr hrests⟩

/-- The filament of slot 0 is loaded to the nozzle, then that of slot 1 is asked for. The filament
of slot 0 is unloaded, and the selector has come to slot 1 while the idler is still on its way. -/
def toolChangedTwice : List LoopInput :=
  untilParked ++
    [(idleInput false).withRequest .tool 0, allMovesDone false, findaSettles true,
      findaSettles true, idleInput true, allMovesDone true,
      (idleInput true).withRequest .filamentSensor 1, idleInput true, allMovesDone true,
      idleInput true, allMovesDone true, allMovesDone true, allMovesDone true, idleInput true,
      (idleInput true).withRequest .tool 1, allMovesDone true,
      (idleInput true).withRequest .filamentSensor 0, allMovesDone true, allMovesDone true,
      findaSettles false, findaSettles false, idleInput false, idleInput false, allMovesDone false,
      allMovesDone false, idleInput false,
      { beforeModules := { elapsedMs := 1000, selector := { pulses := [(100000, false)] } } }]

/-- The pulley begins to drive with the idler on its way from another slot, or, after a write that
has engaged another slot, at rest there. -/
theorem pulley_drives_off_slot :
    (¬ ∀ (b : BootInput) (inputs : List LoopInput), ∀ r ∈ b.reports inputs, ∀ slot,
      r.stepping.departs = some slot → r.stepping.modules.idler.EngagedOn slot) ∧
      ¬ ∀ (b : BootInput) (inputs : List LoopInput), ∀ r ∈ b.reports inputs, ∀ slot,
        r.stepping.departs = some slot → r.stepping.modules.idler.isIn .ready = true →
          r.stepping.modules.idler.slot = slot := by
  refine ⟨fun h => ?_, fun h => ?_⟩
  · have hengaged : ∀ r ∈ ({} : BootInput).reports toolChangedTwice,
        r.stepping.departs = some 1 → r.stepping.modules.idler.EngagedOn 1 :=
      fun r hr => h {} toolChangedTwice r hr 1
    revert hengaged
    decide +kernel
  · have hslot : ∀ r ∈ ({} : BootInput).reports (untilParked ++
          [(idleInput false).withWrite 0x1c 3, (idleInput false).withRequest .load 0, idlerMoveDone,
            allMovesDone false]),
        r.stepping.departs = some 0 → r.stepping.modules.idler.isIn .ready = true →
          r.stepping.modules.idler.slot = 0 :=
      fun r hr => h {} _ r hr 0
    revert hslot
    decide +kernel

end MmuFirmware
