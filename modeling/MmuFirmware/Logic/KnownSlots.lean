import MmuFirmware.Logic.ActiveSlot
import MmuFirmware.Logic.Recovery
import MmuFirmware.Modules.SlotTables

/-!
The slots the commands work with are in the tables of positions. Parameters are checked before
they are kept, and what is read back from the modules is the active slot. Two steps take a slot
that was never checked: the one of a selector that has stopped somewhere, and the one of a tool
change that is tried again without having planned a slot.
-/
namespace MmuFirmware

namespace Modules

/-- Only positions in the tables have been looked up and are going to be. -/
structure InTables (m : Modules) : Prop where
  idler : m.idler.InTable
  selector : m.selector.InTable
  slot : m.activeSlot ≤ Config.toolCount

namespace InTables

variable {m m' : Modules} (h : m.InTables)
include h

/-- Of the movables, at most the plans and the record of the look-ups matter. -/
theorem axes (hidler : m'.idler.outOfTable = m.idler.outOfTable ∧
      m'.idler.plannedSlot = m.idler.plannedSlot ∧ m'.idler.ext = m.idler.ext)
    (hselector : m'.selector.outOfTable = m.selector.outOfTable)
    (hslot : m'.globals.activeSlot = m.globals.activeSlot) : m'.InTables := by
  refine ⟨h.idler.congr hidler.1 hidler.2.1 hidler.2.2,
    hselector.trans h.selector, ?_⟩
  rw [activeSlot, hslot]
  exact h.slot

theorem congr (hidler : m'.idler = m.idler) (hselector : m'.selector = m.selector)
    (hslot : m'.globals.activeSlot = m.globals.activeSlot) : m'.InTables := by
  refine h.axes ?_ ?_ hslot
  · rw [hidler]
    exact ⟨rfl, rfl, rfl⟩
  · rw [hselector]

theorem withIdler {i : Idler} (hidler : i.InTable) : InTables { m with idler := i } :=
  ⟨hidler, h.selector, h.slot⟩

theorem withSelector {s : Selector} (hselector : s.InTable) : InTables { m with selector := s } :=
  ⟨h.idler, hselector, h.slot⟩

theorem planHome (axis : Axis) : (m.planHome axis).InTables := by
  cases axis with
  | pulley => exact h.congr rfl rfl rfl
  | selector => exact h.withSelector (h.selector.planHome m.globals)
  | idler => exact h.withIdler (h.idler.planHome m.globals)

omit h in
def lasting : Lasting where
  P := InTables
  Slot slot := slot ≤ Config.toolCount
  Place slot := slot ≤ Config.toolCount
  active h := h.slot
  tool h := UInt8.le_of_lt h
  place h := h
  others h hidler hselector _ hslot _ _ := h.congr hidler hselector hslot
  setAllOff h := h.congr rfl rfl rfl
  setPair h _ _ _ _ := h.congr rfl rfl rfl
  setFilamentLoaded h _ hslot _ _ := ⟨h.idler, h.selector, hslot⟩
  idlerEngage {m} h _ hslot := h.withIdler (h.idler.planMoveInner m.globals hslot _)
  idlerPartiallyDisengage {m} h _ hslot := h.withIdler (h.idler.planMoveInner m.globals hslot _)
  idlerDisengage {m} h :=
    h.withIdler (h.idler.planMoveInner m.globals (UInt8.le_refl Config.toolCount) _)
  selectorMoveToSlot {m} h _ hslot :=
    h.withSelector (h.selector.moveToSlot m.globals fun _ => hslot)
  idlerAxis h _ := h.axes ⟨rfl, rfl, rfl⟩ rfl rfl
  selectorAxis h _ := h.axes ⟨rfl, rfl, rfl⟩ rfl rfl
  idlerInvalidateHoming h := h.axes ⟨rfl, rfl, rfl⟩ rfl rfl
  selectorInvalidateHoming h := h.axes ⟨rfl, rfl, rfl⟩ rfl rfl
  holdIdlerSelector h := h.axes ⟨rfl, rfl, rfl⟩ rfl rfl
  resumeIdlerSelector h := h.axes ⟨rfl, rfl, rfl⟩ rfl rfl
  planHome h axis := h.planHome axis

end InTables
end Modules

/-- The states in which a tool change has not planned a slot. -/
def ProgressCode.unplanned (s : ProgressCode) : Bool :=
  s == .ok || s == .errInternal || s == .errWaitingForUser || s == .homing || s == .empty

section Slots

variable {m : Modules}

theorem EjectFilament.slot_reset (c : EjectFilament) (param : UInt8) :
    (reset c param m).2.1.data.slot = c.data.slot ∨
      (reset c param m).2.1.data.slot < Config.toolCount := by
  rw [reset, Command.checkToolIndex]
  grind [moveSelectorAside, Command.goToErrDisengagingIdler]

theorem EjectFilament.slot_stepInner (c : EjectFilament) :
    (stepInner c m).2.1.data.slot = c.data.slot := by
  rw [stepInner]
  grind [moveSelectorAside, Command.goToErrDisengagingIdler, Command.errDisengagingIdler,
    Command.finishedOK, Command.unhandledState]

/-- A retry that does not feed the planned slot resets the command to the active one. -/
theorem ToolChange.unplanned_retry {c : ToolChange} {m' : Modules} (hstate : c.state.unplanned)
    (hretry : c.retryFeeds m = false) (hfinda : m'.finda = m.finda) :
    (retry c m').1.state.unplanned ∨ (retry c m').1.data.plannedSlot < Config.toolCount := by
  have hreset : ∀ m : Modules, (reset c m.activeSlot m).2.1.state.unplanned ∨
      (reset c m.activeSlot m).2.1.data.plannedSlot < Config.toolCount := by
    intro m
    rcases plannedSlot_reset (m := m) c m.activeSlot with ⟨-, hkept⟩ | hlt
    · exact .inl (hkept ▸ hstate)
    · exact .inr hlt
  simp only [retryFeeds, Bool.or_eq_false_iff, beq_eq_false_iff_ne, Bool.and_eq_false_iff,
    bne_eq_false_iff_eq, Bool.not_eq_false'] at hretry
  have hpressed : m'.invalidateHoming.finda.pressed = m.finda.pressed := congrArg _ hfinda
  rw [retry, hpressed]
  split
  · exact hreset _
  · next herror =>
      rw [if_neg hretry.1, if_pos (hretry.2.resolve_left herror)]
      exact hreset _

/-- A tool change that has planned no slot waits, or is tried again and then checks the slot it
takes. -/
theorem ToolChange.unplanned_stepInner {c : ToolChange} (hstate : c.state.unplanned)
    (hfeeds : feedsPlanned c m = false) :
    (stepInner c m).2.1.state.unplanned ∨
      (stepInner c m).2.1.data.plannedSlot < Config.toolCount := by
  have hstates : c.state = .ok ∨ c.state = .errInternal ∨ c.state = .errWaitingForUser ∨
      c.state = .homing ∨ c.state = .empty := by
    simpa [ProgressCode.unplanned, or_assoc] using hstate
  rcases hstates with hstate' | hstate' | hstate' | hstate' | hstate' <;> rw [stepInner, hstate']
  · exact .inl hstate
  · exact .inl rfl
  · dsimp only
    split
    · next hmiddle =>
        have hretry : m.userInput.consumeEvent.1 = .middle → c.retryFeeds m = false := by
          simpa [feedsPlanned, hstate'] using hfeeds
        exact unplanned_retry hstate (hretry hmiddle) rfl
    · exact .inl hstate
  · exact .inl rfl
  · exact .inl rfl

end Slots

namespace CommandId

/-- The slots a command keeps are tools. A tool change that has planned none is in a state, and
goes back to one, in which it does not need it. -/
def Knows : (id : CommandId) → id.Object → Recovery → Prop
  | .cutFilament, c, _ => c.data.cutSlot < Config.toolCount
  | .ejectFilament, c, _ => c.data.slot < Config.toolCount
  | .toolChange, c, recovery =>
      c.data.plannedSlot < Config.toolCount ∨
        c.state.unplanned ∧ recovery.stateBeforeModuleFailed.unplanned
  | .startUp, _, _ | .noCommand, _, _ | .home, _, _ | .loadFilament, _, _ | .moveSelector, _, _
  | .setMode, _, _ | .unloadFilament, _, _ => True

/-- A step is about to take a slot for known that is not: the selector has stopped where it does
not know, or a tool change that has planned no slot is tried again. -/
def losesSlot : (id : CommandId) → id.Object → Modules → Bool
  | .moveSelector, c, m =>
      c.state == .movingSelector && m.selector.isIn .ready &&
        m.selector.currentSlot > Config.toolCount
  | .toolChange, c, m => ToolChange.feedsPlanned c m && c.data.plannedSlot ≥ Config.toolCount
  | .startUp, _, _ | .noCommand, _, _ | .cutFilament, _, _ | .ejectFilament, _, _ | .home, _, _
  | .loadFilament, _, _ | .setMode, _, _ | .unloadFilament, _, _ => false

variable {id : CommandId} {c : id.Object} {recovery : Recovery} {m : Modules}

theorem Knows.stopped (h : id.Knows c recovery) {c' : id.Object} (hdata : c'.data = c.data)
    (hstate : c'.state = .errInternal) : id.Knows c' recovery := by
  cases id with
  | cutFilament => exact lt_of_eq_of_lt (congrArg CutFilamentData.cutSlot hdata) h
  | ejectFilament => exact lt_of_eq_of_lt (congrArg EjectFilamentData.slot hdata) h
  | toolChange =>
      refine Or.imp (fun hlt => ?_) (fun hstates => ⟨?_, hstates.2⟩) h
      · exact lt_of_eq_of_lt (congrArg ToolChangeData.plannedSlot hdata) hlt
      · rw [hstate]
        rfl
  | startUp | noCommand | home | loadFilament | moveSelector | setMode | unloadFilament => trivial

theorem knows_reset (h : id.Knows c recovery) (param : UInt8) :
    id.Knows (id.reset c param m).2.1 recovery := by
  cases id with
  | cutFilament =>
      rcases CutFilament.cutSlot_reset (m := m) c param with ⟨heq, -⟩ | hlt
      · exact lt_of_eq_of_lt heq h
      · exact hlt
  | ejectFilament =>
      rcases EjectFilament.slot_reset (m := m) c param with heq | hlt
      · exact lt_of_eq_of_lt heq h
      · exact hlt
  | toolChange =>
      rcases ToolChange.plannedSlot_reset (m := m) c param with ⟨hplanned, hstate⟩ | hlt
      · exact h.imp (fun hlt => lt_of_eq_of_lt hplanned hlt)
          fun hstates => ⟨hstate.symm ▸ hstates.1, hstates.2⟩
      · exact .inl hlt
  | startUp | noCommand | home | loadFilament | moveSelector | setMode | unloadFilament => trivial

theorem knows_stepInner (h : id.Knows c recovery) (hloses : id.losesSlot c m = false) :
    id.Knows (id.stepInner c m).2.1 recovery := by
  cases id with
  | cutFilament =>
      rcases CutFilament.cutSlot_stepInner (m := m) c with heq | hlt
      · exact lt_of_eq_of_lt heq h
      · exact hlt
  | ejectFilament => exact lt_of_eq_of_lt (EjectFilament.slot_stepInner (m := m) c) h
  | toolChange =>
      rcases h with hlt | ⟨hstate, hbefore⟩
      · rcases ToolChange.plannedSlot_stepInner (m := m) c with heq | hlt'
        · exact .inl (lt_of_eq_of_lt heq hlt)
        · exact .inl hlt'
      · by_cases hplanned : c.data.plannedSlot < Config.toolCount
        · rcases ToolChange.plannedSlot_stepInner (m := m) c with heq | hlt'
          · exact .inl (lt_of_eq_of_lt heq hplanned)
          · exact .inl hlt'
        · have hfeeds : ToolChange.feedsPlanned c m = false := by
            simpa [losesSlot, UInt8.not_lt.mp hplanned] using hloses
          rcases ToolChange.unplanned_stepInner hstate hfeeds with hstate' | hlt
          · exact .inr ⟨hstate', hbefore⟩
          · exact .inl hlt
  | startUp | noCommand | home | loadFilament | moveSelector | setMode | unloadFilament => trivial

/-- The blade is beside the last tool at most. -/
theorem succ_le_of_lt {slot : UInt8} (h : slot < Config.toolCount) :
    slot + 1 ≤ Config.toolCount := by
  rw [UInt8.lt_iff_toNat_lt] at h
  rw [UInt8.le_iff_toNat_le, UInt8.toNat_add]
  have hcount : Config.toolCount.toNat = 5 := rfl
  have hone : (1 : UInt8).toNat = 1 := rfl
  omega

theorem slotsIn_of_knows (h : id.Knows c recovery) (hloses : id.losesSlot c m = false) :
    id.SlotsIn Modules.InTables.lasting c m := by
  cases id with
  | cutFilament => exact ⟨UInt8.le_of_lt h, succ_le_of_lt h⟩
  | ejectFilament => exact UInt8.le_of_lt h
  | toolChange =>
      intro hfeeds
      have hplanned : ¬ c.data.plannedSlot ≥ Config.toolCount := by
        simpa [losesSlot, hfeeds] using hloses
      exact UInt8.le_of_lt (UInt8.not_le.mp hplanned)
  | moveSelector =>
      intro hstate hready
      have hslot : ¬ m.selector.currentSlot > Config.toolCount := by
        simpa [losesSlot, hstate, hready] using hloses
      exact UInt8.not_lt.mp hslot
  | startUp => exact UInt8.le_refl Config.toolCount
  | noCommand | home | loadFilament | setMode | unloadFilament => trivial

end CommandId

namespace Running

variable {δ : Type} {r : Running δ}

/-- What the base class does about a failed module leads to no other states. -/
theorem unplanned_waitForOne (ec : ErrorCode) (axis : Axis)
    (h : r.command.state.unplanned ∧ r.recovery.stateBeforeModuleFailed.unplanned) :
    (r.waitForOneModuleErrorRecovery ec axis).2.command.state.unplanned ∧
      (r.waitForOneModuleErrorRecovery ec axis).2.recovery.stateBeforeModuleFailed.unplanned := by
  have henter : (r.enterModuleFailure ec).command.state.unplanned ∧
      (r.enterModuleFailure ec).recovery.stateBeforeModuleFailed.unplanned := by
    rw [enterModuleFailure]
    split
    · exact ⟨rfl, h.1⟩
    · exact h
  have hagain : ∀ r : Running δ, r.command.state.unplanned ∧
      r.recovery.stateBeforeModuleFailed.unplanned → (r.failAgain ec).command.state.unplanned ∧
        (r.failAgain ec).recovery.stateBeforeModuleFailed.unplanned := by
    intro r h
    rw [failAgain]
    split
    · exact ⟨rfl, h.2⟩
    · exact h
  have hawait : ∀ r : Running δ, r.command.state.unplanned ∧
      r.recovery.stateBeforeModuleFailed.unplanned →
        (r.awaitHomingRequest ec axis).command.state.unplanned ∧
          (r.awaitHomingRequest ec axis).recovery.stateBeforeModuleFailed.unplanned := by
    intro r h
    rw [awaitHomingRequest]
    split
    · dsimp only
      split
      · exact ⟨rfl, h.2⟩
      · exact h
    · exact h
  rw [waitForOneModuleErrorRecovery]
  split
  · exact hawait _ (hagain _ henter)
  · split
    · split
      · split
        · exact ⟨h.2, rfl⟩
        · exact h
      · exact h
    · exact h

theorem unplanned_waitForModules
    (h : r.command.state.unplanned ∧ r.recovery.stateBeforeModuleFailed.unplanned) :
    r.waitForModulesErrorRecovery.2.command.state.unplanned ∧
      r.waitForModulesErrorRecovery.2.recovery.stateBeforeModuleFailed.unplanned :=
  unplanned_waitForOne _ _ (unplanned_waitForOne _ _ (unplanned_waitForOne _ _ h))

variable {id : CommandId} {r : Running id.Data}

theorem knows_waitForModules (h : id.Knows r.command r.recovery) :
    id.Knows r.waitForModulesErrorRecovery.2.command r.waitForModulesErrorRecovery.2.recovery := by
  have hdata : r.waitForModulesErrorRecovery.2.command.data = r.command.data :=
    carries_waitForModules.data
  cases id with
  | cutFilament => exact lt_of_eq_of_lt (congrArg CutFilamentData.cutSlot hdata) h
  | ejectFilament => exact lt_of_eq_of_lt (congrArg EjectFilamentData.slot hdata) h
  | toolChange =>
      refine h.imp (fun hlt => ?_) unplanned_waitForModules
      exact lt_of_eq_of_lt (congrArg ToolChangeData.plannedSlot hdata) hlt
  | startUp | noCommand | home | loadFilament | moveSelector | setMode | unloadFilament => trivial

/-- Where `StepInner` is executed, it takes a slot for known that is not. -/
def losesSlot (r : Running id.Data) : Bool :=
  let (waiting, r) := r.waitForModulesErrorRecovery
  !waiting && r.command.state != .errInternal && id.losesSlot r.command r.modules

theorem inTables_step (h : id.Knows r.command r.recovery) (hmodules : r.modules.InTables)
    (hloses : r.losesSlot = false) :
    id.Knows (r.step id.stepInner).2.command (r.step id.stepInner).2.recovery ∧
      (r.step id.stepInner).2.modules.InTables := by
  have hknows := knows_waitForModules h
  have hwaited := r.has_waitForModules (L := Modules.InTables.lasting) hmodules
  rw [losesSlot] at hloses
  rw [step]
  generalize r.waitForModulesErrorRecovery = w at hknows hwaited hloses ⊢
  dsimp only at hloses ⊢
  split
  · exact ⟨hknows, hwaited⟩
  · next hgo =>
      rw [not_or, Bool.not_eq_true] at hgo
      have hloses : id.losesSlot w.2.command w.2.modules = false := by
        simpa [hgo.1, hgo.2] using hloses
      exact ⟨CommandId.knows_stepInner hknows hloses,
        id.has_stepInner hwaited (CommandId.slotsIn_of_knows hknows hloses)⟩

end Running

end MmuFirmware
