import MmuFirmware.App.Completion
import MmuFirmware.App.Writes
import MmuFirmware.Logic.KnownSlots

/-!
Positions are looked up in their tables only, in every run in which no register write sends the
selector to a slot that does not exist and no step takes a slot for known that is not.
-/
namespace MmuFirmware

namespace Modules

variable {m m' : Modules}

theorem InTables.goesOn (h : m.InTables) (hm : m.GoesOn m') : m'.InTables := by
  cases hm with
  | interrupt i => exact h.axes ⟨rfl, rfl, rfl⟩ rfl rfl
  | stepMovables findaPin =>
      exact ⟨h.idler.step m.globals, h.selector.step m.globals _ _, h.slot⟩
  | killMotors | clearQueueFull => exact h.axes ⟨rfl, rfl, rfl⟩ rfl rfl
  | stepInputs | inputs | erase => exact h.congr rfl rfl rfl

end Modules

/-- A button moves the selector to a neighbour of the active slot, or beside the last tool. -/
theorem World.manualCommand_inTable {ev : Event} {slot param : UInt8}
    (h : manualCommand ev slot = some (.moveSelector, param)) (hslot : slot ≤ Config.toolCount) :
    param ≤ Config.toolCount := by
  rw [manualCommand] at h
  split at h
  · split at h
    · next hpos =>
        obtain ⟨-, rfl⟩ := Prod.mk.inj (Option.some.inj h)
        rw [gt_iff_lt, UInt8.lt_iff_toNat_lt] at hpos
        have hone : (1 : UInt8) ≤ slot := UInt8.le_iff_toNat_le.mpr hpos
        rw [UInt8.le_iff_toNat_le] at hslot ⊢
        rw [UInt8.toNat_sub_of_le _ _ hone]
        omega
    · cases h
  · split at h
    · split at h <;> cases h
    · split at h
      · split at h
        · next htool =>
            obtain ⟨-, rfl⟩ := Prod.mk.inj (Option.some.inj h)
            exact CommandId.succ_le_of_lt htool
        · cases h
      · cases h

/-- The request sends the selector to a slot behind the table, and this sets out at once. -/
def World.writesBehindTable (w : World) (rq : RequestMsg) : Bool :=
  rq.code == .write && rq.value == 0x1b && rq.value2.toUInt8 > Config.toolCount &&
    w.modules.selector.LooksUp w.modules.globals w.modules.finda.pressed rq.value2.toUInt8

namespace World

/-- Only positions in the tables have been looked up, and the slots the commands keep are tools. -/
structure InTables (w : World) : Prop where
  modules : w.modules.InTables
  known : ∀ id : CommandId, id.Knows (w.commands.get id).command (w.commands.get id).recovery

variable {w : World}

theorem InTables.panic (h : w.InTables) (ec : ErrorCode) : (w.panic ec).InTables := by
  refine ⟨h.modules.congr rfl rfl rfl, fun id => ?_⟩
  obtain ⟨hrecovery, hdata, hinternal | hsame⟩ := panic_get (w := w) ec id
  · rw [hrecovery]
    exact (h.known id).stopped hdata hinternal
  · rw [hsame]
    exact h.known id

theorem InTables.resetAs (h : w.InTables) {id : CommandId} {param : UInt8}
    (hparam : id.ParamIn Modules.InTables.lasting param) : (w.resetAs id param).InTables := by
  refine ⟨CommandId.has_reset (L := Modules.InTables.lasting) h.modules id _ hparam,
    fun id' => ?_⟩
  by_cases hid : id' = id
  · subst hid
    rw [get_resetAs_self]
    exact CommandId.knows_reset (h.known id') param
  · rw [get_resetAs_of_ne _ hid]
    exact h.known id'

def losesSlot (w : World) : Bool := (w.runningAs w.currentCommand).losesSlot

theorem InTables.stepAs (h : w.InTables) (hloses : w.losesSlot = false) :
    (w.stepAs w.currentCommand).InTables := by
  obtain ⟨hknows, hmodules⟩ := Running.inTables_step (h.known w.currentCommand) h.modules hloses
  refine ⟨hmodules, fun id => ?_⟩
  by_cases hid : id = w.currentCommand
  · subst hid
    rw [World.stepAs]
    dsimp only
    rw [Commands.get_set_self]
    exact hknows
  · rw [get_stepAs_of_ne _ hid]
    exact h.known id

theorem InTables.write (h : w.InTables) {rq : RequestMsg} (hcode : rq.code = .write)
    (hwrite : w.writesBehindTable rq = false) :
    InTables { w with modules := (writeRegister rq.value rq.value2 w.modules).2 } := by
  refine ⟨has_writeRegister (L := Modules.InTables.lasting) h.modules _ _ (fun _ => ?_) ?_, h.known⟩
  · exact ⟨h.modules.idler, h.modules.selector, h.modules.slot⟩
  · intro haddress
    refine h.modules.withSelector (h.modules.selector.moveToSlot _ fun hlooks => ?_)
    rw [writesBehindTable, hcode, haddress, hlooks] at hwrite
    exact UInt8.not_lt.mp (by simpa using hwrite)

theorem upholds_inTables :
    Upholds (fun _ => InTables) (fun _ => True)
      (fun w rq => rq.code = .write ∧ w.writesBehindTable rq = false)
      (fun w => w.losesSlot = false) where
  goesOn h hm := ⟨h.modules.goesOn hm, h.known⟩
  panic ec _ h := h.panic ec
  recast h hmodules hcommands := ⟨hmodules.symm ▸ h.modules, hcommands.symm ▸ h.known⟩
  start {w w' s} h hbefore hok hissued _ hmodules hcommands _ := by
    obtain ⟨userInput, lastCommandProcessedMs, hmodules⟩ := hmodules
    have hw' : w'.InTables := by
      refine ⟨?_, ?_⟩
      · rw [hmodules]
        exact h.modules.congr rfl rfl rfl
      · rw [hcommands]
        exact h.known
    refine hw'.resetAs ?_
    cases hid : s.command with
    | moveSelector =>
        obtain ⟨ev, hev⟩ := hissued hid
        rw [hbefore] at hev
        exact manualCommand_inTable hev h.modules.slot
    | startUp => exact UInt8.le_refl Config.toolCount
    | noCommand | cutFilament | ejectFilament | home | loadFilament | setMode | toolChange
    | unloadFilament => trivial
  write h hallowed := h.write hallowed.1 hallowed.2
  step {w} h hloses :=
    w.stepCommand_of_stepAs (fun h hm => ⟨h.modules.goesOn hm, h.known⟩) (fun ec _ h => h.panic ec)
      (h.stepAs hloses)

end World

/-- No slot behind the tables is taken for a place in the iteration. -/
def LoopReport.staysInTables (r : LoopReport) : Bool :=
  r.request.all (fun rq => !r.serving.writesBehindTable rq) && !r.stepping.losesSlot

namespace BootInput

variable (b : BootInput)

theorem inTables_modules : b.modules.InTables := by
  refine ⟨⟨rfl, .inl rfl⟩, rfl, ?_⟩
  show (Globals.init b.storage).activeSlot ≤ Config.toolCount
  rw [Globals.init]
  dsimp only
  split
  · next filament _ =>
      split
      · next htool => exact UInt8.le_of_lt htool
      · exact UInt8.le_refl Config.toolCount
  · exact UInt8.le_refl Config.toolCount

theorem inTables_startUp : b.startUp.2.InTables := by
  rw [startUp]
  dsimp only
  split
  · exact b.inTables_modules
  · have hreset : (StartUp.reset { data := () } b.modules).2.2.InTables :=
      StartUp.holds_reset (D := Modules.InTables.lasting.durable) b.inTables_modules
        (UInt8.le_refl Config.toolCount) _
    have hidler := hreset.withIdler (hreset.idler.init (StartUp.reset { data := () } b.modules).2.2.globals)
    have hselector := hidler.withSelector
      (hidler.selector.init (StartUp.reset { data := () } b.modules).2.2.globals
        (StartUp.reset { data := () } b.modules).2.2.finda.pressed hidler.slot)
    split
    · exact hselector.congr rfl rfl rfl
    · exact hselector

theorem inTables_world : b.world.InTables := by
  refine ⟨?_, fun id => ?_⟩
  · rw [world, World.processReset]
    dsimp only
    split
    · exact b.inTables_startUp.congr rfl rfl rfl
    · exact b.inTables_startUp
  · rw [world, World.processReset]
    cases id with
    | cutFilament | ejectFilament => dsimp only; split <;> exact (by decide : (0 : UInt8) < 5)
    | toolChange => dsimp only; split <;> exact .inr ⟨rfl, rfl⟩
    | startUp | noCommand | home | loadFilament | moveSelector | setMode | unloadFilament => trivial

end BootInput

/-- As long as no register write sends the selector behind its table and no step takes a slot for
known that is not, every position is looked up in its table, and the active slot is a tool or the
place beside them, in every state a run reaches and wherever a command is started in it. -/
theorem slots_in_tables (b : BootInput) (inputs : List LoopInput)
    (hstays : ∀ r ∈ b.reports inputs, r.staysInTables) :
    (b.run inputs).modules.idler.outOfTable = false ∧
      (b.run inputs).modules.selector.outOfTable = false ∧
      (b.run inputs).modules.activeSlot ≤ Config.toolCount ∧
      ∀ r ∈ b.reports inputs, ∀ s ∈ r.starts,
        s.before.modules.activeSlot ≤ Config.toolCount := by
  have hallowed : ∀ r ∈ b.reports inputs, (∀ s ∈ r.starts, True) ∧
      (∀ rq, r.request = some rq → rq.code = .write →
        rq.code = .write ∧ r.serving.writesBehindTable rq = false) ∧
      r.stepping.losesSlot = false := by
    intro r hr
    have hr := hstays r hr
    rw [LoopReport.staysInTables, Bool.and_eq_true, Bool.not_eq_true'] at hr
    refine ⟨fun _ _ => trivial, fun rq hrq hcode => ⟨hcode, ?_⟩, hr.2⟩
    have hall := hr.1
    rw [hrq] at hall
    simpa using hall
  have hrun := World.upholds_inTables.run b.inTables_world inputs hallowed
  have hstarts := World.upholds_inTables.starts b.inTables_world inputs hallowed
  exact ⟨hrun.modules.idler.lookedUp, hrun.modules.selector, hrun.modules.slot,
    fun r hr s hs => (hstarts r hr s hs).modules.slot⟩

/-- The selector is sent to the place beside the tools, and a load begins. -/
theorem slots_in_tables_load :
    let inputs := untilParked ++
      [(idleInput false).withWrite 0x1b 5, (idleInput false).withRequest .load 0]
    (({} : BootInput).run inputs).modules.selector.outOfTable = false :=
  (slots_in_tables {} _ (by decide +kernel)).2.1

/-- The register of the selector's place takes any value. -/
theorem selector_sent_behind_table :
    ¬ ∀ (b : BootInput) (inputs : List LoopInput),
      (b.run inputs).modules.idler.outOfTable = false ∧
        (b.run inputs).modules.selector.outOfTable = false := by
  intro h
  have hlooked := (h {} (untilParked ++ [(idleInput false).withWrite 0x1b 200])).2
  exact absurd hlooked (by decide +kernel)

end MmuFirmware
