import MmuFirmware.App.Runs
import MmuFirmware.App.Writes
import MmuFirmware.Logic.Histories

/-!
Every run of the firmware as a history of calls of its modules. The calls of the logic are all
ordinary; apart from them a register write may record any byte as the place of the filament,
and a reset may erase the EEPROM.
-/
namespace MmuFirmware

open Modules

section Stages

variable {m₀ m : Modules} (h : m₀.Reaches ModuleCall.Ordinary m)
include h

theorem reaches_tick (i : Interrupts) : m₀.Reaches ModuleCall.Ordinary (m.interrupt i) :=
  (h.axes (.tick i.idler) (.tick i.selector) m.pulley).others rfl rfl rfl rfl rfl

theorem reaches_clearQueueFull : m₀.Reaches ModuleCall.Ordinary m.clearQueueFull :=
  h.axes .clearQueueFull .clearQueueFull _

theorem reaches_stepInputs (buttonsADC : UInt16) :
    m₀.Reaches ModuleCall.Ordinary (m.stepInputs buttonsADC) :=
  h.others rfl rfl rfl rfl rfl

theorem reaches_stepMovables (findaPin : Bool) :
    m₀.Reaches ModuleCall.Ordinary (m.stepMovables findaPin) := by
  have hsensors : m₀.Reaches ModuleCall.Ordinary
      { m with finda := m.finda.step m.millis findaPin, fsensor := m.fsensor.step m.millis } :=
    h.others rfl rfl rfl rfl rfl
  have hidler := hsensors.call (.idler .step) trivial
  have hselector := hidler.call (.selector .step) trivial
  exact hselector.others rfl rfl rfl rfl rfl

theorem reaches_killMotors : m₀.Reaches ModuleCall.Ordinary m.killMotors :=
  h.abortPlannedMoves.axes .disable .disable _

end Stages

/-- A write of a register is ordinary, unless it records a byte that names no place. -/
theorem reaches_writeRegister {P : ModuleCall → Prop} (hordinary : ∀ c : ModuleCall, c.Ordinary → P c)
    {m₀ m : Modules} (h : m₀.Reaches P m) (address : UInt8) (value : UInt16)
    (hnamed : address = 7 → P (.setFilamentLoaded m.activeSlot value.toUInt8)) :
    m₀.Reaches P (writeRegister address value m).2 := by
  by_cases haddress : address = 7
  · subst haddress
    exact h.call (.setFilamentLoaded m.activeSlot value.toUInt8) (hnamed rfl)
  · have hwrite := has_writeRegister (L := Reaches.lasting m) (.refl m) address value
      (fun heq => absurd heq haddress) fun _ => (Reaches.refl m).selectorMoveToSlot _
    exact h.trans (Reaches.mono hwrite hordinary)

namespace World

variable {P : ModuleCall → Prop} (hordinary : ∀ c : ModuleCall, c.Ordinary → P c) {m₀ : Modules}

/-- The modules have a history of allowed calls, unless the board has been reset by something
that is not allowed. -/
def HasHistory (P : ModuleCall → Prop) (m₀ : Modules) (w : World) : Prop :=
  w.boardReset = true ∧ ¬ P .eraseEEPROM ∨ m₀.Reaches P w.modules

include hordinary

theorem HasHistory.step {w w' : World} (h : w.HasHistory P m₀) (hreset : w'.boardReset = w.boardReset)
    (hmodules : w.modules.Reaches ModuleCall.Ordinary w'.modules) : w'.HasHistory P m₀ := by
  rcases h with h | h
  · left
    rwa [hreset]
  · exact .inr (h.trans (hmodules.mono hordinary))

theorem HasHistory.deliverPanic {w : World} (h : w.HasHistory P m₀) :
    w.deliverPanic.HasHistory P m₀ := by
  refine h.step hordinary w.deliverPanic_boardReset ?_
  rw [World.deliverPanic]
  split
  · exact (reaches_clearQueueFull (.refl _)).setLeds _
  · exact .refl _

theorem HasHistory.resetCommand {w : World} (h : w.HasHistory P m₀) (id : CommandId)
    (param : UInt8) : (w.resetCommand id param).2.HasHistory P m₀ := by
  rw [World.resetCommand]
  refine HasHistory.deliverPanic hordinary (h.step hordinary rfl ?_)
  exact id.reaches_reset (.refl _) _ param

theorem HasHistory.checksManually {w w' : World} {s : Option Start} (h : w.HasHistory P m₀)
    (hchecks : w.ChecksManually w' s) : w'.HasHistory P m₀ := by
  have hinput (userInput : UserInput) (lastCommandProcessedMs : UInt16) :
      HasHistory P m₀
        { w with modules := { w.modules with userInput, lastCommandProcessedMs } } :=
    h.step hordinary rfl (Reaches.others (.refl _) rfl rfl rfl rfl rfl)
  cases hchecks with
  | quiet userInput lastCommandProcessedMs => exact hinput _ _
  | start hw' _ _ _ param =>
      subst hw'
      exact (hinput _ _).resetCommand hordinary _ param

/-- What a request may do: a write of the register of the filament state has to be allowed. -/
def RequestAllowed (P : ModuleCall → Prop) (rq : RequestMsg) : Prop :=
  rq.code = .write → rq.value = 7 → ∀ slot, P (.setFilamentLoaded slot rq.value2.toUInt8)

theorem HasHistory.serves {w w' : World} {s : Option Start} {rq : RequestMsg}
    (h : w.HasHistory P m₀) (hserves : w.Serves rq w' s) (hallowed : RequestAllowed P rq) :
    w'.HasHistory P m₀ := by
  cases hserves with
  | quiet => exact h.step hordinary rfl (Reaches.others (.refl _) rfl rfl rfl rfl rfl)
  | reset =>
      rw [processReset]
      split
      · rcases h with h | h
        · exact .inl ⟨rfl, h.2⟩
        · by_cases herase : P .eraseEEPROM
          · exact .inr (h.call .eraseEEPROM herase)
          · exact .inl ⟨rfl, herase⟩
      · exact h.imp (fun hreset => ⟨rfl, hreset.2⟩) id
  | write hcode =>
      refine HasHistory.deliverPanic hordinary ?_
      rcases h with h | h
      · exact .inl h
      · exact .inr (reaches_writeRegister hordinary h _ _ fun hvalue => hallowed hcode hvalue _)
  | start _ _ _ hw' =>
      subst hw'
      exact HasHistory.resetCommand hordinary (by exact h) _ _

theorem stagesPreserve_hasHistory (m₀ : Modules) :
    StagesPreserve (RequestAllowed P) (HasHistory P m₀) where
  interrupt w i h := h.step hordinary rfl (reaches_tick (.refl _) i)
  stepModules w i h := by
    rw [stepModules]
    refine HasHistory.deliverPanic hordinary (h.step hordinary rfl ?_)
    split
    · exact reaches_stepMovables (reaches_stepInputs (.refl _) _) _
    · exact reaches_stepInputs (.refl _) _
  runtimeHWChecks w vccADC h := by
    rw [runtimeHWChecks]
    split
    · refine h.step hordinary rfl ?_
      exact (reaches_killMotors (.refl _)).setLeds _
    · exact h
  checkManualOperation w h := h.checksManually hordinary w.checksManually
  receive w bytes h := h
  checkMsgs w h := h
  processRequestMsg w h _ hallowed :=
    HasHistory.serves hordinary (w := w.checkMsgs.2) h (serves _ _) hallowed
  stepCommand w h := by
    rw [stepCommand]
    refine HasHistory.deliverPanic hordinary (h.step hordinary rfl ?_)
    exact Running.reaches_step _ _ (.refl _)

end World

namespace BootInput

variable (b : BootInput)

theorem reaches_startUp : b.modules.Reaches ModuleCall.Ordinary b.startUp.2 := by
  rw [startUp]
  split
  · exact .refl _
  · have hreset := CommandId.reaches_reset (.refl b.modules) .startUp { data := () } 0
    have hidler := hreset.call (.idler .init) trivial
    have hselector := hidler.call (.selector .init) trivial
    dsimp only
    split
    · exact hselector.setLeds _
    · exact hselector

theorem hasHistory_world {P : ModuleCall → Prop} (hordinary : ∀ c : ModuleCall, c.Ordinary → P c) :
    b.world.HasHistory P b.modules := by
  have hstartUp := b.reaches_startUp.mono hordinary
  rw [world]
  split
  · rw [World.processReset, if_pos rfl]
    by_cases herase : P .eraseEEPROM
    · exact .inr (hstartUp.call .eraseEEPROM herase)
    · exact .inl ⟨rfl, herase⟩
  · exact .inr hstartUp

/-- The calls lead from power-on to the state after the run. -/
def Performs (inputs : List LoopInput) (calls : List ModuleCall) : Prop :=
  Transducer.run call b.modules calls = (b.run inputs).modules

/-- Every run of the firmware is a history of calls. -/
theorem run_performs (inputs : List LoopInput) : ∃ calls, b.Performs inputs calls := by
  have hhistory := (World.stagesPreserve_hasHistory (P := fun _ => True) (fun _ _ => trivial)
    b.modules).run (b.hasHistory_world fun _ _ => trivial) inputs
    fun _ _ _ _ _ _ _ => trivial
  rcases hhistory with ⟨-, herase⟩ | ⟨calls, -, hrun⟩
  · exact absurd trivial herase
  · exact ⟨calls, hrun⟩

end BootInput

end MmuFirmware
