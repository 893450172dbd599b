import MmuFirmware.App.Runs
import MmuFirmware.Logic.Recovery

/-!
Properties that hold on whatever happens beside the commands: the modules go on by
themselves, and a panic may stop the current command at any time. Every stage of an
iteration but the start of a command, a register write and the step of the command does
nothing else.
-/
namespace MmuFirmware
namespace Modules

/-- What happens to the modules beside the logic. -/
inductive GoesOn (m : Modules) : Modules → Prop
  | interrupt (i : Interrupts) : m.GoesOn (m.interrupt i)
  | stepInputs (buttonsADC : UInt16) : m.GoesOn (m.stepInputs buttonsADC)
  | stepMovables (findaPin : Bool) : m.GoesOn (m.stepMovables findaPin)
  | killMotors : m.GoesOn m.killMotors
  | clearQueueFull : m.GoesOn m.clearQueueFull
  | inputs (userInput : UserInput) (fsensor : FSensor) (lastCommandProcessedMs : UInt16) :
      m.GoesOn { m with userInput, fsensor, lastCommandProcessedMs }
  | erase : m.GoesOn { m with globals := { m.globals with storage := .erased } }

variable (m : Modules)

theorem proceeds_setLeds (f : LEDs → LEDs) : m.Proceeds (m.setLeds f) :=
  proceeds_of_eq rfl rfl rfl rfl rfl rfl

theorem proceeds_stepMovables (findaPin : Bool) : m.Proceeds (m.stepMovables findaPin) where
  activeSlot := rfl
  filamentLoaded := rfl
  idler := m.idler.step_finishes m.globals
  failed axis h := by
    cases axis with
    | idler => exact Idler.step_failed _ _ h
    | selector => exact Selector.step_failed _ _ _ _ h
    | pulley => exact Pulley.step_failed _ h

variable {m} {m' : Modules}

theorem GoesOn.proceeds (h : m.GoesOn m') : m.Proceeds m' := by
  cases h with
  | stepMovables findaPin => exact m.proceeds_stepMovables findaPin
  | interrupt | stepInputs | killMotors | clearQueueFull | inputs | erase =>
      exact proceeds_of_eq rfl rfl rfl rfl rfl rfl

end Modules

namespace World

/-- The codes the current command is stopped with from outside. -/
def PanicCode (ec : ErrorCode) : Prop := ec = .queueFull ∨ ec = .mcuUndervoltageVcc

structure Robust (I : World → Prop) : Prop where
  goesOn : ∀ {w : World} {m : Modules}, I w → w.modules.GoesOn m → I { w with modules := m }
  panic : ∀ {w : World} (ec : ErrorCode), PanicCode ec → I w → I (w.panic ec)
  congr : ∀ {w w' : World}, I w → w'.modules = w.modules → w'.commands = w.commands →
    w'.currentCommand = w.currentCommand → I w'

namespace Robust

variable {I : World → Prop} (h : Robust I) {w : World} (hw : I w)
include h hw

theorem deliverPanic : I w.deliverPanic := by
  rw [World.deliverPanic]
  split
  · exact h.panic _ (.inl rfl) (h.goesOn hw .clearQueueFull)
  · exact hw

theorem interrupt (i : Interrupts) : I (w.interrupt i) := h.goesOn hw (.interrupt i)

theorem stepModules (i : LoopInput) : I (w.stepModules i) := by
  rw [World.stepModules]
  have hinputs := h.goesOn hw (.stepInputs i.buttonsADC)
  have hmovables := h.goesOn hinputs (.stepMovables i.findaPin)
  refine h.deliverPanic ?_
  split
  · exact hmovables
  · exact hinputs

theorem runtimeHWChecks (vccADC : UInt16) : I (w.runtimeHWChecks vccADC) := by
  rw [World.runtimeHWChecks]
  split
  · exact h.panic _ (.inr rfl) (h.goesOn hw .killMotors)
  · exact hw

theorem beforeMessages (i : LoopInput) : I (w.beforeMessages i) :=
  h.interrupt (h.runtimeHWChecks (h.stepModules (h.interrupt hw _) _) _) _

theorem processReset (resetType : UInt8) : I (w.processReset resetType) := by
  rw [World.processReset]
  split
  · exact h.congr (h.goesOn hw .erase) rfl rfl rfl
  · exact h.congr hw rfl rfl rfl

theorem checksManually {w' : World} (hchecks : w.ChecksManually w' none) : I w' := by
  cases hchecks with
  | quiet userInput lastCommandProcessedMs =>
      exact h.goesOn hw (.inputs userInput w.modules.fsensor lastCommandProcessedMs)

theorem serves {w' : World} {rq : RequestMsg} (hserves : w.Serves rq w' none)
    (hwrite : rq.code = .write →
      I { w with modules := (writeRegister rq.value rq.value2 w.modules).2 }) : I w' := by
  cases hserves with
  | quiet userInput fsensor =>
      exact h.goesOn hw (.inputs userInput fsensor w.modules.lastCommandProcessedMs)
  | reset => exact h.processReset hw _
  | write hcode => exact h.deliverPanic (hwrite hcode)

theorem checkMsgs : I w.checkMsgs.2 := h.congr hw rfl rfl rfl

theorem receive (bytes : List UInt8) : I (w.receive bytes) := h.congr hw rfl rfl rfl

end Robust

end World
end MmuFirmware
