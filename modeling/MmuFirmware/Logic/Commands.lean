import MmuFirmware.Logic.CutEject
import MmuFirmware.Logic.ToolChange

/-!
The remaining commands (`home.cpp`, `move_selector.cpp`, `set_mode.cpp`, `start_up.cpp`,
`no_command.cpp`), and all command objects together with the virtual calls the application
makes through `CommandBase *currentCommand`.
-/
namespace MmuFirmware

abbrev Home := Command Unit

namespace Home

def reset (c : Home) (m : Modules) : Bool × Home × Modules :=
  (true, { c with error := .running, state := .homing }, m.invalidateHomingAndFilamentState)

def stepInner (c : Home) (m : Modules) : Bool × Home × Modules :=
  match c.state with
  | .homing =>
      if m.idler.isIn .ready ∧ m.selector.isIn .ready then (false, c.finishedOK m)
      else (false, c, m)
  | .ok => (true, c, m)
  | _ => c.unhandledState m

end Home

abbrev MoveSelector := Command Unit

namespace MoveSelector

def reset (c : MoveSelector) (param : UInt8) (m : Modules) : Bool × MoveSelector × Modules :=
  let c := { c with state := .movingSelector }
  let (result, m) := m.selectorMoveToSlot param
  if result ≠ .refused then (true, { c with error := .running }, m)
  else (false, { c with error := .homingSelectorFailed }, m)

def stepInner (c : MoveSelector) (m : Modules) : Bool × MoveSelector × Modules :=
  match c.state with
  | .movingSelector =>
      if m.selector.isIn .ready then
        (false, c.finishedOK (m.setFilamentLoaded m.selector.currentSlot .atPulley))
      else (false, c, m)
  | .ok => (true, c, m)
  | _ => c.unhandledState m

end MoveSelector

abbrev SetMode := Command Unit

namespace SetMode

/-- The mode is remembered and given to all motors. -/
def reset (c : SetMode) (param : UInt8) (m : Modules) : Bool × SetMode × Modules :=
  let mode : MotorMode := if param = 0 then .normal else .stealth
  (true,
    c.finishedOK
      { m with
        globals := { m.globals with stealthMode := param != 0 }
        pulley := { m.pulley with axis := m.pulley.axis.setMode mode }
        selector := { m.selector with axis := m.selector.axis.setMode mode }
        idler := { m.idler with axis := m.idler.axis.setMode mode } })

end SetMode

abbrev StartUp := Command Unit

namespace StartUp

def setInitError (c : StartUp) (ec : ErrorCode) : StartUp :=
  { c with error := ec, state := .errWaitingForUser }

/-- A record without a pressed FINDA is forgotten, a pressed FINDA without a record is not
accepted. -/
def checkFINDAvsEEPROM (m : Modules) : Bool × Modules :=
  if m.finda.pressed ∧ m.filamentLoaded < .inFSensor then (false, m)
  else if m.finda.pressed = false ∧ m.filamentLoaded ≥ .inSelector then
    (true, m.setFilamentLoaded Config.toolCount .atPulley)
  else (true, m)

def reset (c : StartUp) (m : Modules) : Bool × StartUp × Modules :=
  let (ok, m) := checkFINDAvsEEPROM m
  if ok then (true, c, m)
  else (true, c.setInitError .findaVsEepromDisrepancy, m.holdIdlerSelector)

def stepInner (c : StartUp) (m : Modules) : Bool × StartUp × Modules :=
  match c.state with
  | .ok => (true, c, m)
  | .errWaitingForUser =>
      let (ev, m) := m.consumeEvent
      if ev = .middle ∧ c.error = .findaVsEepromDisrepancy then
        let (ok, m) := checkFINDAvsEEPROM m
        if ok then (false, { c with error := .ok, state := .ok }, m.resumeIdlerSelector)
        else (false, c.setInitError .findaVsEepromDisrepancy, m)
      else (false, c, m)
  | _ => (false, c, m)

end StartUp

abbrev NoCommand := Command Unit

inductive CommandId where
  | startUp | noCommand | cutFilament | ejectFilament | home | loadFilament | moveSelector
  | setMode | toolChange | unloadFilament
  deriving DecidableEq, Repr

namespace CommandId

/-- The data of a command beside the base class. -/
abbrev Data : CommandId → Type
  | .cutFilament => CutFilamentData
  | .ejectFilament => EjectFilamentData
  | .loadFilament => LoadFilamentData
  | .toolChange => ToolChangeData
  | .unloadFilament => UnloadFilamentData
  | _ => Unit

abbrev Object (id : CommandId) : Type := Command id.Data

def reset : (id : CommandId) → id.Object → UInt8 → Modules → Bool × id.Object × Modules
  | .startUp, c, _, m => StartUp.reset c m
  | .noCommand, c, _, m => (true, c, m)
  | .cutFilament, c, param, m => CutFilament.reset c param m
  | .ejectFilament, c, param, m => EjectFilament.reset c param m
  | .home, c, _, m => Home.reset c m
  | .loadFilament, c, param, m => LoadFilament.reset c param m
  | .moveSelector, c, param, m => MoveSelector.reset c param m
  | .setMode, c, param, m => SetMode.reset c param m
  | .toolChange, c, param, m => ToolChange.reset c param m
  | .unloadFilament, c, _, m => (true, UnloadFilament.reset c m)

def stepInner : (id : CommandId) → id.Object → Modules → Bool × id.Object × Modules
  | .startUp => StartUp.stepInner
  | .noCommand => fun c m => (true, c, m)
  | .cutFilament => CutFilament.stepInner
  | .ejectFilament => EjectFilament.stepInner
  | .home => Home.stepInner
  | .loadFilament => LoadFilament.stepInner
  | .moveSelector => MoveSelector.stepInner
  | .setMode => fun c m => (true, c, m)
  | .toolChange => ToolChange.stepInner
  | .unloadFilament => UnloadFilament.stepInner

/-- `State()`: composite commands show the state of the part that runs. -/
def shownState : (id : CommandId) → id.Object → ProgressCode
  | .cutFilament => CutFilament.shownState
  | .ejectFilament => EjectFilament.shownState
  | .toolChange => ToolChange.shownState
  | .startUp | .noCommand | .home | .loadFilament | .moveSelector | .setMode
  | .unloadFilament => Command.state

/-- `Error()` -/
def shownError : (id : CommandId) → id.Object → ErrorCode
  | .cutFilament => CutFilament.shownError
  | .ejectFilament => EjectFilament.shownError
  | .toolChange => ToolChange.shownError
  | .startUp | .noCommand | .home | .loadFilament | .moveSelector | .setMode
  | .unloadFilament => Command.error

/-- `Result()` -/
def result : (id : CommandId) → id.Object → ResultCode
  | .loadFilament, c => c.data.result
  | .startUp, _ | .noCommand, _ | .cutFilament, _ | .ejectFilament, _ | .home, _
  | .moveSelector, _ | .setMode, _ | .toolChange, _ | .unloadFilament, _ => .ok

end CommandId

/-- A command object with what it remembers of a module failure. -/
structure TopLevel (δ : Type) where
  command : Command δ
  recovery : Recovery := {}
  deriving DecidableEq, Repr

structure Commands where
  startUp : TopLevel Unit := { command := { data := () } }
  noCommand : TopLevel Unit := { command := { data := () } }
  cutFilament : TopLevel CutFilamentData := { command := { data := {} } }
  ejectFilament : TopLevel EjectFilamentData := { command := { data := {} } }
  home : TopLevel Unit := { command := { data := () } }
  loadFilament : TopLevel LoadFilamentData := { command := { data := {} } }
  moveSelector : TopLevel Unit := { command := { data := () } }
  setMode : TopLevel Unit := { command := { data := () } }
  toolChange : TopLevel ToolChangeData := { command := { data := {} } }
  unloadFilament : TopLevel UnloadFilamentData := { command := { data := {} } }
  deriving DecidableEq, Repr

namespace Commands

def get (cs : Commands) : (id : CommandId) → TopLevel id.Data
  | .startUp => cs.startUp
  | .noCommand => cs.noCommand
  | .cutFilament => cs.cutFilament
  | .ejectFilament => cs.ejectFilament
  | .home => cs.home
  | .loadFilament => cs.loadFilament
  | .moveSelector => cs.moveSelector
  | .setMode => cs.setMode
  | .toolChange => cs.toolChange
  | .unloadFilament => cs.unloadFilament

def set (cs : Commands) : (id : CommandId) → TopLevel id.Data → Commands
  | .startUp, t => { cs with startUp := t }
  | .noCommand, t => { cs with noCommand := t }
  | .cutFilament, t => { cs with cutFilament := t }
  | .ejectFilament, t => { cs with ejectFilament := t }
  | .home, t => { cs with home := t }
  | .loadFilament, t => { cs with loadFilament := t }
  | .moveSelector, t => { cs with moveSelector := t }
  | .setMode, t => { cs with setMode := t }
  | .toolChange, t => { cs with toolChange := t }
  | .unloadFilament, t => { cs with unloadFilament := t }

variable (cs : Commands)

@[simp] theorem get_set_self (id : CommandId) (t : TopLevel id.Data) :
    (cs.set id t).get id = t := by
  cases id <;> rfl

theorem get_set_of_ne {id id' : CommandId} (h : id' ≠ id) (t : TopLevel id.Data) :
    (cs.set id t).get id' = cs.get id' := by
  cases id <;> cases id' <;> first | rfl | exact absurd rfl h

end Commands

end MmuFirmware
