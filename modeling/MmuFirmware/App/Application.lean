import MmuFirmware.App.Registers
import MmuFirmware.Logic.Commands
import MmuFirmware.Protocol.Decode
import MmuFirmware.Protocol.Encode

/-!
`application.cpp`: who may start a command, what is answered to a request, and the step of
the current command. A panic raised by an overfull motion queue is delivered to the current
command when the call that planned the move has returned.
-/
namespace MmuFirmware

structure World where
  modules : Modules
  commands : Commands := {}
  currentCommand : CommandId := .startUp
  /-- The request that planned the last command, echoed by every answer to a query. -/
  currentCommandRq : RequestMsg := .init .reset 0
  protocol : Protocol := .fresh
  /-- Bytes received and not yet decoded. -/
  rx : List UInt8 := []
  /-- `logic::hwSanity.Error()` -/
  hwSanityError : ErrorCode
  buildNumber : UInt16
  /-- The board has been reset and does not come back in this run. -/
  boardReset : Bool := false
  deriving DecidableEq, Repr

/-- A command object becoming the current command: where this was decided, the parameter
of its `Reset` and whether that accepted. -/
structure Start where
  before : World
  command : CommandId
  param : UInt8
  accepted : Bool
  deriving DecidableEq, Repr

namespace World

variable (w : World)

def current : TopLevel w.currentCommand.Data := w.commands.get w.currentCommand

/-- `currentCommand->TopLevelState()` -/
def topLevelState : ProgressCode := w.current.command.state

/-- `currentCommand->State()` -/
def shownState : ProgressCode := w.currentCommand.shownState w.current.command

/-- `currentCommand->Error()` -/
def shownError : ErrorCode := w.currentCommand.shownError w.current.command

def setCommand (id : CommandId) (command : id.Object) (modules : Modules) : World :=
  { w with
    commands := w.commands.set id { w.commands.get id with command }
    modules }

def panic (ec : ErrorCode) : World :=
  let (command, modules) := w.current.command.panic ec w.modules
  w.setCommand w.currentCommand command modules

/-- The panic of `Motion::PlanMoveTo`, if one is due. -/
def deliverPanic : World :=
  if w.modules.queueFull then
    World.panic { w with modules := w.modules.clearQueueFull } .queueFull
  else w

/-- `Reset` of a command object; a panic hits the command that is current meanwhile. -/
def resetCommand (id : CommandId) (param : UInt8) : Bool × World :=
  let (accepted, command, modules) := id.reset (w.commands.get id).command param w.modules
  (accepted, (w.setCommand id command modules).deliverPanic)

def idleDelay : UInt16 := 1000

/-- The command a button event starts in the idle state, and its parameter. -/
def manualCommand (ev : Event) (activeSlot : UInt8) : Option (CommandId × UInt8) :=
  if ev = .left then
    if activeSlot > 0 then some (.moveSelector, activeSlot - 1) else none
  else if ev = .middle then
    if activeSlot < Config.toolCount then some (.loadFilament, activeSlot) else none
  else if ev = .right then
    -- the park position is allowed as well
    if activeSlot < Config.toolCount then some (.moveSelector, activeSlot + 1) else none
  else none

/-- Also tells which command has been started, if any. -/
def checkManualOperation : Option Start × World :=
  let m := w.modules
  if m.millis - m.lastCommandProcessedMs < idleDelay then
    -- bogus events while no command is in progress and the idle state is not reached yet
    (none, if w.shownState = .ok then { w with modules := m.clearUserInput } else w)
  else
    let m := { m with lastCommandProcessedMs := m.millis - idleDelay }
    if w.shownState = .ok ∧ m.filamentLoaded ≤ .atPulley ∧ m.userInput.anyEvent then
      let (ev, m) := m.consumeEvent
      match manualCommand ev m.activeSlot with
      | some (id, param) =>
          let (accepted, w') := World.resetCommand { w with modules := m } id param
          (some { before := w, command := id, param, accepted }, { w' with currentCommand := id })
      | none => (none, { w with modules := m })
    else (none, { w with modules := m })

/-- The command a request plans. -/
def commandOf : RequestMsgCodes → CommandId
  | .cut => .cutFilament
  | .eject => .ejectFilament
  | .home => .home
  | .load => .loadFilament
  | .tool => .toolChange
  | .unload => .unloadFilament
  | .mode => .setMode
  | _ => .noCommand

/-- A response line, and the command started if the request was one and was let through. -/
structure Served where
  world : World
  line : Option (List UInt8) := none
  started : Option Start := none

def planCommand (rq : RequestMsg) : Served :=
  if w.shownState = .ok then
    let id := commandOf rq.code
    let (accepted, world) :=
      World.resetCommand { w with currentCommand := id, currentCommandRq := rq } id rq.value
    { world
      line := some (encodeResponseCmdAR rq (if accepted then .accepted else .rejected))
      started := some { before := w, command := id, param := rq.value, accepted } }
  else { world := w, line := some (encodeResponseCmdAR rq .rejected) }

def commandStatus : ResponseCommandStatus :=
  if w.shownError = .running then
    { code := .processing, value := w.shownState.toByte.toUInt16 }
  else if w.shownError = .ok then
    { code := .finished
      value := (w.currentCommand.result w.current.command).toByte.toUInt16 }
  else { code := .error, value := w.shownError }

/-- A pending button comes first when the printer is in charge. -/
def runningCommandStatus : ResponseCommandStatus × World :=
  if w.modules.userInput.printerInCharge then
    let (ev, userInput) := w.modules.userInput.consumeEventForPrinter
    let w := { w with modules := { w.modules with userInput } }
    if ev ≠ .noEvent then ({ code := .button, value := ev.toUInt16 }, w)
    else (w.commandStatus, w)
  else (w.commandStatus, w)

def registerView : RegisterView where
  modules := w.modules
  currentProgressCode := w.shownState.toByte
  currentErrorCode := w.shownError
  buildNumber := w.buildNumber

def reportReadRegister (rq : RequestMsg) : List UInt8 :=
  let value2 := readRegister rq.value w.registerView
  encodeResponseRead rq value2.isSome (value2.getD 0)

def reportWriteRegister (rq : RequestMsg) : Served :=
  let (accepted, modules) := writeRegister rq.value rq.value2 w.modules
  { world := { w with modules }.deliverPanic
    line := some (encodeResponseCmdAR rq (if accepted then .accepted else .rejected)) }

def eepromAndSoftware : UInt8 := 42

def processReset (resetType : UInt8) : World :=
  if resetType = eepromAndSoftware then
    let globals := { w.modules.globals with storage := .erased }
    { w with modules := { w.modules with globals }, boardReset := true }
  else { w with boardReset := true }

def processRequestMsg (rq : RequestMsg) : Served :=
  match rq.code with
  | .button =>
      { world :=
          { w with
            modules := { w.modules with userInput := w.modules.userInput.processMessage rq.value } }
        line := some (encodeResponseCmdAR rq .accepted) }
  | .finda =>
      { world := w
        line := some (encodeResponseReadFINDA rq (if w.modules.finda.pressed then 1 else 0)) }
  | .query =>
      let (status, world) := w.runningCommandStatus
      { world, line := some (encodeResponseQueryOperation w.currentCommandRq status) }
  | .reset => { world := w.processReset rq.value }
  | .version | .read => { world := w, line := some (w.reportReadRegister rq) }
  | .write => w.reportWriteRegister rq
  | .cut | .eject | .home | .load | .mode | .tool | .unload => w.planCommand rq
  | .filamentSensor =>
      { world :=
          { w with
            modules := { w.modules with fsensor := w.modules.fsensor.processMessage (rq.value != 0) } }
        line := some (encodeResponseCmdAR rq .accepted) }
  -- respond with an error message
  | .filamentType | .unknown => { world := w }

/-- Decodes until a message is complete or the bytes are used up. -/
def decodeMsgs (p : Protocol) : List UInt8 → Bool × Protocol × List UInt8
  | [] => (false, p, [])
  | c :: rest =>
      match decodeRequest p c with
      | (p, .messageCompleted) => (true, p, rest)
      | (p, _) => decodeMsgs p rest

def checkMsgs : Bool × World :=
  let (completed, protocol, rx) := decodeMsgs w.protocol w.rx
  (completed, { w with protocol, rx })

/-- `currentCommand->Step()` -/
def stepCommand : World :=
  let id := w.currentCommand
  let t := w.current
  let r : Running id.Data := { command := t.command, recovery := t.recovery, modules := w.modules }
  let r := (r.step id.stepInner).2
  World.deliverPanic
    { w with
      commands := w.commands.set id { command := r.command, recovery := r.recovery }
      modules := r.modules }

end World

end MmuFirmware
