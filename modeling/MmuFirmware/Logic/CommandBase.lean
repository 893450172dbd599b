import MmuFirmware.Logic.Codes
import MmuFirmware.Modules.Machine

/-!
`logic/command_base.cpp`. A command has the base class's state and its own data. What the
base class remembers of a module failure is kept apart: only the step of a top-level
command reads or writes it, a command nested in another one is stepped without.
-/
namespace MmuFirmware

structure Command (δ : Type) where
  state : ProgressCode := .ok
  error : ErrorCode := .ok
  deferredErrorCode : ErrorCode := .ok
  data : δ
  deriving DecidableEq, Repr

structure Recovery where
  stateBeforeModuleFailed : ProgressCode := .empty
  errorBeforeModuleFailed : ErrorCode := .ok
  recoveringMovableErrorAxisMask : UInt8 := 0
  deriving DecidableEq, Repr

def tmc2130ToErrorCode (ef : TMCErrorFlags) : ErrorCode :=
  (if ef.resetFlag then .tmcReset else 0) |||
    (if ef.uvCp then .tmcUndervoltageOnChargePump else 0) |||
    (if ef.s2g then .tmcShortToGround else 0) |||
    (if ef.otpw then .tmcOverTemperatureWarn else 0) |||
    (if ef.ot then .tmcOverTemperatureError else 0)

def Axis.errorBit : Axis → ErrorCode
  | .pulley => .tmcPulleyBit
  | .selector => .tmcSelectorBit
  | .idler => .tmcIdlerBit

def addErrorAxisBit (ec : ErrorCode) (axis : Axis) : ErrorCode := ec ||| axis.errorBit

/-- The on-hold bit is masked out of the state. -/
def checkMovable {ε : Type} (m : Movable ε) (axis : Axis) : ErrorCode :=
  match m.state with
  | .tmcFailed => addErrorAxisBit (tmc2130ToErrorCode m.tmcErrorFlags) axis
  | .homingFailed => addErrorAxisBit .homingFailed axis
  | _ => .running

def withoutAxisBits (ec : ErrorCode) : ErrorCode :=
  ec &&& ~~~(.tmcSelectorBit ||| .tmcIdlerBit ||| .tmcPulleyBit)

namespace Modules

def checkMovable (m : Modules) : Axis → ErrorCode
  | .pulley => MmuFirmware.checkMovable m.pulley .pulley
  | .selector => MmuFirmware.checkMovable m.selector .selector
  | .idler => MmuFirmware.checkMovable m.idler .idler

def homingValid (m : Modules) : Axis → Bool
  | .pulley => m.pulley.homingValid
  | .selector => m.selector.homingValid
  | .idler => m.idler.homingValid

def planHome (m : Modules) : Axis → Modules
  | .pulley =>
      { m with
        pulley := (Movable.planHome m.pulley (m.globals.stallGuardThreshold .pulley) id).2 }
  | .selector => { m with selector := (Selector.planHome m.selector m.globals).2 }
  | .idler => { m with idler := (Idler.planHome m.idler m.globals).2 }

end Modules

namespace Axis

/-- The bit of `recoveringMovableErrorAxisMask`. -/
def recoveryMask : Axis → UInt8
  | .idler => 1
  | .selector => 2
  | .pulley => 4

def isRecovering (axis : Axis) (mask : UInt8) : Bool := mask &&& axis.recoveryMask != 0

end Axis

/-- A top-level command in the middle of its step. -/
structure Running (δ : Type) where
  command : Command δ
  recovery : Recovery
  modules : Modules
  deriving DecidableEq, Repr

namespace Command

variable {δ : Type} (c : Command δ)

def checkToolIndex (index : UInt8) : Bool × Command δ :=
  if index ≥ Config.toolCount then (false, { c with error := .invalidTool })
  else (true, { c with error := .ok })

def panic (ec : ErrorCode) (m : Modules) : Command δ × Modules :=
  ({ c with state := .errInternal, error := ec }, m.setLeds LEDs.setAllBlinking)

def errDisengagingIdler (m : Modules) : Command δ × Modules :=
  if m.idler.disengaged then
    ({ c with
        state := .errWaitingForUser, error := c.deferredErrorCode, deferredErrorCode := .ok },
      Modules.holdIdlerSelector <| Modules.clearUserInput <| Modules.pulleyDisable
        { m with globals := m.globals.incDriveErrors })
  else (c, m)

def goToErrDisengagingIdler (deferredEC : ErrorCode) (m : Modules) : Command δ × Modules :=
  ({ c with state := .errDisengagingIdler, deferredErrorCode := deferredEC },
    m.activeSlotError.idlerDisengage)

def finishedOK (m : Modules) : Command δ × Modules :=
  ({ c with state := .ok, error := .ok }, { m with lastCommandProcessedMs := m.millis })

/-- The `default:` of every step: an unhandled state is reported. -/
def unhandledState (m : Modules) : Bool × Command δ × Modules :=
  (true, { c with state := .errInternal, error := .internal }, m)

end Command

namespace Running

variable {δ : Type} (r : Running δ)

/-- The first failure is remembered, the user is asked for help. -/
def enterModuleFailure (ec : ErrorCode) : Running δ :=
  if r.recovery.stateBeforeModuleFailed = .empty then
    { command := { r.command with error := ec, state := .errWaitingForUser }
      recovery :=
        { r.recovery with
          stateBeforeModuleFailed := r.command.state
          errorBeforeModuleFailed := r.command.error }
      modules := r.modules.holdIdlerSelector }
  else r

/-- A failure while recovering from one. -/
def failAgain (ec : ErrorCode) : Running δ :=
  if r.recovery.recoveringMovableErrorAxisMask ≠ 0 then
    { r with
      command := { r.command with error := ec, state := .errWaitingForUser }
      modules := r.modules.holdIdlerSelector }
  else r

/-- A failed homing is tried again on the user's request; TMC errors stay. -/
def awaitHomingRequest (ec : ErrorCode) (axis : Axis) : Running δ :=
  if r.command.state = .errWaitingForUser ∧ withoutAxisBits ec = .homingFailed then
    let (ev, modules) := r.modules.consumeEvent
    if ev = .middle then
      { command := { r.command with state := .homing, error := .running }
        recovery :=
          { r.recovery with
            recoveringMovableErrorAxisMask :=
              r.recovery.recoveringMovableErrorAxisMask ||| axis.recoveryMask }
        modules := modules.resumeIdlerSelector.planHome axis }
    else { r with modules }
  else r

def recovered (axis : Axis) : Running δ :=
  { r with
    command :=
      { r.command with
        state := r.recovery.stateBeforeModuleFailed
        error := r.recovery.errorBeforeModuleFailed }
    recovery :=
      { r.recovery with
        recoveringMovableErrorAxisMask :=
          r.recovery.recoveringMovableErrorAxisMask &&& ~~~axis.recoveryMask
        stateBeforeModuleFailed := .empty } }

def waitForOneModuleErrorRecovery (ec : ErrorCode) (axis : Axis) : Bool × Running δ :=
  if ec ≠ .running then
    (true, ((r.enterModuleFailure ec).failAgain ec).awaitHomingRequest ec axis)
  else if axis.isRecovering r.recovery.recoveringMovableErrorAxisMask then
    if r.command.state = .homing then
      if r.modules.homingValid axis then (false, r.recovered axis) else (true, r)
    else (false, r)
  else (false, r)

def waitForModulesErrorRecovery : Bool × Running δ :=
  let (rvIdler, r) := r.waitForOneModuleErrorRecovery (r.modules.checkMovable .idler) .idler
  let (rvSelector, r) :=
    r.waitForOneModuleErrorRecovery (r.modules.checkMovable .selector) .selector
  let (rvPulley, r) := r.waitForOneModuleErrorRecovery (r.modules.checkMovable .pulley) .pulley
  (rvIdler || rvSelector || rvPulley, r)

/-- `CommandBase::Step` -/
def step (stepInner : Command δ → Modules → Bool × Command δ × Modules) : Bool × Running δ :=
  let (waiting, r) := r.waitForModulesErrorRecovery
  if waiting ∨ r.command.state = .errInternal then (true, r)
  else
    let (done, command, modules) := stepInner r.command r.modules
    (done, { r with command, modules })

end Running

end MmuFirmware
