import MmuFirmware.Lib.Transducer
import MmuFirmware.Modules.Machine

/-!
A movable as the rest of the firmware sees it: an object that is called in any order, with
whatever the globals and the sensors are at that time. What is proved about all sequences of
calls holds however the commands, the requests and the interrupts are interleaved.
-/
namespace MmuFirmware

/-- What is done to an axis behind its movable's back. None of it plans a move. -/
inductive AxisCall where
  | tick (i : AxisInput)
  | abortPlannedMoves | disable | initAxis | clearQueueFull
  | setMode (mode : MotorMode)
  | setIRun (iRun : UInt8)
  | setAcceleration (acceleration : Nat)
  deriving DecidableEq, Repr

def AxisCall.run (a : AxisData) : AxisCall → AxisData
  | tick i => a.tick i
  | abortPlannedMoves => a.abortPlannedMoves
  | disable => a.disable
  | initAxis => a.initAxis.2
  | clearQueueFull => { a with queueFull := false }
  | setMode mode => a.setMode mode
  | setIRun iRun => { a with iRun }
  | setAcceleration acceleration => { a with acceleration }

inductive IdlerCall where
  | engage (slot : UInt8) | partiallyDisengage (slot : UInt8) | disengage
  | planHome | holdOn | resume | invalidateHoming | step | init
  | axis (c : AxisCall)
  deriving DecidableEq, Repr

namespace IdlerCall

/-- The calls that ask for an operation. -/
def isRequest : IdlerCall → Bool
  | engage _ | partiallyDisengage _ | disengage | planHome => true
  | _ => false

/-- What is not a request has no result of its own. -/
def run (g : Globals) (i : Idler) : IdlerCall → Idler × OperationResult
  | engage slot => (i.engage g slot).swap
  | partiallyDisengage slot => (i.partiallyDisengage g slot).swap
  | disengage => (i.disengage g).swap
  | planHome => (Idler.planHome i g).swap
  | holdOn => (Movable.holdOn i, .accepted)
  | resume => (Movable.resume i, .accepted)
  | invalidateHoming => (Movable.invalidateHoming i, .accepted)
  | step => (Idler.step i g, .accepted)
  | init => (Idler.init i g, .accepted)
  | axis c => ({ i with axis := c.run i.axis }, .accepted)

end IdlerCall

inductive SelectorCall where
  | moveToSlot (slot : UInt8)
  | planHome | holdOn | resume | invalidateHoming | step | init
  | axis (c : AxisCall)
  deriving DecidableEq, Repr

/-- What the selector looks at besides itself. -/
structure Surroundings where
  globals : Globals
  finda : Bool
  idlerHomingValid : Bool
  deriving DecidableEq, Repr

namespace SelectorCall

def isRequest : SelectorCall → Bool
  | moveToSlot _ | planHome => true
  | _ => false

def run (e : Surroundings) (s : Selector) : SelectorCall → Selector × OperationResult
  | moveToSlot slot => (Selector.moveToSlot s e.globals e.finda slot).swap
  | planHome => (Selector.planHome s e.globals).swap
  | holdOn => (Movable.holdOn s, .accepted)
  | resume => (Movable.resume s, .accepted)
  | invalidateHoming => (Movable.invalidateHoming s, .accepted)
  | step => (Selector.step s e.globals e.finda e.idlerHomingValid, .accepted)
  | init => (Selector.init s e.globals e.finda, .accepted)
  | axis c => ({ s with axis := c.run s.axis }, .accepted)

end SelectorCall

/-- A call of the idler, as an input of the object. -/
def Idler.call (i : Idler) (input : Globals × IdlerCall) : Idler × OperationResult :=
  input.2.run input.1 i

def Selector.call (s : Selector) (input : Surroundings × SelectorCall) :
    Selector × OperationResult :=
  input.2.run input.1 s

/-- What the firmware does to its modules, one thing at a time: it calls one of the movables,
changes the record of the filament, or does something to all the rest. -/
inductive ModuleCall where
  | idler (c : IdlerCall)
  | selector (c : SelectorCall)
  | setFilamentLoaded (slot : UInt8) (state : FilamentLoadState)
  | eraseEEPROM
  | others (m : Modules)
  deriving DecidableEq, Repr

namespace Modules

variable (m : Modules)

def surroundings : Surroundings := ⟨m.globals, m.finda.pressed, m.idler.homingValid⟩

/-- The parts of `m'` that are neither a movable nor the record of the filament. -/
def withOthers (m' : Modules) : Modules :=
  { m' with
    idler := m.idler
    selector := m.selector
    globals :=
      { m'.globals with
        activeSlot := m.globals.activeSlot
        filamentLoaded := m.globals.filamentLoaded
        storage := { m'.globals.storage with filamentLoaded := m.globals.storage.filamentLoaded } } }

def call : ModuleCall → Modules × OperationResult
  | .idler c => ({ m with idler := (m.idler.call (m.globals, c)).1 }, (m.idler.call (m.globals, c)).2)
  | .selector c =>
      ({ m with selector := (m.selector.call (m.surroundings, c)).1 },
        (m.selector.call (m.surroundings, c)).2)
  | .setFilamentLoaded slot state => (m.setFilamentLoaded slot state, .accepted)
  | .eraseEEPROM => ({ m with globals := { m.globals with storage := .erased } }, .accepted)
  | .others m' => (m.withOthers m', .accepted)

end Modules

end MmuFirmware
