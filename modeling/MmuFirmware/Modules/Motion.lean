import MmuFirmware.Modules.Globals

/-!
One axis of `modules/motion.h`: its TMC2130 driver and its queue of planned moves. Speeds
are kept as planned and play no part in when a step happens: the stepping interrupt is an
input, which executes any number of steps of the first block at a time and samples the
DIAG pin afterwards. An overfull queue is recorded for the panic it triggers.
-/
namespace MmuFirmware

structure TMCErrorFlags where
  resetFlag : Bool := false
  uvCp : Bool := false
  s2g : Bool := false
  otpw : Bool := false
  ot : Bool := false
  deriving DecidableEq, Repr

def TMCErrorFlags.any (ef : TMCErrorFlags) : Bool :=
  ef.resetFlag || ef.uvCp || ef.s2g || ef.otpw || ef.ot

/-- What the registers of the driver read as; the hardware decides. -/
structure TMCRegisters where
  gstat : UInt32 := 0
  drvStatus : UInt32 := 0
  ioin : UInt32 := 0x11000040
  deriving DecidableEq, Repr

def testBits (register mask : UInt32) : Bool := register &&& mask != 0

inductive MotorMode where
  | normal | stealth
  deriving DecidableEq, Repr

structure Block where
  /-- Steps still to execute, signed by the direction. -/
  steps : Int
  feedRate : Nat
  endRate : Nat
  deriving DecidableEq, Repr

structure AxisData where
  registers : TMCRegisters := {}
  errorFlags : TMCErrorFlags := {}
  initialized : Bool := false
  mode : MotorMode := .normal
  sgThrs : UInt8
  sgFilterThreshold : Nat := 0
  sgFilterCounter : Nat := 0
  enabled : Bool := false
  iRun : UInt8
  acceleration : Nat
  /-- The position the last planned block ends at. -/
  position : Int := 0
  blocks : List Block := []
  queueFull : Bool := false
  /-- The fastest rate any move has been planned with. -/
  topRate : Nat := 0
  /-- Some call came with moves in the queue that asks for an empty one, or a move was planned
  into a full queue. -/
  misused : Bool := false
  deriving DecidableEq, Repr

namespace AxisData

def stallGuard (a : AxisData) : Bool := a.sgFilterCounter == 0

def stallGuardReset (a : AxisData) : AxisData :=
  { a with sgFilterCounter := a.sgFilterThreshold }

def queueEmpty (a : AxisData) : Bool := a.blocks.isEmpty

/-- No moves should be under way. -/
def needsQueueEmpty (a : AxisData) : AxisData := { a with misused := a.misused || !a.queueEmpty }

/-- An axis already in the desired state is left alone. -/
def setEnabled (a : AxisData) (enabled : Bool) : AxisData :=
  if enabled = a.enabled then a else { a.stallGuardReset with enabled }

def disable (a : AxisData) : AxisData := a.needsQueueEmpty.setEnabled false

def setMode (a : AxisData) (mode : MotorMode) : AxisData := { a.needsQueueEmpty with mode }

/-- `drv.Init`: a driver with the wrong version stays uninitialised. -/
def initDriver (a : AxisData) : Bool × AxisData :=
  let a := { a with initialized := false, sgFilterThreshold := 2 }
  if a.registers.ioin >>> (24 : UInt32) ≠ 0x11 ∨ testBits a.registers.ioin 0x40 = false then (false, a)
  else
    (true,
      { a with
        errorFlags := { a.errorFlags with resetFlag := false }
        mode := .normal
        initialized := true })

def initAxis (a : AxisData) : Bool × AxisData := a.disable.initDriver

/-- The flags of the driver are updated; any bit of GSTAT is an error. -/
def checkForErrors (a : AxisData) : Bool × AxisData :=
  if a.initialized then
    let gstat := a.registers.gstat
    let drvStatus := a.registers.drvStatus
    let flags : TMCErrorFlags :=
      { resetFlag := a.errorFlags.resetFlag || testBits gstat 0x1
        uvCp := testBits gstat 0x4
        s2g := testBits drvStatus 0x18000000
        otpw := testBits drvStatus 0x04000000
        ot := testBits drvStatus 0x02000000 }
    (gstat != 0 || flags.resetFlag, { a with errorFlags := flags })
  else (false, a)

/-- What `checkForErrors` reads would set some flag. -/
def tellsCause (a : AxisData) : Bool :=
  a.errorFlags.resetFlag || testBits a.registers.gstat 0x1 || testBits a.registers.gstat 0x4 ||
    testBits a.registers.drvStatus 0x1e000000

def plannedMoves (a : AxisData) : Nat := a.blocks.length

def curPosition (a : AxisData) : Int :=
  a.position - a.blocks.foldr (fun b steps => b.steps + steps) 0

def setPosition (a : AxisData) (x : Int) : AxisData := { a.needsQueueEmpty with position := x }

def abortPlannedMoves (a : AxisData) : AxisData :=
  { a with position := a.curPosition, blocks := [] }

def planMoveTo (a : AxisData) (pos : Int) (feedRate : Nat) (endRate : Nat) : AxisData :=
  if a.blocks.length = Config.blockBufferSize then
    { a with queueFull := true, topRate := max a.topRate feedRate, misused := true }
  else if pos = a.position then
    AxisData.setEnabled { a with topRate := max a.topRate feedRate } true
  else
    AxisData.setEnabled
      { a with
        blocks := a.blocks ++ [{ steps := pos - a.position, feedRate, endRate }]
        position := pos
        topRate := max a.topRate feedRate }
      true

def planMove (a : AxisData) (delta : Int) (feedRate : Nat) (endRate : Nat) : AxisData :=
  a.planMoveTo (a.position + delta) feedRate endRate

/-- `drv.Isr`, run after steps have been executed. -/
def sampleDiag (a : AxisData) (diag : Bool) : AxisData :=
  if a.sgFilterCounter = 0 then a
  else if diag then { a with sgFilterCounter := a.sgFilterCounter - 1 }
  else if a.sgFilterCounter < a.sgFilterThreshold then
    { a with sgFilterCounter := a.sgFilterCounter + 1 }
  else a

/-- At most `n` steps of the first block, then a sample of the DIAG pin. -/
def pulse (a : AxisData) (n : Nat) (diag : Bool) : AxisData :=
  match a.blocks with
  | [] => a
  | b :: rest =>
      AxisData.sampleDiag
        { a with
          blocks :=
            if n < b.steps.natAbs then { b with steps := b.steps - b.steps.sign * n } :: rest
            else rest }
        diag

end AxisData

/-- What happens on one axis between two points of the main loop. -/
structure AxisInput where
  registers : TMCRegisters := {}
  pulses : List (Nat × Bool) := []
  deriving DecidableEq, Repr

def AxisData.tick (a : AxisData) (i : AxisInput) : AxisData :=
  i.pulses.foldl (fun a p => a.pulse p.1 p.2) { a with registers := i.registers }

end MmuFirmware
