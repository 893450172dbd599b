import MmuFirmware.Modules.Debouncer

/-!
`modules/user_input.cpp`: the queue of button events and who may consume them. An event is
a byte: the index of a button, with the top bit set when the printer sent it.
-/
namespace MmuFirmware

abbrev Event := UInt8

namespace Event

def right : Event := 0
def middle : Event := 1
def left : Event := 2
def noEvent : Event := 0x7f
def fromPrinter : Event := 0x80

def isFromPrinter (e : Event) : Bool := e &&& fromPrinter != 0

def stripFromPrinterBit (e : Event) : Event := e &&& ~~~fromPrinter

end Event

structure UserInput where
  eventQueue : List Event := []
  printerInCharge : Bool := false
  /-- One bit per button. -/
  lastButtonStates : UInt8 := 0
  deriving DecidableEq, Repr

namespace UserInput

def anyEvent (u : UserInput) : Bool := !u.eventQueue.isEmpty

/-- `eventQueue.push`: a full buffer drops the event. -/
def push (u : UserInput) (e : Event) : UserInput :=
  if u.eventQueue.length < 4 then { u with eventQueue := u.eventQueue ++ [e] } else u

def processMessage (u : UserInput) (ev : UInt8) : UserInput :=
  u.push (ev ||| Event.fromPrinter)

def lastButtonState (u : UserInput) (button : UInt8) : Bool :=
  u.lastButtonStates &&& (1 <<< button) != 0

def flipLastButtonState (u : UserInput) (button : UInt8) : UserInput :=
  { u with lastButtonStates := u.lastButtonStates ^^^ (1 <<< button) }

def stepOneButton (u : UserInput) (buttons : Buttons) (button : UInt8) : UserInput :=
  let press := buttons.buttonPressed button.toNat
  if press != u.lastButtonState button then
    (if press then u.push button else u).flipLastButtonState button
  else u

/-- The buttons are visited from the last to the first. -/
def step (u : UserInput) (buttons : Buttons) : UserInput :=
  [2, 1, 0].foldl (fun u button => u.stepOneButton buttons button) u

def consumeEvent (u : UserInput) : Event × UserInput :=
  match u.eventQueue with
  | [] => (.noEvent, u)
  | e :: rest =>
      if u.printerInCharge && !e.isFromPrinter then (.noEvent, u)
      else (e.stripFromPrinterBit, { u with eventQueue := rest })

def consumeEventForPrinter (u : UserInput) : Event × UserInput :=
  match u.eventQueue with
  | [] => (.noEvent, u)
  | e :: rest =>
      if e.isFromPrinter then (.noEvent, u)
      else (e.stripFromPrinterBit, { u with eventQueue := rest })

def clear (u : UserInput) : UserInput := { u with eventQueue := [] }

def setPrinterInCharge (u : UserInput) (pc : Bool) : UserInput :=
  { u with printerInCharge := pc }

end UserInput

end MmuFirmware
