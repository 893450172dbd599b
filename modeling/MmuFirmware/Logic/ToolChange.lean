import MmuFirmware.Logic.LoadUnload

/-!
`logic/tool_change.cpp`.
-/
namespace MmuFirmware

structure ToolChangeData where
  unl : UnloadFilament := { data := {} }
  feed : FeedToFinda := {}
  james : FeedToBondtech := {}
  plannedSlot : UInt8 := 0xff
  deriving DecidableEq, Repr

abbrev ToolChange := Command ToolChangeData

namespace ToolChange

/-- The slot is loaded to the nozzle already. -/
def nothingToDo (param : UInt8) (m : Modules) : Bool :=
  param == m.activeSlot && m.filamentLoaded == .inNozzle

def reset (c : ToolChange) (param : UInt8) (m : Modules) : Bool × ToolChange × Modules :=
  let (valid, c) := c.checkToolIndex param
  if valid = false then (false, c, m)
  else if nothingToDo param m then (true, c, m)
  else
    let m := m.setPrinterInCharge true
    let c := { c with data := { c.data with plannedSlot := param } }
    if m.filamentLoaded ≥ .inSelector then
      let (unl, m) := UnloadFilament.reset2 c.data.unl m
      (true, { c with state := .unloadingFilament, data := { c.data with unl := unl } }, m)
    else
      let m := m.setFilamentLoaded param .inSelector
      let (accepted, feed, m) := FeedToFinda.reset true m
      let c := { c with data := { c.data with feed := feed } }
      if accepted then (true, { c with state := .feedingToFinda, error := .running }, m)
      else (true, c.goToErrDisengagingIdler .findaFlickers m)

def goToFeedingToBondtech (c : ToolChange) (m : Modules) : ToolChange × Modules :=
  let (james, m) := FeedToBondtech.reset m
  ({ c with
      state := .feedingToBondtech, error := .running
      data := { c.data with james := james } }, m)

def toolChangeFinishedCorrectly (c : ToolChange) (m : Modules) : ToolChange × Modules :=
  c.finishedOK (m.activeSlotDonePrimed.setPrinterInCharge false)

def goToFeedingToFinda (c : ToolChange) (m : Modules) : ToolChange × Modules :=
  let m := m.setFilamentLoaded c.data.plannedSlot .atPulley
  let (accepted, feed, m) := FeedToFinda.reset true m
  let c :=
    { c with
      state := .feedingToFinda, error := .running, data := { c.data with feed := feed } }
  if accepted then (c, m) else c.goToErrDisengagingIdler .findaFlickers m

/-- The user asked to try again in the error state. -/
def retry (c : ToolChange) (m : Modules) : ToolChange × Modules :=
  let m := m.invalidateHoming
  if c.error = .fsensorTooEarly then (reset c m.activeSlot m).2
  else if c.error = .findaFlickers then goToFeedingToFinda c m
  else if m.finda.pressed then (reset c m.activeSlot m).2
  else goToFeedingToFinda c m

def stepInner (c : ToolChange) (m : Modules) : Bool × ToolChange × Modules :=
  match c.state with
  | .unloadingFilament =>
      let (done, unl, m) := UnloadFilament.stepInner c.data.unl m
      let c := { c with data := { c.data with unl := unl } }
      if done then (false, goToFeedingToFinda c m) else (false, c, m)
  | .feedingToFinda =>
      let (done, feed, m) := c.data.feed.step m
      let c := { c with data := { c.data with feed := feed } }
      if done then
        if feed.state = .failed then
          (false, c.goToErrDisengagingIdler .findaDidntSwitchOn m)
        else (false, goToFeedingToBondtech c m)
      else (false, c, m)
  | .feedingToBondtech =>
      let (done, james, m) := c.data.james.step m
      let c := { c with data := { c.data with james := james } }
      if done then
        match james.state with
        | .failed => (false, c.goToErrDisengagingIdler .fsensorDidntSwitchOn m)
        | .fsensorTooEarly => (false, c.goToErrDisengagingIdler .fsensorTooEarly m)
        | _ => (false, toolChangeFinishedCorrectly c m)
      else (false, c, m)
  | .ok => (true, c, m)
  | .errDisengagingIdler => (false, c.errDisengagingIdler m)
  | .errWaitingForUser =>
      let (ev, m) := m.consumeEvent
      if ev = .middle then (false, retry c m) else (false, c, m)
  | _ => c.unhandledState m

/-- `ToolChange::State`: the states of the sub-automata are shown where they matter. -/
def shownState (c : ToolChange) : ProgressCode :=
  match c.state with
  | .unloadingFilament => c.data.unl.state
  | .feedingToBondtech =>
      match c.data.james.state with
      | .pushingFilamentToFSensor => .feedingToFSensor
      | .pushingFilamentIntoNozzle => .feedingToNozzle
      | .disengagingIdler => .disengagingIdler
      | _ => c.state
  | _ => c.state

/-- `ToolChange::Error` -/
def shownError (c : ToolChange) : ErrorCode :=
  match c.state with
  | .unloadingFilament =>
      if c.data.unl.error = .ok then .running else c.data.unl.error
  | _ => c.error

end ToolChange

end MmuFirmware
