import MmuFirmware.Logic.FeedMachines

/-!
`logic/load_filament.cpp` and `logic/unload_filament.cpp`.
-/
namespace MmuFirmware

structure LoadFilamentData where
  feed : FeedToFinda := {}
  retract : RetractFromFinda := {}
  verifyLoadedFilament : UInt8 := 0
  result : ResultCode := .ok
  deriving DecidableEq, Repr

abbrev LoadFilament := Command LoadFilamentData

namespace LoadFilament

def reset2 (c : LoadFilament) (feedPhaseLimited : Bool) (m : Modules) :
    LoadFilament × Modules :=
  let (accepted, feed, m) := FeedToFinda.reset feedPhaseLimited m
  let c :=
    { c with
      state := .feedingToFinda, error := .running, data := { c.data with feed := feed } }
  if accepted then (c, m)
  else c.goToErrDisengagingIdler .findaFlickers m

def reset (c : LoadFilament) (param : UInt8) (m : Modules) : Bool × LoadFilament × Modules :=
  let c := { c with data := { c.data with result := .ok } }
  let (valid, c) := c.checkToolIndex param
  if valid = false then (false, c, m)
  else if m.filamentLoaded > .inSelector then (false, c, m)
  -- a filament in the selector may only be the one of this very slot
  else if m.filamentLoaded > .atPulley ∧ m.activeSlot ≠ param then (false, c, m)
  else
    let m := m.setFilamentLoaded param .atPulley
    let c := { c with data := { c.data with verifyLoadedFilament := 1 } }
    (true, reset2 c false m)

def resetLimited (c : LoadFilament) (param : UInt8) (m : Modules) : LoadFilament × Modules :=
  let (valid, c) := c.checkToolIndex param
  if valid = false then (c, m)
  else reset2 c true (m.setFilamentLoaded param .atPulley)

def goToRetractingFromFinda (c : LoadFilament) (m : Modules) : LoadFilament × Modules :=
  let (retract, m) := RetractFromFinda.reset m
  ({ c with
      state := .retractingFromFinda, error := .running
      data := { c.data with retract := retract } }, m)

def loadFinishedCorrectly (c : LoadFilament) (m : Modules) : LoadFilament × Modules :=
  let (c, m) := c.finishedOK m
  (c, (m.setLeds LEDs.setAllOff).pulleyDisable)

def stepInner (c : LoadFilament) (m : Modules) : Bool × LoadFilament × Modules :=
  match c.state with
  | .feedingToFinda =>
      let (done, feed, m) := c.data.feed.step m
      let c := { c with data := { c.data with feed := feed } }
      if done then
        match feed.state with
        | .failed => (false, c.goToErrDisengagingIdler .findaDidntSwitchOn m)
        | .stopped =>
            -- an unsuccessful feed is retracted as well but not checked again
            let data := { c.data with result := .cancelled, verifyLoadedFilament := 0 }
            (false, goToRetractingFromFinda { c with data } m)
        | .ok => (false, goToRetractingFromFinda c m)
        | _ => (false, c, m)
      else (false, c, m)
  | .retractingFromFinda =>
      let (done, retract, m) := c.data.retract.step m
      let c := { c with data := { c.data with retract := retract } }
      if done then
        if retract.state = .failed then
          (false, c.goToErrDisengagingIdler .findaDidntSwitchOff m)
        else if c.data.verifyLoadedFilament ≠ 0 then
          let data := { c.data with verifyLoadedFilament := c.data.verifyLoadedFilament - 1 }
          (false, resetLimited { c with data } m.activeSlot m)
        else (false, { c with state := .disengagingIdler }, m.idlerDisengage)
      else (false, c, m)
  | .disengagingIdler =>
      -- the selector may be rehoming after an error
      if m.idler.disengaged ∧ m.selector.currentSlot = m.activeSlot then
        (false, loadFinishedCorrectly c m)
      else (false, c, m)
  | .ok => (true, c, m)
  | .errDisengagingIdler => (false, c.errDisengagingIdler m)
  | .errWaitingForUser =>
      let (ev, m) := m.consumeEvent
      if ev = .middle then
        let m := m.resumeIdlerSelector
        if m.finda.pressed = false then (false, reset2 c false m)
        else (false, goToRetractingFromFinda c m)
      else (false, c, m)
  | _ => c.unhandledState m

end LoadFilament

structure UnloadFilamentData where
  unl : UnloadToFinda := {}
  feed : FeedToFinda := {}
  retract : RetractFromFinda := {}
  skipDisengagingIdler : Bool := false
  deriving DecidableEq, Repr

abbrev UnloadFilament := Command UnloadFilamentData

namespace UnloadFilament

def maxRetries : UInt8 := 1

/-- Nothing to unload as far as FINDA and the record tell. -/
def nothingLoaded (m : Modules) : Bool := !m.finda.pressed && m.filamentLoaded < .inSelector

def reset (c : UnloadFilament) (m : Modules) : UnloadFilament × Modules :=
  if nothingLoaded m then (c, m)
  else
    let m := m.pulleyInitAxis
    let (unl, m) := c.data.unl.reset maxRetries m
    ({ c with
        state := .unloadingToFinda, error := .running
        data := { c.data with skipDisengagingIdler := false, unl := unl } }, m)

def reset2 (c : UnloadFilament) (m : Modules) : UnloadFilament × Modules :=
  let (c, m) := reset c m
  ({ c with data := { c.data with skipDisengagingIdler := true } }, m)

def unloadFinishedCorrectly (c : UnloadFilament) (m : Modules) : UnloadFilament × Modules :=
  let (c, m) := c.finishedOK m
  let m := m.pulleyDisable
  (c, (m.setFilamentLoaded m.activeSlot .atPulley).setLeds LEDs.setAllOff)

def goToRetractingFromFinda (c : UnloadFilament) (m : Modules) : UnloadFilament × Modules :=
  let (retract, m) := RetractFromFinda.reset m
  ({ c with state := .retractingFromFinda, data := { c.data with retract := retract } }, m)

def goToRecheckFilamentAgainstFINDA (c : UnloadFilament) (m : Modules) :
    UnloadFilament × Modules :=
  let (accepted, feed, m) := FeedToFinda.reset true m
  let c := { c with data := { c.data with feed := feed } }
  if accepted then ({ c with state := .feedingToFinda, error := .running }, m)
  else c.goToErrDisengagingIdler .findaFlickers m

def stepInner (c : UnloadFilament) (m : Modules) : Bool × UnloadFilament × Modules :=
  match c.state with
  | .unloadingToFinda =>
      let (done, unl, m) := c.data.unl.step m
      let c := { c with data := { c.data with unl := unl } }
      if done then
        if unl.state = .failedFINDA then
          (false, c.goToErrDisengagingIdler .findaDidntSwitchOff m)
        else if unl.state = .failedFSensor then
          (false, c.goToErrDisengagingIdler .fsensorDidntSwitchOff m)
        else (false, goToRetractingFromFinda c m)
      else (false, c, m)
  | .retractingFromFinda =>
      let (done, retract, m) := c.data.retract.step m
      let c := { c with data := { c.data with retract := retract } }
      if done then
        if retract.state = .failed then
          (false, c.goToErrDisengagingIdler .findaDidntSwitchOff m)
        else
          let c := { c with state := .disengagingIdler }
          -- the tool change goes on with an engaged idler
          if c.data.skipDisengagingIdler ∧ m.selector.isIn .ready then
            (false, unloadFinishedCorrectly c m)
          else (false, c, m.idlerDisengage)
      else (false, c, m)
  | .disengagingIdler =>
      if m.idler.disengaged ∧ m.selector.isIn .ready then
        (false, unloadFinishedCorrectly c m)
      else (false, c, m)
  | .errDisengagingIdler => (false, c.errDisengagingIdler m)
  | .errWaitingForUser =>
      let (ev, m) := m.consumeEvent
      if ev = .middle then
        let m := m.invalidateHoming
        if m.finda.pressed then (false, reset c m)
        else if m.fsensor.pressed then (false, c, m)
        else (false, goToRecheckFilamentAgainstFINDA c m)
      else (false, c, m)
  | .feedingToFinda =>
      let (done, feed, m) := c.data.feed.step m
      let c := { c with data := { c.data with feed := feed } }
      if done then
        if feed.state = .failed then
          (false, c.goToErrDisengagingIdler .findaDidntSwitchOn m)
        else (false, goToRetractingFromFinda c m)
      else (false, c, m)
  | .ok => (true, c, m)
  | _ => c.unhandledState m

end UnloadFilament

end MmuFirmware
