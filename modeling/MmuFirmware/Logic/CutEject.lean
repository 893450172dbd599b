import MmuFirmware.Logic.LoadUnload

/-!
`logic/cut_filament.cpp` and `logic/eject_filament.cpp`.
-/
namespace MmuFirmware

structure CutFilamentData where
  unl : UnloadFilament := { data := {} }
  feed : FeedToFinda := {}
  retract : RetractFromFinda := {}
  cutSlot : UInt8 := 0
  savedSelectorFeedRate : UInt16 := 0
  deriving DecidableEq, Repr

abbrev CutFilament := Command CutFilamentData

namespace CutFilament

def moveSelector (c : CutFilament) (slot : UInt8) (m : Modules) : CutFilament × Modules :=
  let (result, m) := m.selectorMoveToSlot slot
  if result ≠ .accepted then c.goToErrDisengagingIdler .findaFlickers m else (c, m)

def selectFilamentSlot (c : CutFilament) (m : Modules) : CutFilament × Modules :=
  let slot := c.data.cutSlot
  let m := m.idlerEngage slot
  let (c, m) := moveSelector { c with state := .selectingFilamentSlot } slot m
  (c, m.setLeds fun l => l.setPairButOffOthers slot .blink0 .off)

def reset (c : CutFilament) (param : UInt8) (m : Modules) : Bool × CutFilament × Modules :=
  let (valid, c) := c.checkToolIndex param
  if valid = false then (false, c, m)
  else
    let c := { c with error := .running, data := { c.data with cutSlot := param } }
    if m.filamentLoaded ≥ .inSelector then
      let (unl, m) := UnloadFilament.reset c.data.unl m
      (true, { c with state := .unloadingFilament, data := { c.data with unl := unl } }, m)
    else (true, selectFilamentSlot c m)

def stepInner (c : CutFilament) (m : Modules) : Bool × CutFilament × Modules :=
  match c.state with
  | .unloadingFilament =>
      let (done, unl, m) := UnloadFilament.stepInner c.data.unl m
      let c := { c with data := { c.data with unl := unl } }
      if done then (false, selectFilamentSlot c m) else (false, c, m)
  | .selectingFilamentSlot =>
      if m.idler.engaged ∧ m.selector.currentSlot = c.data.cutSlot then
        let m := m.setFilamentLoaded c.data.cutSlot .atPulley
        let (accepted, feed, m) := FeedToFinda.reset true m
        let c := { c with data := { c.data with feed := feed } }
        if accepted then (false, { c with state := .feedingToFinda, error := .running }, m)
        else (false, c.goToErrDisengagingIdler .findaFlickers m)
      else (false, c, m)
  | .feedingToFinda =>
      let (done, feed, m) := c.data.feed.step m
      let c := { c with data := { c.data with feed := feed } }
      if done then
        if feed.state = .failed then
          (false, c.goToErrDisengagingIdler .findaDidntSwitchOn m)
        else
          let (retract, m) := RetractFromFinda.reset m
          (false,
            { c with
              state := .retractingFromFinda, data := { c.data with retract := retract } }, m)
      else (false, c, m)
  | .retractingFromFinda =>
      let (done, retract, m) := c.data.retract.step m
      let c := { c with data := { c.data with retract := retract } }
      if done then
        if retract.state = .failed then
          (false, c.goToErrDisengagingIdler .findaDidntSwitchOff m)
        else
          let m := m.setFilamentLoaded c.data.cutSlot .atPulley
          (false,
            moveSelector { c with state := .preparingBlade } (c.data.cutSlot + 1)
              m.activeSlotProcessing)
      else (false, c, m)
  | .preparingBlade =>
      if m.selector.currentSlot.toNat = c.data.cutSlot.toNat + 1 then
        (false, { c with state := .pushingFilament },
          m.pulleyPlanMove (m.globals.cutLengthMm.toNat * 100 + Config.cuttingEdgeRetract)
            m.globals.pulleySlowFeedrate)
      else (false, c, m)
  | .pushingFilament =>
      if m.queueEmpty then
        -- the cut needs the power for the selector motor
        (false, { c with state := .disengagingIdler }, m.idlerDisengage)
      else (false, c, m)
  | .disengagingIdler =>
      if m.idler.disengaged then
        let m :=
          { m with selector := { m.selector with axis := m.selector.axis.initAxis.2 } }
        let g := m.globals
        let data := { c.data with savedSelectorFeedRate := g.selectorFeedrate }
        (false,
          moveSelector { c with state := .performingCut, data } c.data.cutSlot
            { m with globals := { g with selectorFeedrate := g.selectorHomingFeedrate } })
      else (false, c, m)
  | .performingCut =>
      if m.selector.currentSlot = c.data.cutSlot then
        let axis := m.selector.axis.initAxis.2
        let m :=
          { m with
            globals := { m.globals with selectorFeedrate := c.data.savedSelectorFeedRate }
            selector := Movable.invalidateHoming { m.selector with axis } }
        (false, { c with state := .homing },
          m.pulleyPlanMove (-Config.cuttingEdgeRetract) m.globals.pulleySlowFeedrate)
      else (false, c, m)
  | .homing =>
      (false, if m.selector.homingValid then { c with state := .returningSelector } else c, m)
  | .returningSelector =>
      if m.selector.isIn .ready then
        let (c, m) := c.finishedOK m
        (false, c, m.activeSlotDonePrimed)
      else (false, c, m)
  | .ok => (true, c, m)
  | .errDisengagingIdler => (false, c.errDisengagingIdler m)
  | .errWaitingForUser =>
      let (ev, m) := m.consumeEvent
      if ev = .middle then (false, (reset c c.data.cutSlot m.invalidateHoming).2)
      else (false, c, m)
  | _ => c.unhandledState m

/-- `CutFilament::State` -/
def shownState (c : CutFilament) : ProgressCode :=
  if c.state = .unloadingFilament then c.data.unl.state else c.state

/-- `CutFilament::Error` -/
def shownError (c : CutFilament) : ErrorCode :=
  if c.state = .unloadingFilament then c.data.unl.error else c.error

end CutFilament

structure EjectFilamentData where
  unl : UnloadFilament := { data := {} }
  slot : UInt8 := 0
  deriving DecidableEq, Repr

abbrev EjectFilament := Command EjectFilamentData

namespace EjectFilament

/-- The place the selector goes to for an eject, at the other end of its way. -/
def parkedPos (slot : UInt8) : UInt8 := if slot ≤ 2 then 4 else 0

def moveSelectorAside (c : EjectFilament) (m : Modules) : EjectFilament × Modules :=
  let c := { c with state := .parkingSelector, error := .running }
  let selectorParkedPos : UInt8 := if c.data.slot ≤ 2 then 4 else 0
  let (result, m) := m.selectorMoveToSlot selectorParkedPos
  if result = .refused then c.goToErrDisengagingIdler .findaFlickers m else (c, m)

def reset (c : EjectFilament) (param : UInt8) (m : Modules) : Bool × EjectFilament × Modules :=
  let (valid, c) := c.checkToolIndex param
  if valid = false then (false, c, m)
  else
    let c := { c with error := .running, data := { c.data with slot := param } }
    if m.filamentLoaded ≥ .atPulley then
      let (unl, m) := UnloadFilament.reset c.data.unl m
      (true, { c with state := .unloadingFilament, data := { c.data with unl := unl } }, m)
    else (true, moveSelectorAside c m)

def stepInner (c : EjectFilament) (m : Modules) : Bool × EjectFilament × Modules :=
  match c.state with
  | .unloadingFilament =>
      let (done, unl, m) := UnloadFilament.stepInner c.data.unl m
      let c := { c with data := { c.data with unl := unl } }
      if done then (false, moveSelectorAside c m) else (false, c, m)
  | .parkingSelector =>
      if m.queueEmpty then
        (false, { c with state := .engagingIdler }, m.idlerEngage c.data.slot)
      else (false, c, m)
  | .engagingIdler =>
      if m.idler.engaged then
        let m := m.pulleyInitAxis
        (false, { c with state := .ejectingFilament },
          m.pulleyPlanMove Config.ejectFromCuttingEdge m.globals.pulleySlowFeedrate)
      else (false, c, m)
  | .ejectingFilament =>
      if m.queueEmpty then (false, c.goToErrDisengagingIdler .filamentEjected m)
      else (false, c, m)
  | .errDisengagingIdler => (false, c.errDisengagingIdler m)
  | .errWaitingForUser =>
      let (ev, m) := m.consumeEvent
      if ev = .middle then
        let m := m.resumeIdlerSelector
        if c.error = .filamentEjected then
          (false, c.finishedOK (m.setLeds LEDs.setAllOff))
        else if c.error = .findaFlickers then (false, moveSelectorAside c m)
        else (false, c, m)
      else (false, c, m)
  | .ok => (true, c, m)
  | _ => c.unhandledState m

/-- `EjectFilament::State` -/
def shownState (c : EjectFilament) : ProgressCode :=
  if c.state = .unloadingFilament then c.data.unl.state else c.state

/-- `EjectFilament::Error` -/
def shownError (c : EjectFilament) : ErrorCode :=
  if c.state = .unloadingFilament then c.data.unl.error else c.error

end EjectFilament

end MmuFirmware
