import MmuFirmware.Logic.CommandBase

/-!
The sub-automata the commands are built of: `feed_to_finda.cpp`, `feed_to_bondtech.cpp`,
`retract_from_finda.cpp` and `unload_to_finda.cpp`. A step answers whether the automaton
has finished, well or badly.
-/
namespace MmuFirmware

inductive FeedToFindaState where
  | engagingIdler | pushingFilament | pushingFilamentUnlimited | unloadBackToPTFE
  | disengagingIdler | ok | failed | stopped
  deriving DecidableEq, Repr

structure FeedToFinda where
  state : FeedToFindaState := .ok
  feedPhaseLimited : Bool := true
  deriving DecidableEq, Repr

namespace FeedToFinda

/-- Refused when the selector refuses to move; the idler is then left alone. -/
def reset (feedPhaseLimited : Bool) (m : Modules) : Bool × FeedToFinda × Modules :=
  let f : FeedToFinda := { state := .engagingIdler, feedPhaseLimited }
  let m := m.activeSlotProcessing
  let (result, m) := m.selectorMoveToSlot m.activeSlot
  if result ≠ .accepted then (false, f, m) else (true, f, m.idlerEngage m.activeSlot)

def step (f : FeedToFinda) (m : Modules) : Bool × FeedToFinda × Modules :=
  match f.state with
  | .engagingIdler =>
      if m.idler.engaged ∧ m.selector.currentSlot = m.activeSlot then
        let m := m.pulleyInitAxis
        let m := m.pulleyPlanMove Config.maximumFeedToFinda m.globals.pulleySlowFeedrate
        let (f, m) :=
          if f.feedPhaseLimited then ({ f with state := .pushingFilament }, m)
          else
            -- two moves at once make the unlimited move seamless
            ({ f with state := .pushingFilamentUnlimited },
              m.pulleyPlanMove Config.maximumFeedToFinda m.globals.pulleySlowFeedrate)
        (false, f, (m.setFilamentLoaded m.activeSlot .inSelector).clearUserInput)
      else (false, f, m)
  | .pushingFilament =>
      if m.finda.pressed then
        let m := m.abortPlannedMoves
        (true, { f with state := .ok }, m.setFilamentLoaded m.activeSlot .inSelector)
      else if m.queueEmpty then (false, { f with state := .failed }, m.activeSlotError)
      else (false, f, m)
  | .pushingFilamentUnlimited =>
      if m.finda.pressed ∨ m.userInput.anyEvent then
        let m := m.abortPlannedMoves
        let m := m.setFilamentLoaded m.activeSlot .inSelector
        (true, { f with state := if m.userInput.anyEvent then .stopped else .ok },
          m.clearUserInput)
      else if m.pulley.axis.plannedMoves < 2 then
        (false, f, m.pulleyPlanMove Config.maximumFeedToFinda m.globals.pulleySlowFeedrate)
      else (false, f, m)
  | _ => (true, f, m)

end FeedToFinda

inductive FeedToBondtechState where
  | engagingIdler | pushingFilamentFast | pushingFilamentToFSensor
  | pushingFilamentIntoNozzle | partiallyDisengagingIdler | disengagingIdler
  | ok | failed | fsensorTooEarly
  deriving DecidableEq, Repr

structure FeedToBondtech where
  state : FeedToBondtechState := .ok
  deriving DecidableEq, Repr

namespace FeedToBondtech

def reset (m : Modules) : FeedToBondtech × Modules :=
  ({ state := .engagingIdler }, m.activeSlotProcessing.idlerEngage m.activeSlot)

def goToPushToNozzle (m : Modules) : FeedToBondtech × Modules :=
  let m := m.setFilamentLoaded m.activeSlot .inFSensor
  ({ state := .pushingFilamentIntoNozzle },
    m.pulleyPlanMove (m.globals.fsensorToNozzleMm.toNat * 100) m.globals.pulleySlowFeedrate)

def step (f : FeedToBondtech) (m : Modules) : Bool × FeedToBondtech × Modules :=
  match f.state with
  | .engagingIdler =>
      if m.idler.engaged then
        let m := m.pulleyInitAxis
        let g := m.globals
        let fastFeedDistance := g.storage.bowdenLength
        let m :=
          m.pulleyPlanMove (fastFeedDistance.toNat * 100) g.pulleyLoadFeedrate
            g.pulleySlowFeedrate
        -- an additional slow move while waiting for the filament sensor
        let m :=
          m.pulleyPlanMove
            ((Config.maximumBowdenLength.toNat - fastFeedDistance.toNat : Int) * 100)
            g.pulleySlowFeedrate g.pulleySlowFeedrate
        (false, { f with state := .pushingFilamentFast }, m)
      else (false, f, m)
  | .pushingFilamentFast =>
      if m.fsensor.pressed then
        (false, { f with state := .fsensorTooEarly }, m.abortPlannedMoves)
      else if m.pulley.axis.plannedMoves = 1 then
        (false, { f with state := .pushingFilamentToFSensor }, m)
      else (false, f, m)
  | .pushingFilamentToFSensor =>
      if m.fsensor.pressed then (false, goToPushToNozzle m.abortPlannedMoves)
      else if m.queueEmpty then (false, { f with state := .failed }, m)
      else (false, f, m)
  | .pushingFilamentIntoNozzle =>
      if m.queueEmpty then
        let m := m.setFilamentLoaded m.activeSlot .inNozzle
        let m := m.idlerPartiallyDisengage m.activeSlot
        -- the pulley keeps moving, the printer grabs the filament meanwhile
        (false, { f with state := .partiallyDisengagingIdler },
          m.pulleyPlanMove Config.fsensorToNozzleAvoidGrind m.globals.pulleySlowFeedrate)
      else (false, f, m)
  | .partiallyDisengagingIdler =>
      if m.idler.partiallyDisengaged then
        let m :=
          { m with pulley := { m.pulley with axis := m.pulley.axis.abortPlannedMoves } }
        (false, { f with state := .disengagingIdler }, m.pulleyDisable.idlerDisengage)
      else (false, f, m)
  | .disengagingIdler =>
      if m.idler.disengaged then (false, { f with state := .ok }, m.activeSlotDonePrimed)
      else (false, f, m)
  | .ok | .failed | .fsensorTooEarly => (true, f, m)

end FeedToBondtech

inductive RetractFromFindaState where
  | engagingIdler | unloadBackToPTFE | ok | failed
  deriving DecidableEq, Repr

structure RetractFromFinda where
  state : RetractFromFindaState := .ok
  deriving DecidableEq, Repr

namespace RetractFromFinda

def reset (m : Modules) : RetractFromFinda × Modules :=
  ({ state := .engagingIdler }, m.activeSlotProcessing.idlerEngage m.activeSlot)

def step (f : RetractFromFinda) (m : Modules) : Bool × RetractFromFinda × Modules :=
  match f.state with
  | .engagingIdler =>
      if m.idler.engaged then
        (false, { f with state := .unloadBackToPTFE },
          m.pulleyPlanMove (-(Config.cuttingEdgeToFindaMidpoint + Config.cuttingEdgeRetract))
            m.globals.pulleyUnloadFeedrate)
      else (false, f, m)
  | .unloadBackToPTFE =>
      if m.queueEmpty then
        if m.finda.pressed = false then
          let m := m.setFilamentLoaded m.activeSlot .atPulley
          (false, { f with state := .ok }, m.activeSlotDoneEmpty)
        else (false, { f with state := .failed }, m.activeSlotError)
      else (false, f, m)
  | .ok | .failed => (true, f, m)

end RetractFromFinda

inductive UnloadToFindaState where
  | engagingIdler | unloadingToFinda | waitingForFINDA | ok | failedFINDA | failedFSensor
  deriving DecidableEq, Repr

structure UnloadToFinda where
  state : UnloadToFindaState := .ok
  maxTries : UInt8 := 3
  unloadStartMm : Int := 0
  startedMs : UInt16 := 0
  deriving DecidableEq, Repr

namespace UnloadToFinda

def reset (f : UnloadToFinda) (maxTries : UInt8) (m : Modules) : UnloadToFinda × Modules :=
  if m.finda.pressed = false then ({ f with maxTries, state := .ok }, m)
  else
    ({ f with maxTries, state := .engagingIdler, startedMs := m.millis },
      (m.idlerPartiallyDisengage m.activeSlot).activeSlotProcessing)

def step (f : UnloadToFinda) (m : Modules) : Bool × UnloadToFinda × Modules :=
  match f.state with
  | .engagingIdler =>
      if m.idler.partiallyDisengaged = false then (false, f, m)
      else if m.fsensor.pressed then
        if m.elapsed f.startedMs 4000 then (false, { f with state := .failedFSensor }, m)
        else (false, f, m)
      else if m.filamentLoaded ≥ .inSelector then
        let m := m.pulleyInitAxis
        let m := m.idlerEngage m.activeSlot
        -- a slow move helps the printer while the idler engages fully
        (false, { f with state := .unloadingToFinda },
          m.pulleyPlanMove (-Config.fsensorToNozzleAvoidGrindUnload)
            m.globals.pulleySlowFeedrate m.globals.pulleySlowFeedrate)
      else (false, { f with state := .failedFINDA }, m)
  | .unloadingToFinda =>
      if m.idler.engaged then
        let m := m.setFilamentLoaded m.activeSlot .inSelector
        (false,
          { f with state := .waitingForFINDA, unloadStartMm := m.pulley.currentPositionMm },
          m.pulleyPlanMove
            (-(Config.maximumBowdenLength.toNat * 100) - Config.feedToFinda
              - Config.filamentMinLoadedToMMU)
            m.globals.pulleyUnloadFeedrate)
      else (false, f, m)
  | .waitingForFINDA =>
      if (f.unloadStartMm - m.pulley.currentPositionMm).natAbs >
            m.globals.fsensorUnloadCheckMm.toNat ∧ m.fsensor.pressed then
        (false, { f with state := .failedFSensor }, m.abortPlannedMoves.activeSlotDoneEmpty)
      else if m.finda.pressed = false then
        (false, { f with state := .ok }, m.abortPlannedMoves.activeSlotDoneEmpty)
      else if m.queueEmpty then
        if f.maxTries - 1 ≠ 0 then
          (false,
            reset f (f.maxTries - 1)
              { m with idler := Movable.invalidateHoming m.idler })
        else (false, { f with maxTries := f.maxTries - 1, state := .failedFINDA }, m)
      else (false, f, m)
  | .ok | .failedFINDA | .failedFSensor => (true, f, m)

end UnloadToFinda

end MmuFirmware
