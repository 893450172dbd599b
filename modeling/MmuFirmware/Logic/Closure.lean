import MmuFirmware.Logic.Durable

/-!
Properties of the modules that last whatever the speeds are and whatever the pulley does: they
ask nothing of the operations but the slots they are given.
-/
namespace MmuFirmware

namespace Modules

/-- A property the operations of the logic preserve, as long as the slots they show and record are
in `Slot` and those they move to in `Place`. -/
structure Lasting where
  P : Modules → Prop
  Slot : UInt8 → Prop
  Place : UInt8 → Prop
  active : ∀ {m : Modules}, P m → Slot m.activeSlot
  tool : ∀ {slot : UInt8}, slot < Config.toolCount → Slot slot
  place : ∀ {slot : UInt8}, Slot slot → Place slot
  others : ∀ {m m' : Modules}, P m → m'.idler = m.idler → m'.selector = m.selector →
    m'.leds = m.leds → m'.globals.activeSlot = m.globals.activeSlot →
    m'.globals.filamentLoaded = m.globals.filamentLoaded →
    m'.globals.storage.filamentLoaded = m.globals.storage.filamentLoaded → P m'
  setAllOff : ∀ {m : Modules}, P m → P (m.setLeds LEDs.setAllOff)
  setPair : ∀ {m : Modules}, P m → ∀ {slot : UInt8}, Slot slot → ∀ green red : LEDMode,
    P (m.setLeds fun l => l.setPairButOffOthers slot green red)
  setFilamentLoaded : ∀ {m : Modules}, P m → ∀ {slot : UInt8}, Slot slot →
    ∀ {s : FilamentLoadState}, s ∈ FilamentLoadState.named → P (m.setFilamentLoaded slot s)
  idlerEngage : ∀ {m : Modules}, P m → ∀ {slot : UInt8}, Place slot → P (m.idlerEngage slot)
  idlerPartiallyDisengage : ∀ {m : Modules}, P m → ∀ {slot : UInt8}, Place slot →
    P (m.idlerPartiallyDisengage slot)
  idlerDisengage : ∀ {m : Modules}, P m → P m.idlerDisengage
  selectorMoveToSlot : ∀ {m : Modules}, P m → ∀ {slot : UInt8}, Place slot →
    P (m.selectorMoveToSlot slot).2
  idlerAxis : ∀ {m : Modules}, P m → ∀ c : AxisCall,
    P { m with idler := { m.idler with axis := c.run m.idler.axis } }
  selectorAxis : ∀ {m : Modules}, P m → ∀ c : AxisCall,
    P { m with selector := { m.selector with axis := c.run m.selector.axis } }
  idlerInvalidateHoming : ∀ {m : Modules}, P m →
    P { m with idler := Movable.invalidateHoming m.idler }
  selectorInvalidateHoming : ∀ {m : Modules}, P m →
    P { m with selector := Movable.invalidateHoming m.selector }
  holdIdlerSelector : ∀ {m : Modules}, P m → P m.holdIdlerSelector
  resumeIdlerSelector : ∀ {m : Modules}, P m → P m.resumeIdlerSelector
  planHome : ∀ {m : Modules}, P m → ∀ axis : Axis, P (m.planHome axis)

def Has (m : Modules) (L : Lasting) : Prop := L.P m

/-- What lasts whatever the speeds are, as what lasts for some speeds. -/
def Lasting.durable (L : Lasting) : Durable where
  P := L.P
  Slot := L.Slot
  Place := L.Place
  Feed _ := True
  Rate _ := True
  active := L.active
  tool := L.tool
  place := L.place
  slowFeed _ := trivial
  loadFeed _ := trivial
  unloadFeed _ := trivial
  others h hidler hselector _ hleds hslot hloaded hrecord _ :=
    L.others h hidler hselector hleds hslot hloaded hrecord
  setAllOff := L.setAllOff
  setPair := L.setPair
  setFilamentLoaded := L.setFilamentLoaded
  idlerEngage := L.idlerEngage
  idlerPartiallyDisengage := L.idlerPartiallyDisengage
  idlerDisengage := L.idlerDisengage
  selectorMoveToSlot := L.selectorMoveToSlot
  pulleyPlanMove h _ _ _ _ := L.others h rfl rfl rfl rfl rfl rfl
  pulleyDisable h := L.others h rfl rfl rfl rfl rfl rfl
  idlerAxis := L.idlerAxis
  selectorAxis := L.selectorAxis
  pulleyAxis h _ := L.others h rfl rfl rfl rfl rfl rfl
  selectorFeedrate h _ _ := L.others h rfl rfl rfl rfl rfl rfl
  idlerInvalidateHoming := L.idlerInvalidateHoming
  selectorInvalidateHoming := L.selectorInvalidateHoming
  holdIdlerSelector := L.holdIdlerSelector
  resumeIdlerSelector := L.resumeIdlerSelector
  planHome := L.planHome

end Modules

namespace CommandId

/-- The slots a step of a command goes to or records are in their sets. -/
def SlotsIn (L : Modules.Lasting) : (id : CommandId) → id.Object → Modules → Prop
  | .startUp, _, _ => L.Slot Config.toolCount
  | .moveSelector, c, m =>
      c.state = .movingSelector → m.selector.isIn .ready → L.Slot m.selector.currentSlot
  | .toolChange, c, m => ToolChange.feedsPlanned c m → L.Slot c.data.plannedSlot
  | .cutFilament, c, _ => L.Slot c.data.cutSlot ∧ L.Place (c.data.cutSlot + 1)
  | .ejectFilament, c, _ => L.Place c.data.slot
  | .noCommand, _, _ | .home, _, _ | .loadFilament, _, _ | .setMode, _, _
  | .unloadFilament, _, _ => True

/-- The parameters of a start are, where it does not check them itself. -/
def ParamIn (L : Modules.Lasting) : CommandId → UInt8 → Prop
  | .startUp, _ => L.Slot Config.toolCount
  | .moveSelector, param => L.Place param
  | .noCommand, _ | .cutFilament, _ | .ejectFilament, _ | .home, _ | .loadFilament, _
  | .setMode, _ | .toolChange, _ | .unloadFilament, _ => True

variable {L : Modules.Lasting} {m : Modules} (h : m.Has L)
include h

theorem has_reset (id : CommandId) (c : id.Object) {param : UInt8} (hparam : id.ParamIn L param) :
    (id.reset c param m).2.2.Has L := by
  refine holds_reset (D := L.durable) h id c ?_
  cases id <;> exact hparam

theorem has_stepInner (id : CommandId) {c : id.Object} (hslots : id.SlotsIn L c m) :
    (id.stepInner c m).2.2.Has L := by
  refine holds_stepInner (D := L.durable) h id ?_
  cases id with
  | cutFilament => exact ⟨hslots, fun _ => trivial, fun _ => trivial⟩
  | startUp | noCommand | ejectFilament | home | loadFilament | moveSelector | setMode | toolChange
  | unloadFilament => exact hslots

end CommandId

theorem Running.has_waitForModules {δ : Type} (r : Running δ) {L : Modules.Lasting}
    (h : r.modules.Has L) : r.waitForModulesErrorRecovery.2.modules.Has L :=
  r.holds_waitForModules (D := L.durable) h

end MmuFirmware
