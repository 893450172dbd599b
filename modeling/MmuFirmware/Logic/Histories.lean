import MmuFirmware.Logic.Closure

/-!
The commands as histories of calls: a reset and a step of each, with the automata it is built
of, are sequences of calls of the modules, and so is what the base class does about failed
modules.
-/
namespace MmuFirmware

open Modules

/-- To be reached by ordinary calls lasts; the slots do not matter. -/
def Modules.Reaches.lasting (m₀ : Modules) : Lasting where
  P := m₀.Reaches ModuleCall.Ordinary
  Slot _ := True
  Place _ := True
  active _ := trivial
  tool _ := trivial
  place _ := trivial
  others h hidler hselector _ hslot hloaded hrecord :=
    h.others hidler hselector hslot hloaded hrecord
  setAllOff h := h.setLeds _
  setPair h _ _ green red := h.setLeds fun l => l.setPairButOffOthers _ green red
  setFilamentLoaded h _ _ _ hs := h.call (.setFilamentLoaded _ _) hs
  idlerEngage h _ _ := h.idlerEngage _
  idlerPartiallyDisengage h _ _ := h.call (.idler (.partiallyDisengage _)) trivial
  idlerDisengage h := h.idlerDisengage
  selectorMoveToSlot h _ _ := h.selectorMoveToSlot _
  idlerAxis h c := h.call (.idler (.axis c)) trivial
  selectorAxis h c := h.call (.selector (.axis c)) trivial
  idlerInvalidateHoming h := h.call (.idler .invalidateHoming) trivial
  selectorInvalidateHoming h := h.call (.selector .invalidateHoming) trivial
  holdIdlerSelector h := (h.call (.idler .holdOn) trivial).call (.selector .holdOn) trivial
  resumeIdlerSelector h := (h.call (.idler .resume) trivial).call (.selector .resume) trivial
  planHome {m} h axis :=
    match axis with
    | .pulley => h.pulley (m.planHome .pulley).pulley
    | .selector => h.call (.selector .planHome) trivial
    | .idler => h.call (.idler .planHome) trivial

variable {m₀ m : Modules}

theorem CommandId.reaches_reset (h : m₀.Reaches ModuleCall.Ordinary m) (id : CommandId)
    (c : id.Object) (param : UInt8) :
    m₀.Reaches ModuleCall.Ordinary (id.reset c param m).2.2 := by
  refine has_reset (L := Reaches.lasting m₀) h id c ?_
  cases id <;> trivial

theorem CommandId.reaches_stepInner (h : m₀.Reaches ModuleCall.Ordinary m) (id : CommandId)
    (c : id.Object) : m₀.Reaches ModuleCall.Ordinary (id.stepInner c m).2.2 := by
  refine has_stepInner (L := Reaches.lasting m₀) h id ?_
  cases id with
  | cutFilament => exact ⟨trivial, trivial⟩
  | moveSelector => exact fun _ _ => trivial
  | toolChange => exact fun _ => trivial
  | startUp | noCommand | ejectFilament | home | loadFilament | setMode | unloadFilament => trivial

theorem Running.reaches_step (id : CommandId) (r : Running id.Data)
    (h : m₀.Reaches ModuleCall.Ordinary r.modules) :
    m₀.Reaches ModuleCall.Ordinary (r.step id.stepInner).2.modules := by
  have hwait := r.has_waitForModules (L := Reaches.lasting m₀) h
  rw [step]
  dsimp only
  split
  · exact hwait
  · exact CommandId.reaches_stepInner hwait id _

end MmuFirmware
