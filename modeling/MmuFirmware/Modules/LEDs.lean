import MmuFirmware.Modules.Config

/-!
`modules/leds.cpp`: a red and a green LED for each slot. A write behind the array is
recorded instead of corrupting memory, and so is a pair asked for that is not one of a slot.
-/
namespace MmuFirmware

inductive LEDMode where
  | off | on | blink0 | blink1
  deriving DecidableEq, Repr

inductive LEDColor where
  | red | green
  deriving DecidableEq, Repr

structure LED where
  on : Bool := false
  mode : LEDMode := .off
  deriving DecidableEq, Repr

namespace LED

def setMode (led : LED) (mode : LEDMode) : LED :=
  match mode with
  | .blink1 | .off => { led with mode, on := false }
  | .blink0 | .on => { led with mode, on := true }

def step (led : LED) (oddPeriod : Bool) : LED :=
  match led.mode with
  | .blink0 => { led with on := oddPeriod }
  | .blink1 => { led with on := !oddPeriod }
  | _ => led

end LED

structure LEDs where
  leds : List LED := List.replicate (2 * Config.toolCount.toNat) {}
  /-- Some write had an index behind the array. -/
  overrun : Bool := false
  /-- Some `SetPairButOffOthers` was called for a slot that does not exist. -/
  misplaced : Bool := false
  deriving DecidableEq, Repr

namespace LEDs

def setModeAt (l : LEDs) (index : Nat) (mode : LEDMode) : LEDs :=
  if h : index < l.leds.length then
    { l with leds := l.leds.set index ((l.leds.get ⟨index, h⟩).setMode mode) }
  else { l with overrun := true }

def setMode (l : LEDs) (slot : UInt8) (color : LEDColor) (mode : LEDMode) : LEDs :=
  l.setModeAt (slot * 2 + UInt8.ofNat color.ctorIdx).toNat mode

@[irreducible] def setAllOff (l : LEDs) : LEDs :=
  [0, 1, 2, 3, 4].foldl (fun l i => (l.setMode i .green .off).setMode i .red .off) l

@[irreducible] def setPairButOffOthers (l : LEDs) (activeSlot : UInt8)
    (greenMode redMode : LEDMode) : LEDs :=
  let l := (l.setAllOff.setMode activeSlot .green greenMode).setMode activeSlot .red redMode
  { l with misplaced := l.misplaced || activeSlot ≥ Config.toolCount }

/-- Both LEDs of every slot blink: the picture of a panic. -/
@[irreducible] def setAllBlinking (l : LEDs) : LEDs :=
  [0, 1, 2, 3, 4].foldl (fun l i => (l.setMode i .green .blink0).setMode i .red .blink0) l

@[irreducible] def step (l : LEDs) (millis : UInt16) : LEDs :=
  let oddPeriod := millis / (Config.ledBlinkPeriodMs / 2) &&& 1 != 0
  { l with leds := l.leds.map fun led => led.step oddPeriod }

/-- Every pair that was asked for is one of a slot, and no write went behind the array. -/
structure Sound (l : LEDs) : Prop where
  length : l.leds.length = 2 * Config.toolCount.toNat
  overrun : l.overrun = false
  misplaced : l.misplaced = false

namespace Sound

variable {l : LEDs} (h : l.Sound)
include h

theorem setMode {slot : UInt8} (hslot : slot < Config.toolCount) (color : LEDColor)
    (mode : LEDMode) : (l.setMode slot color mode).Sound := by
  have hindex : (slot * 2 + UInt8.ofNat color.ctorIdx).toNat < l.leds.length := by
    rw [h.length]
    rw [UInt8.lt_iff_toNat_lt] at hslot
    cases color <;> simp [Config.toolCount, LEDColor.ctorIdx, UInt8.toNat_add, UInt8.toNat_mul] at hslot ⊢ <;>
      omega
  rw [LEDs.setMode, setModeAt, dif_pos hindex]
  exact ⟨(List.length_set ..).trans h.length, h.overrun, h.misplaced⟩

theorem foldl {α : Type} (f : LEDs → α → LEDs) (as : List α)
    (hf : ∀ l, l.Sound → ∀ a ∈ as, (f l a).Sound) : (as.foldl f l).Sound := by
  induction as generalizing l with
  | nil => exact h
  | cons a as ih =>
      exact ih (hf l h a List.mem_cons_self) fun l hl a' ha' => hf l hl a' (List.mem_cons_of_mem a ha')

theorem setBoth {slot : UInt8} (hslot : slot < Config.toolCount) (mode : LEDMode) :
    ((l.setMode slot .green mode).setMode slot .red mode).Sound :=
  (h.setMode hslot _ _).setMode hslot _ _

omit h in
theorem tool_of_mem {slot : UInt8} (hslot : slot ∈ [0, 1, 2, 3, 4]) : slot < Config.toolCount := by
  simp only [List.mem_cons, List.not_mem_nil, or_false] at hslot
  rcases hslot with rfl | rfl | rfl | rfl | rfl <;> decide

theorem setAllOff : l.setAllOff.Sound := by
  unfold LEDs.setAllOff
  exact h.foldl _ _ fun l hl slot hslot => hl.setBoth (tool_of_mem hslot) _

theorem setAllBlinking : l.setAllBlinking.Sound := by
  unfold LEDs.setAllBlinking
  exact h.foldl _ _ fun l hl slot hslot => hl.setBoth (tool_of_mem hslot) _

theorem setPairButOffOthers {activeSlot : UInt8} (hslot : activeSlot < Config.toolCount)
    (greenMode redMode : LEDMode) : (l.setPairButOffOthers activeSlot greenMode redMode).Sound := by
  have hpair := (h.setAllOff.setMode hslot .green greenMode).setMode hslot .red redMode
  unfold LEDs.setPairButOffOthers
  refine ⟨hpair.length, hpair.overrun, ?_⟩
  show (LEDs.misplaced _ || decide (activeSlot ≥ Config.toolCount)) = false
  rw [hpair.misplaced, decide_eq_false (UInt8.not_le.mpr hslot)]
  rfl

theorem step (millis : UInt16) : (l.step millis).Sound := by
  unfold LEDs.step
  exact ⟨(List.length_map ..).trans h.length, h.overrun, h.misplaced⟩

end Sound

end LEDs

end MmuFirmware
