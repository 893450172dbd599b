import MmuFirmware.Hal.Shr16
import MmuFirmware.Modules.LEDs
import MmuFirmware.Lib.Refinement

/-!
What the shift registers put out over a whole run: each LED shines as its mode and the time of
the last step ask for, each driver is enabled and turned as it was last told, and neither a LED
nor a driver is disturbed by what is done to the others.
-/
namespace MmuFirmware

/-- `LEDs::Step` packs the LEDs, the first one highest. -/
def LEDs.packed (l : LEDs) : BitVec 16 :=
  l.leds.foldl (fun result led => result <<< 1 ||| (BitVec.ofBool led.on).setWidth 16) 0

/-- The LEDs with `cachedState`, and the shift registers. -/
structure Outputs (χ : Type*) where
  leds : LEDs := {}
  cachedState : BitVec 16 := 0
  shr16 : SHR16 χ

namespace Outputs

inductive Op where
  | setMode (slot : UInt8) (color : LEDColor) (mode : LEDMode)
  | setAllOff
  | setPairButOffOthers (activeSlot : UInt8) (greenMode redMode : LEDMode)
  | step (millis : UInt16)
  | setTMCEnabled (axis : Axis) (ena : Bool)
  | setTMCDir (axis : Axis) (dir : Bool)
  deriving DecidableEq, Repr

/-- Only the pairs of slots have LEDs. -/
def Op.Permits : Op → Prop
  | .setMode slot _ _ | .setPairButOffOthers slot _ _ => slot < Config.toolCount
  | _ => True

instance : DecidablePred Op.Permits
  | .setMode slot _ _ | .setPairButOffOthers slot _ _ =>
      inferInstanceAs (Decidable (slot < Config.toolCount))
  | .setAllOff | .step _ | .setTMCEnabled _ _ | .setTMCDir _ _ => inferInstanceAs (Decidable True)

section Perform

variable {χ : Type*} (m : SHR16.Chain χ)

/-- The registers are only written if some LED changed. -/
def step (p : Outputs χ) (millis : UInt16) : Outputs χ :=
  let leds := p.leds.step millis
  let result := leds.packed
  if result ≠ p.cachedState then
    { leds := leds, cachedState := result, shr16 := p.shr16.setLED m result }
  else { p with leds := leds }

def perform (p : Outputs χ) : Op → Outputs χ × Unit
  | .setMode slot color mode => ({ p with leds := p.leds.setMode slot color mode }, ())
  | .setAllOff => ({ p with leds := p.leds.setAllOff }, ())
  | .setPairButOffOthers activeSlot greenMode redMode =>
      ({ p with leds := p.leds.setPairButOffOthers activeSlot greenMode redMode }, ())
  | .step millis => (p.step m millis, ())
  | .setTMCEnabled axis ena => ({ p with shr16 := p.shr16.setTMCEnabled m axis.ctorIdx ena }, ())
  | .setTMCDir axis dir => ({ p with shr16 := p.shr16.setTMCDir m axis.ctorIdx dir }, ())

/-- Whatever the registers and the chain held before they were initialised. -/
def start (memory : SHR16 χ) : Outputs χ := { shr16 := memory.init m }

end Perform

end Outputs

/-- What is to be seen: the modes asked for, the LEDs that shine, and what the drivers are told. -/
structure Shown where
  mode : UInt8 → LEDColor → LEDMode := fun _ _ => .off
  lit : UInt8 → LEDColor → Bool := fun _ _ => false
  enabled : Axis → Bool := fun _ => false
  dir : Axis → Bool := fun _ => true

namespace Shown

/-- A LED of a mode shines in odd or in even periods, always or never. -/
def shines (oddPeriod : Bool) : LEDMode → Bool
  | .off => false
  | .on => true
  | .blink0 => oddPeriod
  | .blink1 => !oddPeriod

def setMode (mode : UInt8 → LEDColor → LEDMode) (slot : UInt8) (color : LEDColor)
    (value : LEDMode) : UInt8 → LEDColor → LEDMode :=
  fun slot' color' => if slot' = slot ∧ color' = color then value else mode slot' color'

/-- Half a period is 512 ms. -/
def perform (a : Shown) : Outputs.Op → Shown × Unit
  | .setMode slot color mode => ({ a with mode := setMode a.mode slot color mode }, ())
  | .setAllOff => ({ a with mode := fun _ _ => .off }, ())
  | .setPairButOffOthers activeSlot greenMode redMode =>
      let mode := setMode (fun _ _ => .off) activeSlot .green greenMode
      ({ a with mode := setMode mode activeSlot .red redMode }, ())
  | .step millis =>
      ({ a with lit := fun slot color => shines (millis.toNat / 512 % 2 = 1) (a.mode slot color) },
        ())
  | .setTMCEnabled axis ena => ({ a with enabled := Function.update a.enabled axis ena }, ())
  | .setTMCDir axis dir => ({ a with dir := Function.update a.dir axis dir }, ())

end Shown

/-- `SHR16_LEDR0`, `SHR16_LEDG0` and so on: the outputs that the LEDs of a color are wired to. -/
def SHR16.ledPins : LEDColor → List Nat
  | .red => [7, 15, 13, 11, 9]
  | .green => [6, 14, 12, 10, 8]

/-- A LED that does not blink is already as its mode asks for. -/
structure LED.Steady (led : LED) : Prop where
  off : led.mode = .off → led.on = false
  on : led.mode = .on → led.on = true

namespace LED

variable {led : LED}

theorem mode_setMode (led : LED) (mode : LEDMode) : (led.setMode mode).mode = mode := by
  cases mode <;> rfl

theorem steady_setMode (led : LED) (mode : LEDMode) : (led.setMode mode).Steady := by
  cases mode <;> exact ⟨by simp [setMode], by simp [setMode]⟩

theorem mode_step (led : LED) (oddPeriod : Bool) : (led.step oddPeriod).mode = led.mode := by
  rw [step]
  split <;> rfl

theorem Steady.on_step (h : led.Steady) (oddPeriod : Bool) :
    (led.step oddPeriod).on = Shown.shines oddPeriod led.mode := by
  rw [step]
  cases hmode : led.mode with
  | off => exact h.off hmode
  | on => exact h.on hmode
  | blink0 | blink1 => rfl

theorem Steady.step (h : led.Steady) (oddPeriod : Bool) : (led.step oddPeriod).Steady := by
  refine ⟨fun hoff => ?_, fun hon => ?_⟩
  · rw [mode_step] at hoff
    rw [h.on_step, hoff]
    rfl
  · rw [mode_step] at hon
    rw [h.on_step, hon]
    rfl

end LED

namespace LEDs

/-- The place of a LED in the array. -/
def place (slot : UInt8) (color : LEDColor) : Nat := (slot * 2 + UInt8.ofNat color.ctorIdx).toNat

theorem place_eq {slot : UInt8} (hslot : slot < Config.toolCount) (color : LEDColor) :
    place slot color = 2 * slot.toNat + color.ctorIdx := by
  rw [UInt8.lt_iff_toNat_lt] at hslot
  cases color <;>
    simp [place, Config.toolCount, LEDColor.ctorIdx, UInt8.toNat_add, UInt8.toNat_mul]
      at hslot ⊢ <;>
    omega

theorem ctorIdx_lt (color : LEDColor) : color.ctorIdx < 2 := by
  cases color <;> decide

theorem place_lt {slot : UInt8} (hslot : slot < Config.toolCount) (color : LEDColor) :
    place slot color < 10 := by
  have hcolor := ctorIdx_lt color
  rw [place_eq hslot]
  rw [UInt8.lt_iff_toNat_lt] at hslot
  have htools : Config.toolCount.toNat = 5 := rfl
  omega

theorem place_inj {slot slot' : UInt8} (hslot : slot < Config.toolCount)
    (hslot' : slot' < Config.toolCount) {color color' : LEDColor}
    (h : place slot' color' = place slot color) : slot' = slot ∧ color' = color := by
  have hcolor := ctorIdx_lt color
  have hcolor' := ctorIdx_lt color'
  rw [place_eq hslot, place_eq hslot'] at h
  have hsame : color'.ctorIdx = color.ctorIdx := by omega
  refine ⟨UInt8.toNat_inj.mp (by omega), ?_⟩
  cases color with
  | red =>
      cases color' with
      | red => rfl
      | green => exact absurd hsame (by decide)
  | green =>
      cases color' with
      | red => exact absurd hsame (by decide)
      | green => rfl

/-- The array holds the modes, each LED as its mode asks for. -/
structure Holds (l : LEDs) (mode : UInt8 → LEDColor → LEDMode) : Prop where
  length : l.leds.length = 10
  led : ∀ slot < Config.toolCount, ∀ color, ∃ led, l.leds[place slot color]? = some led ∧
    led.mode = mode slot color ∧ led.Steady

namespace Holds

variable {l : LEDs} {mode : UInt8 → LEDColor → LEDMode}

theorem initial : Holds {} fun _ _ => .off := by
  refine ⟨rfl, fun slot hslot color => ⟨{}, ?_, rfl, fun _ => rfl, nofun⟩⟩
  have hplace := place_lt hslot color
  exact List.getElem?_replicate.trans (if_pos hplace)

theorem congr (h : l.Holds mode) {mode' : UInt8 → LEDColor → LEDMode}
    (hmode : ∀ slot < Config.toolCount, ∀ color, mode' slot color = mode slot color) :
    l.Holds mode' := by
  refine ⟨h.length, fun slot hslot color => ?_⟩
  obtain ⟨led, hled, hthis, hsteady⟩ := h.led slot hslot color
  exact ⟨led, hled, hthis.trans (hmode slot hslot color).symm, hsteady⟩

theorem setMode (h : l.Holds mode) {slot : UInt8} (hslot : slot < Config.toolCount)
    (color : LEDColor) (value : LEDMode) :
    (l.setMode slot color value).Holds (Shown.setMode mode slot color value) := by
  have hplace : place slot color < l.leds.length := by
    rw [h.length]
    exact place_lt hslot color
  have hafter : l.setMode slot color value =
      { l with
        leds := l.leds.set (place slot color)
          ((l.leds.get ⟨place slot color, hplace⟩).setMode value) } := dif_pos hplace
  rw [hafter]
  refine ⟨(List.length_set ..).trans h.length, fun slot' hslot' color' => ?_⟩
  by_cases hthis : place slot' color' = place slot color
  · obtain ⟨rfl, rfl⟩ := place_inj hslot hslot' hthis
    refine ⟨_, List.getElem?_set_self hplace, ?_, LED.steady_setMode _ _⟩
    rw [LED.mode_setMode, Shown.setMode, if_pos ⟨rfl, rfl⟩]
  · obtain ⟨led, hled, hmode, hsteady⟩ := h.led slot' hslot' color'
    refine ⟨led, ?_, ?_, hsteady⟩
    · rw [List.getElem?_set_ne (Ne.symm hthis)]
      exact hled
    · rw [hmode, Shown.setMode, if_neg]
      rintro ⟨rfl, rfl⟩
      exact hthis rfl

theorem foldl_off (h : l.Holds mode) (slots : List UInt8)
    (hslots : ∀ slot ∈ slots, slot < Config.toolCount) :
    (slots.foldl (fun l i => (l.setMode i .green .off).setMode i .red .off) l).Holds
      fun slot color => if slot ∈ slots then .off else mode slot color := by
  induction slots generalizing l mode with
  | nil => exact h.congr fun slot _ color => if_neg List.not_mem_nil
  | cons first rest ih =>
      rw [List.forall_mem_cons] at hslots
      have hpair := (h.setMode hslots.1 .green .off).setMode hslots.1 .red .off
      refine (ih hpair hslots.2).congr fun slot _ color => ?_
      simp only [List.mem_cons, Shown.setMode]
      cases color <;> grind

theorem setAllOff (h : l.Holds mode) : l.setAllOff.Holds fun _ _ => .off := by
  have hmem : ∀ slot < Config.toolCount, slot ∈ [(0 : UInt8), 1, 2, 3, 4] := by
    intro slot hslot
    rw [UInt8.lt_iff_toNat_lt] at hslot
    have htools : Config.toolCount.toNat = 5 := rfl
    simp only [List.mem_cons, List.not_mem_nil, or_false, ← UInt8.toNat_inj]
    simp
    omega
  unfold LEDs.setAllOff
  have htools : ∀ slot ∈ [(0 : UInt8), 1, 2, 3, 4], slot < Config.toolCount :=
    fun slot => LEDs.Sound.tool_of_mem
  refine (h.foldl_off [0, 1, 2, 3, 4] htools).congr fun slot hslot color => ?_
  exact (if_pos (hmem slot hslot)).symm

theorem setPairButOffOthers (h : l.Holds mode) {slot : UInt8} (hslot : slot < Config.toolCount)
    (greenMode redMode : LEDMode) :
    (l.setPairButOffOthers slot greenMode redMode).Holds
      (Shown.setMode (Shown.setMode (fun _ _ => .off) slot .green greenMode) slot .red
        redMode) := by
  have hpair := (h.setAllOff.setMode hslot .green greenMode).setMode hslot .red redMode
  unfold LEDs.setPairButOffOthers
  exact ⟨hpair.length, hpair.led⟩

theorem packed_eq (l : LEDs) : l.packed = BitSerial.shiftIn 0 (l.leds.map LED.on) := by
  rw [packed, BitSerial.shiftIn, List.foldl_map]
  rfl

theorem step (h : l.Holds mode) (millis : UInt16) :
    (l.step millis).Holds mode ∧
      ∀ slot < Config.toolCount, ∀ color,
        (l.step millis).packed.getLsbD (9 - place slot color) =
          Shown.shines (millis.toNat / 512 % 2 = 1) (mode slot color) := by
  have hodd : (millis / (Config.ledBlinkPeriodMs / 2) &&& 1 != 0) =
      decide (millis.toNat / 512 % 2 = 1) := by
    have hlow : (millis / (Config.ledBlinkPeriodMs / 2) &&& 1).toNat =
        millis.toNat / 512 % 2 := by
      rw [UInt16.toNat_and, UInt16.toNat_div]
      exact Nat.and_one_is_mod _
    rw [Bool.eq_iff_iff, bne_iff_ne, decide_eq_true_eq, Ne, ← UInt16.toNat_inj, hlow]
    show ¬ _ = 0 ↔ _
    omega
  have hafter : (l.step millis).leds =
      l.leds.map fun led => led.step (millis.toNat / 512 % 2 = 1) := by
    unfold LEDs.step
    dsimp only
    rw [hodd]
  have hlength : (l.step millis).leds.length = 10 := by
    rw [hafter, List.length_map, h.length]
  refine ⟨⟨hlength, fun slot hslot color => ?_⟩, fun slot hslot color => ?_⟩
  · obtain ⟨led, hled, hmode, hsteady⟩ := h.led slot hslot color
    refine ⟨led.step (millis.toNat / 512 % 2 = 1), ?_, ?_, hsteady.step _⟩
    · rw [hafter, List.getElem?_map, hled]
      rfl
    · rw [LED.mode_step, hmode]
  · obtain ⟨led, hled, hmode, hsteady⟩ := h.led slot hslot color
    have hplace := place_lt hslot color
    rw [packed_eq, BitSerial.getLsbD_shiftIn _ _ (by omega), hafter, List.map_map,
      List.getElem?_reverse (by rw [List.length_map, h.length]; omega), List.length_map, h.length,
      List.getElem?_map]
    have hback : 10 - 1 - (9 - place slot color) = place slot color := by omega
    rw [hback, hled]
    exact (hsteady.on_step _).trans (by rw [hmode])

end Holds

end LEDs

namespace Outputs

variable {χ : Type*} {m : SHR16.Chain χ}

/-- The word that was written last has the bits that the drivers and the LEDs are to have. -/
structure Follows (m : SHR16.Chain χ) (p : Outputs χ) (a : Shown) : Prop where
  drives : SHR16.Drives m p.shr16
  modes : p.leds.Holds a.mode
  enabled : ∀ axis : Axis, p.shr16.shr16V.getLsbD (2 * axis.ctorIdx + 1) = !a.enabled axis
  dir : ∀ axis : Axis, p.shr16.shr16V.getLsbD (2 * axis.ctorIdx) = !a.dir axis
  cached : ∀ index < 10,
    p.shr16.shr16V.getLsbD (SHR16.ledOutput index) = p.cachedState.getLsbD (9 - index)
  lit : ∀ slot < Config.toolCount, ∀ color,
    p.cachedState.getLsbD (9 - LEDs.place slot color) = a.lit slot color

theorem ctorIdx_lt (axis : Axis) : axis.ctorIdx < 3 := by
  cases axis <;> decide

theorem ctorIdx_inj {axis axis' : Axis} (h : axis'.ctorIdx = axis.ctorIdx) : axis' = axis := by
  cases axis <;> cases axis' <;> first | rfl | exact absurd h (by decide)

theorem follows_start (m : SHR16.Chain χ) (memory : SHR16 χ) : Follows m (start m memory) {} := by
  obtain ⟨hdrives, hword⟩ := SHR16.drives_init (m := m) memory
  have hled : ∀ index < 10, SHR16.enaMsk.getLsbD (SHR16.ledOutput index) = false := by decide
  refine ⟨hdrives, .initial, fun axis => ?_, fun axis => ?_, fun index hindex => ?_, ?_⟩
  · refine (congrArg (BitVec.getLsbD · _) hword).trans ?_
    cases axis <;> decide
  · refine (congrArg (BitVec.getLsbD · _) hword).trans ?_
    cases axis <;> decide
  · refine (congrArg (BitVec.getLsbD · _) hword).trans ?_
    rw [hled index hindex]
    exact BitVec.getLsbD_zero.symm
  · intro slot _ color
    exact BitVec.getLsbD_zero

namespace Follows

variable {p : Outputs χ} {a : Shown} (h : Follows m p a)
include h

/-- A change of modes shows at the next step. -/
theorem leds {leds : LEDs} {mode : UInt8 → LEDColor → LEDMode} (hmodes : leds.Holds mode) :
    Follows m { p with leds := leds } { a with mode := mode } :=
  ⟨h.drives, hmodes, h.enabled, h.dir, h.cached, h.lit⟩

theorem step (millis : UInt16) :
    Follows m (p.step m millis) (a.perform (.step millis)).1 := by
  obtain ⟨hmodes, hlit⟩ := h.modes.step millis
  rw [Outputs.step]
  split
  · obtain ⟨hdrives, hkept, hshown⟩ := h.drives.setLED (p.leds.step millis).packed
    refine ⟨hdrives, hmodes, fun axis => ?_, fun axis => ?_, hshown, hlit⟩
    · have haxis := ctorIdx_lt axis
      exact (hkept _ (by omega)).trans (h.enabled axis)
    · have haxis := ctorIdx_lt axis
      exact (hkept _ (by omega)).trans (h.dir axis)
  · next hsame =>
      have hpacked : (p.leds.step millis).packed = p.cachedState := not_not.mp hsame
      refine ⟨h.drives, hmodes, h.enabled, h.dir, h.cached, ?_⟩
      rw [hpacked] at hlit
      exact hlit

theorem setTMCEnabled (axis : Axis) (ena : Bool) :
    Follows m { p with shr16 := p.shr16.setTMCEnabled m axis.ctorIdx ena }
      { a with enabled := Function.update a.enabled axis ena } := by
  obtain ⟨hdrives, hword⟩ := h.drives.setTMCEnabled axis.ctorIdx ena
  have haxis := ctorIdx_lt axis
  refine ⟨hdrives, h.modes, fun axis' => ?_, fun axis' => ?_, fun index hindex => ?_, h.lit⟩
  · have haxis' := ctorIdx_lt axis'
    refine (hword _ (by omega)).trans ?_
    by_cases hthis : axis' = axis
    · rw [hthis, if_pos rfl]
      exact congrArg not (Function.update_self axis ena a.enabled).symm
    · have hother : ¬ axis'.ctorIdx = axis.ctorIdx := fun hsame => hthis (ctorIdx_inj hsame)
      rw [if_neg (by omega)]
      exact (h.enabled axis').trans (congrArg not (Function.update_of_ne hthis ..).symm)
  · have haxis' := ctorIdx_lt axis'
    exact ((hword _ (by omega)).trans (if_neg (by omega))).trans (h.dir axis')
  · obtain ⟨hle, hlt⟩ := SHR16.ledOutput_bounds hindex
    exact ((hword _ hlt).trans (if_neg (by omega))).trans (h.cached index hindex)

theorem setTMCDir (axis : Axis) (dir : Bool) :
    Follows m { p with shr16 := p.shr16.setTMCDir m axis.ctorIdx dir }
      { a with dir := Function.update a.dir axis dir } := by
  obtain ⟨hdrives, hword⟩ := h.drives.setTMCDir axis.ctorIdx dir
  have haxis := ctorIdx_lt axis
  refine ⟨hdrives, h.modes, fun axis' => ?_, fun axis' => ?_, fun index hindex => ?_, h.lit⟩
  · have haxis' := ctorIdx_lt axis'
    exact ((hword _ (by omega)).trans (if_neg (by omega))).trans (h.enabled axis')
  · have haxis' := ctorIdx_lt axis'
    refine (hword _ (by omega)).trans ?_
    by_cases hthis : axis' = axis
    · rw [hthis, if_pos rfl]
      exact congrArg not (Function.update_self axis dir a.dir).symm
    · have hother : ¬ axis'.ctorIdx = axis.ctorIdx := fun hsame => hthis (ctorIdx_inj hsame)
      rw [if_neg (by omega)]
      exact (h.dir axis').trans (congrArg not (Function.update_of_ne hthis ..).symm)
  · obtain ⟨hle, hlt⟩ := SHR16.ledOutput_bounds hindex
    exact ((hword _ hlt).trans (if_neg (by omega))).trans (h.cached index hindex)

theorem perform (op : Op) (hop : op.Permits) :
    Follows m (p.perform m op).1 (a.perform op).1 := by
  cases op with
  | setMode slot color mode => exact h.leds (h.modes.setMode hop color mode)
  | setAllOff => exact h.leds h.modes.setAllOff
  | setPairButOffOthers slot greenMode redMode =>
      exact h.leds (h.modes.setPairButOffOthers hop greenMode redMode)
  | step millis => exact h.step millis
  | setTMCEnabled axis ena => exact h.setTMCEnabled axis ena
  | setTMCDir axis dir => exact h.setTMCDir axis dir

theorem run (ops : List Op) (hops : ∀ op ∈ ops, op.Permits) :
    Follows m (Transducer.run (Outputs.perform m) p ops) (Transducer.run Shown.perform a ops) := by
  induction ops generalizing p a with
  | nil => exact h
  | cons op ops ih =>
      rw [List.forall_mem_cons] at hops
      exact ih (h.perform op hops.1) hops.2

end Follows

theorem ledOutput_place {slot : UInt8} (hslot : slot < Config.toolCount) {color : LEDColor}
    {pin : Nat} (h : (SHR16.ledPins color)[slot.toNat]? = some pin) :
    SHR16.ledOutput (LEDs.place slot color) = pin := by
  rw [LEDs.place_eq hslot]
  have hlt : slot.toNat < 5 := UInt8.lt_iff_toNat_lt.mp hslot
  generalize slot.toNat = n at h hlt
  cases color <;> interval_cases n <;> exact Option.some.inj h

/-- In every run the outputs are those the LEDs and the drivers were last told to have. -/
theorem outputs_show (m : SHR16.Chain χ) (memory : SHR16 χ) (ops : List Op)
    (hops : ∀ op ∈ ops, op.Permits) :
    let outputs := m.outputs (Transducer.run (perform m) (start m memory) ops).shr16.chain
    let a := Transducer.run Shown.perform {} ops
    (∀ slot < Config.toolCount, ∀ color, ∀ pin,
      (SHR16.ledPins color)[slot.toNat]? = some pin → outputs.getLsbD pin = a.lit slot color) ∧
    (∀ axis : Axis, outputs.getLsbD (2 * axis.ctorIdx + 1) = !a.enabled axis) ∧
    ∀ axis : Axis, outputs.getLsbD (2 * axis.ctorIdx) = !a.dir axis := by
  intro outputs a
  have hfollows : Follows m (Transducer.run (perform m) (start m memory) ops) a :=
    (follows_start m memory).run ops hops
  have hword : outputs = _ := hfollows.drives.outputs
  rw [hword]
  refine ⟨fun slot hslot color pin hpin => ?_, hfollows.enabled, hfollows.dir⟩
  rw [← ledOutput_place hslot hpin, hfollows.cached _ (LEDs.place_lt hslot color)]
  exact hfollows.lit slot hslot color

/-- Two registers that hold just their stages, outputs and pins. -/
def plainChain : SHR16.Chain ((SHR16.Pin → Bool) × BitVec 16 × BitVec 16) where
  writePin c pin b :=
    (Function.update c.1 pin b,
      if pin = .clock ∧ b = true ∧ c.1 .clock = false then BitSerial.shifted c.2.1 (c.1 .data)
      else c.2.1,
      if pin = .latch ∧ b = true ∧ c.1 .latch = false then c.2.1 else c.2.2)
  level c pin := c.1 pin
  stages c := c.2.1
  outputs c := c.2.2
  level_write c pin b pin' := Function.update_apply c.1 pin b pin'
  stages_clock _ h := if_pos ⟨rfl, rfl, h⟩
  stages_write _ _ _ h := if_neg fun hrise => h ⟨hrise.1, hrise.2.1⟩
  outputs_latch _ h := if_pos ⟨rfl, rfl, h⟩
  outputs_write _ _ _ h := if_neg fun hrise => h ⟨hrise.1, hrise.2.1⟩

theorem outputs_show_blinking :
    let memory : SHR16 _ := ⟨0xffff, (fun _ => true, 0xffff, 0xffff)⟩
    let ops : List Op := [.setPairButOffOthers 3 .blink0 .off, .setTMCEnabled .selector true,
      .step 600, .setTMCDir .idler false]
    let p := Transducer.run (perform plainChain) (start plainChain memory) ops
    let outputs := plainChain.outputs p.shr16.chain
    outputs.getLsbD 10 = true ∧ outputs.getLsbD 3 = false ∧ outputs.getLsbD 4 = true := by
  intro memory ops p outputs
  obtain ⟨hlit, henabled, hdir⟩ := outputs_show plainChain memory ops (by decide)
  exact ⟨hlit 3 (by decide) .green 10 rfl, henabled .selector, hdir .idler⟩

end Outputs

end MmuFirmware
