import MmuFirmware.App.Registers
import MmuFirmware.Logic.Closure
import MmuFirmware.Modules.OnHold

/-!
What a register write does to properties that last. Most registers keep a value beside the
movables or set the driver of an axis; one records any byte as the filament state, one sends the
selector to a slot, and one lets the idler engage or disengage.
-/
namespace MmuFirmware

namespace Modules

/-- A property that depends, beside the speeds, neither on the settings the registers keep nor on
more of the movables than can be adjusted at their axes. -/
structure Untuned (P : Modules → Prop) : Prop where
  others : ∀ {m m' : Modules}, P m → m'.idler = m.idler → m'.selector = m.selector →
    m'.pulley = m.pulley → m'.leds = m.leds → m'.globals.activeSlot = m.globals.activeSlot →
    m'.globals.filamentLoaded = m.globals.filamentLoaded →
    m'.globals.storage.filamentLoaded = m.globals.storage.filamentLoaded →
    m'.globals.feedrates = m.globals.feedrates → P m'
  idlerAxis : ∀ {m : Modules}, P m → ∀ c : AxisCall,
    P { m with idler := { m.idler with axis := c.run m.idler.axis } }
  selectorAxis : ∀ {m : Modules}, P m → ∀ c : AxisCall,
    P { m with selector := { m.selector with axis := c.run m.selector.axis } }
  pulleyAxis : ∀ {m : Modules}, P m → ∀ c : AxisCall,
    P { m with pulley := { m.pulley with axis := c.run m.pulley.axis } }

theorem Durable.untuned (D : Durable) : Untuned D.P where
  others := D.others
  idlerAxis := D.idlerAxis
  selectorAxis := D.selectorAxis
  pulleyAxis := D.pulleyAxis

/-- A property that depends neither on the settings the registers keep nor on more of the
idler and the selector than can be adjusted at their axes. -/
structure Unadjusted (P : Modules → Prop) : Prop where
  others : ∀ {m m' : Modules}, P m → m'.idler = m.idler → m'.selector = m.selector →
    m'.leds = m.leds → m'.globals.activeSlot = m.globals.activeSlot →
    m'.globals.filamentLoaded = m.globals.filamentLoaded →
    m'.globals.storage.filamentLoaded = m.globals.storage.filamentLoaded → P m'
  idlerAxis : ∀ {m : Modules}, P m → ∀ c : AxisCall,
    P { m with idler := { m.idler with axis := c.run m.idler.axis } }
  selectorAxis : ∀ {m : Modules}, P m → ∀ c : AxisCall,
    P { m with selector := { m.selector with axis := c.run m.selector.axis } }

theorem Unadjusted.untuned {P : Modules → Prop} (hP : Unadjusted P) : Untuned P where
  others h hidler hselector _ hleds hslot hloaded hrecord _ :=
    hP.others h hidler hselector hleds hslot hloaded hrecord
  idlerAxis := hP.idlerAxis
  selectorAxis := hP.selectorAxis
  pulleyAxis h _ := hP.others h rfl rfl rfl rfl rfl rfl

theorem Lasting.unadjusted (L : Lasting) : Unadjusted L.P where
  others := L.others
  idlerAxis := L.idlerAxis
  selectorAxis := L.selectorAxis

/-- What a write to the idler's place does. -/
def moveIdlerTo (m : Modules) (d : UInt16) : Modules :=
  if d ≥ Config.toolCount.toUInt16 then m.idlerDisengage else m.idlerEngage d.toUInt8

theorem Has.moveIdlerTo {L : Lasting} {m : Modules} (h : m.Has L) (d : UInt16) :
    (m.moveIdlerTo d).Has L := by
  rw [Modules.moveIdlerTo]
  split
  · exact L.idlerDisengage h
  · next htool =>
      refine L.idlerEngage h (L.place (L.tool ?_))
      rw [UInt8.lt_iff_toNat_lt, UInt16.toNat_toUInt8]
      rw [ge_iff_le, UInt16.le_iff_toNat_le] at htool
      have hcount : Config.toolCount.toUInt16.toNat = Config.toolCount.toNat := rfl
      omega

end Modules

/-- The registers that keep the speeds. -/
def feedrateRegisters : List UInt8 := [0x0d, 0x11, 0x12, 0x13, 0x14, 0x15, 0x16]

namespace RegisterRec

/-- Writing the register preserves the property. -/
def Keeps (r : RegisterRec) (P : Modules → Prop) : Prop :=
  ∀ write, r.writeFunc = some write → ∀ (m : Modules) (value : UInt16), P m → P (write m value)

variable {P : Modules → Prop}

theorem keeps_readOnly (readFunc : RegisterView → UInt16) : Keeps { readFunc := readFunc } P :=
  nofun

variable (hP : Modules.Untuned P)
include hP

theorem keeps_ofGlobals (get : Globals → UInt16) {set : Globals → UInt16 → Globals}
    (hset : ∀ g d, (set g d).activeSlot = g.activeSlot ∧
      (set g d).filamentLoaded = g.filamentLoaded ∧
      (set g d).storage.filamentLoaded = g.storage.filamentLoaded ∧
      (set g d).feedrates = g.feedrates) :
    (ofGlobals get set).Keeps P := by
  rintro write ⟨⟩ m value h
  obtain ⟨hslot, hloaded, hrecord, hspeeds⟩ := hset m.globals value
  exact hP.others h rfl rfl rfl rfl hslot hloaded hrecord hspeeds

theorem keeps_stallGuardThreshold (axis : Axis) : (stallGuardThreshold axis).Keeps P := by
  apply keeps_ofGlobals hP
  intro g d
  cases axis <;> exact ⟨rfl, rfl, rfl, rfl⟩

theorem keeps_ofAxis (axis : Axis) (get : AxisData → UInt16)
    {set : AxisData → UInt16 → AxisData} (c : UInt16 → AxisCall)
    (hset : ∀ a d, set a d = (c d).run a) : (ofAxis axis get set).Keeps P := by
  rintro write ⟨⟩ m value h
  cases axis with
  | pulley =>
      simp only [hset]
      exact hP.pulleyAxis h (c value)
  | selector =>
      simp only [hset]
      exact hP.selectorAxis h (c value)
  | idler =>
      simp only [hset]
      exact hP.idlerAxis h (c value)

theorem keeps_acceleration (axis : Axis) (scale : AxisScale) : (acceleration axis scale).Keeps P :=
  keeps_ofAxis hP axis _ (fun d => .setAcceleration (scale.toSteps d.toNat).toNat) fun _ _ => rfl

theorem keeps_iRun (axis : Axis) : (iRun axis).Keeps P :=
  keeps_ofAxis hP axis _ (fun d => .setIRun d.toUInt8) fun _ _ => rfl

/-- The registers of the filament state, of the two places and of the speeds apart, whatever is
written. -/
theorem keeps_registers :
    ∀ p ∈ registers.zipIdx, p.2 ≠ 0x07 → p.2 ≠ 0x1b → p.2 ≠ 0x1c →
      p.2 ∉ feedrateRegisters.map UInt8.toNat → p.1.Keeps P := by
  have hglobals (get : Globals → UInt16) {set : Globals → UInt16 → Globals}
      (hset : ∀ g d, (set g d).activeSlot = g.activeSlot ∧
        (set g d).filamentLoaded = g.filamentLoaded ∧
        (set g d).storage.filamentLoaded = g.storage.filamentLoaded ∧
        (set g d).feedrates = g.feedrates) :
      (ofGlobals get set).Keeps P :=
    keeps_ofGlobals hP get hset
  simp only [registers, List.zipIdx_cons, List.zipIdx_nil, List.forall_mem_cons,
    List.not_mem_nil, false_implies, implies_true, and_true]
  refine ⟨fun _ _ _ _ => keeps_readOnly _, fun _ _ _ _ => keeps_readOnly _,
    fun _ _ _ _ => keeps_readOnly _, fun _ _ _ _ => keeps_readOnly _,
    fun _ _ _ _ => keeps_readOnly _, fun _ _ _ _ => keeps_readOnly _,
    fun _ _ _ _ => keeps_readOnly _, fun h _ _ _ => absurd rfl h,
    fun _ _ _ _ => keeps_readOnly _, ?_, fun _ _ _ _ => keeps_readOnly _,
    fun _ _ _ _ => hglobals _ fun _ _ => ⟨rfl, rfl, rfl, rfl⟩,
    fun _ _ _ _ => hglobals _ fun _ _ => ⟨rfl, rfl, rfl, rfl⟩,
    fun _ _ _ hspeed => absurd (by decide) hspeed, fun _ _ _ _ => keeps_acceleration hP _ _,
    fun _ _ _ _ => keeps_acceleration hP _ _, fun _ _ _ _ => keeps_acceleration hP _ _,
    fun _ _ _ hspeed => absurd (by decide) hspeed, fun _ _ _ hspeed => absurd (by decide) hspeed,
    fun _ _ _ hspeed => absurd (by decide) hspeed, fun _ _ _ hspeed => absurd (by decide) hspeed,
    fun _ _ _ hspeed => absurd (by decide) hspeed, fun _ _ _ hspeed => absurd (by decide) hspeed,
    fun _ _ _ _ => keeps_stallGuardThreshold hP _, fun _ _ _ _ => keeps_stallGuardThreshold hP _,
    fun _ _ _ _ => keeps_stallGuardThreshold hP _, fun _ _ _ _ => keeps_readOnly _,
    fun _ h _ _ => absurd rfl h, fun _ _ h _ => absurd rfl h,
    fun _ _ _ _ => hglobals _ fun _ _ => ⟨rfl, rfl, rfl, rfl⟩, fun _ _ _ _ => keeps_iRun hP _,
    fun _ _ _ _ => keeps_iRun hP _, fun _ _ _ _ => keeps_iRun hP _,
    fun _ _ _ _ => keeps_readOnly _, fun _ _ _ _ => hglobals _ fun _ _ => ⟨rfl, rfl, rfl, rfl⟩,
    fun _ _ _ _ => hglobals _ fun _ _ => ⟨rfl, rfl, rfl, rfl⟩⟩
  rintro _ _ _ _ write ⟨⟩ m value h
  exact hP.others h rfl rfl rfl rfl rfl rfl rfl rfl

end RegisterRec

/-- A write preserves the property, where the filament state, the places of the selector and the
idler, and the speeds may be written as well. -/
theorem Modules.Untuned.writeRegister {P : Modules → Prop} (hP : Modules.Untuned P)
    {m : Modules} (h : P m) (address : UInt8) (value : UInt16)
    (hfilament : address = 0x07 → P (m.setFilamentLoaded m.activeSlot value.toUInt8))
    (hselector : address = 0x1b → P (m.selectorMoveToSlot value.toUInt8).2)
    (hidler : address = 0x1c → P (m.moveIdlerTo value))
    (hspeed : address ∈ feedrateRegisters → P (writeRegister address value m).2) :
    P (writeRegister address value m).2 := by
  by_cases hspeeds : address ∈ feedrateRegisters
  · exact hspeed hspeeds
  · rw [MmuFirmware.writeRegister]
    split
    · next write hwrite =>
        rw [Option.bind_eq_some_iff] at hwrite
        obtain ⟨r, hr, hwrite⟩ := hwrite
        by_cases hstate : address.toNat = 0x07
        · have haddress : address = 0x07 := UInt8.toNat_inj.mp hstate
          subst haddress
          cases hr
          cases hwrite
          exact hfilament rfl
        · by_cases hplace : address.toNat = 0x1b
          · have haddress : address = 0x1b := UInt8.toNat_inj.mp hplace
            subst haddress
            cases hr
            cases hwrite
            exact hselector rfl
          · by_cases hengages : address.toNat = 0x1c
            · have haddress : address = 0x1c := UInt8.toNat_inj.mp hengages
              subst haddress
              cases hr
              cases hwrite
              exact hidler rfl
            · have hmem : (r, address.toNat) ∈ registers.zipIdx :=
                List.mem_zipIdx_iff_getElem?.mpr hr
              have hother : address.toNat ∉ feedrateRegisters.map UInt8.toNat := by
                intro hin
                obtain ⟨a, ha, haddress⟩ := List.mem_map.mp hin
                exact hspeeds (UInt8.toNat_inj.mp haddress ▸ ha)
              exact RegisterRec.keeps_registers hP _ hmem hstate hplace hengages hother write
                hwrite m value h
    · exact h

/-- A write to the register of a speed changes nothing but the speed. -/
theorem writeRegister_feedrate {address : UInt8} (haddress : address ∈ feedrateRegisters)
    (value : UInt16) (m : Modules) :
    ∃ g : Globals, (writeRegister address value m).2 = { m with globals := g } ∧
      g.activeSlot = m.globals.activeSlot ∧ g.filamentLoaded = m.globals.filamentLoaded ∧
      g.storage.filamentLoaded = m.globals.storage.filamentLoaded := by
  simp only [feedrateRegisters, List.mem_cons, List.not_mem_nil, or_false] at haddress
  rcases haddress with rfl | rfl | rfl | rfl | rfl | rfl | rfl <;> exact ⟨_, rfl, rfl, rfl, rfl⟩

/-- The speeds may be written, where they do not matter. -/
theorem Modules.Unadjusted.writeRegister {P : Modules → Prop} (hP : Modules.Unadjusted P)
    {m : Modules} (h : P m) (address : UInt8) (value : UInt16)
    (hfilament : address = 0x07 → P (m.setFilamentLoaded m.activeSlot value.toUInt8))
    (hselector : address = 0x1b → P (m.selectorMoveToSlot value.toUInt8).2)
    (hidler : address = 0x1c → P (m.moveIdlerTo value)) :
    P (writeRegister address value m).2 := by
  refine hP.untuned.writeRegister h address value hfilament hselector hidler fun hspeed => ?_
  obtain ⟨g, hg, hslot, hloaded, hrecord⟩ := writeRegister_feedrate hspeed value m
  rw [hg]
  exact hP.others h rfl rfl rfl hslot hloaded hrecord

/-- A write to any register but the one of its place adjusts at most the selector's axis. -/
theorem selector_writeRegister (m : Modules) {address : UInt8} (value : UInt16)
    (haddress : address ≠ 0x1b) :
    ∃ axis, (writeRegister address value m).2.selector = { m.selector with axis } ∧
      (m.selector.axis.blocks = [] → axis.blocks = []) := by
  have hadjusts : Modules.Unadjusted fun m' => ∃ axis, m'.selector = { m.selector with axis } ∧
      (m.selector.axis.blocks = [] → axis.blocks = []) := by
    refine ⟨fun h _ hselector _ _ _ _ => hselector ▸ h, fun h _ => h, ?_⟩
    rintro m' ⟨axis, hselector, hblocks⟩ c
    refine ⟨c.run axis, ?_, fun hempty => c.run_blocks (hblocks hempty)⟩
    rw [hselector]
  have hsame : ∃ axis, m.selector = { m.selector with axis } ∧
      (m.selector.axis.blocks = [] → axis.blocks = []) := ⟨_, rfl, id⟩
  refine hadjusts.writeRegister hsame address value (fun _ => hsame)
    (fun hplace => absurd hplace haddress) fun _ => ?_
  rw [Modules.moveIdlerTo]
  split <;> exact hsame

theorem has_writeRegister {L : Modules.Lasting} {m : Modules} (h : m.Has L) (address : UInt8)
    (value : UInt16)
    (hfilament : address = 0x07 → (m.setFilamentLoaded m.activeSlot value.toUInt8).Has L)
    (hselector : address = 0x1b → (m.selectorMoveToSlot value.toUInt8).2.Has L) :
    (writeRegister address value m).2.Has L :=
  L.unadjusted.writeRegister h address value hfilament hselector fun _ => h.moveIdlerTo value

end MmuFirmware
