import MmuFirmware.Hal.Tmc2130
import MmuFirmware.Lib.Refinement

/-!
The registers of a driver chip follow what the driver was last told. A setup is what the
firmware wants of a chip; its words are the registers, and each operation on the driver writes
the words of the setup it changes and no others.
-/
namespace MmuFirmware

namespace TMC2130

/-- What a chip is set up for. -/
structure Setup where
  bridge : Bool
  vSense : Bool
  mRes : BitVec 4
  iRun : BitVec 5
  iHold : BitVec 5
  mode : MotorMode
  sgThrs : BitVec 7
  deriving DecidableEq

namespace Setup

/-- `CHOPCONF` of a setup: the output stages are off without a slow decay time. -/
def chopper (s : Setup) : BitVec 32 :=
  0#2 ++ 3#2 ++ s.mRes ++ 0#6 ++ BitVec.ofBool s.vSense ++ 2#2 ++ 0#4 ++ 1#4 ++ 5#3 ++
    (if s.bridge then 3#4 else 0#4)

def word (s : Setup) : Registers → BitVec 32
  | .chopconf => s.chopper
  | .iholdIrun => 15#16 ++ (0#3 ++ s.iRun) ++ (0#3 ++ s.iHold)
  | .tpowerdown => 0
  | .coolconf => 0#9 ++ s.sgThrs ++ 0#16
  | .tcoolthrs => coolStepThreshold
  | .gconf => gconf
  | .pwmconf => pwmconf
  | .tpwmthrs => modeThreshold s.mode
  | .gstat | .ioin | .drvStatus => 0

/-- The setup some words stand for. -/
def ofWords (word : Registers → BitVec 32) : Setup where
  bridge := (word .chopconf).extractLsb' 0 4 != 0
  vSense := (word .chopconf).getLsbD 17
  mRes := (word .chopconf).extractLsb' 24 4
  iRun := (word .iholdIrun).extractLsb' 8 5
  iHold := (word .iholdIrun).extractLsb' 0 5
  mode := if word .tpwmthrs = modeThreshold .stealth then .stealth else .normal
  sgThrs := (word .coolconf).extractLsb' 16 7

theorem ofWords_word (s : Setup) : ofWords s.word = s := by
  obtain ⟨bridge, vSense, mRes, iRun, iHold, mode, sgThrs⟩ := s
  simp only [ofWords, word, chopper, Setup.mk.injEq]
  refine ⟨?_, ?_, ?_, ?_, ?_, ?_, ?_⟩
  · rw [BitVec.extractLsb'_append_eq_right]
    cases bridge <;> rfl
  · grind
  · ext i hi
    grind
  · ext i hi
    grind
  · ext i hi
    grind
  · cases mode <;> rfl
  · ext i hi
    grind

/-- The holding current is no more than the running one. -/
def setCurrents (s : Setup) (currents : MotorCurrents) : Setup :=
  { s with
    iRun := currents.iRun.setWidth 5
    iHold := (if currents.iHold > currents.iRun then currents.iRun
      else currents.iHold).setWidth 5 }

def of (params : MotorParams) (currents : MotorCurrents) (mode : MotorMode) : Setup :=
  { bridge := true, vSense := currents.vSense, mRes := params.mRes, iRun := 0, iHold := 0,
    mode, sgThrs := params.sgThrs.setWidth 7 : Setup }.setCurrents currents

end Setup

/-- What the firmware does with a driver; `sense` is what the chip does of its own. -/
inductive Op (χ : Type*) where
  | init (params : MotorParams) (currents : MotorCurrents) (mode : MotorMode)
  | setMode (mode : MotorMode)
  | setBridgeOutput (bOn : Bool)
  | setCurrents (currents : MotorCurrents)
  | setSGTHRS (params : MotorParams)
  | checkForErrors
  | sense (c : χ)

/-- What an operation wants of the chip; an initialisation may not recognise it. -/
inductive Wish where
  | init (recognised : Bool) (setup : Setup)
  | setMode (mode : MotorMode)
  | setBridgeOutput (bOn : Bool)
  | setCurrents (currents : MotorCurrents)
  | setSGTHRS (sgThrs : BitVec 7)
  | none

def Setup.wish (s : Setup) : Wish → Setup × Unit
  | .init true setup => (setup, ())
  | .init false _ => (s, ())
  | .setMode mode => ({ s with mode }, ())
  | .setBridgeOutput bOn => ({ s with bridge := bOn }, ())
  | .setCurrents currents => (s.setCurrents currents, ())
  | .setSGTHRS sgThrs => ({ s with sgThrs }, ())
  | .none => (s, ())

section Runs

variable {χ : Type*} (m : Chip χ)

def perform : TMC2130 × χ → Op χ → (TMC2130 × χ) × Unit
  | (drv, c), .init params currents mode => ((init m drv c params currents mode).2, ())
  | (drv, c), .setMode mode => ((drv, applyMode m c mode), ())
  | (drv, c), .setBridgeOutput bOn => ((drv, setBridgeOutput m c bOn), ())
  | (drv, c), .setCurrents currents => ((drv, setCurrents m c currents), ())
  | (drv, c), .setSGTHRS params => ((drv, applySGTHRS m c params), ())
  | (drv, c), .checkForErrors => ((checkForErrors m drv c).2, ())
  | (drv, _), .sense c => ((drv, c), ())

def wished (s : TMC2130 × χ) : Op χ → Wish
  | .init params currents mode =>
      .init (init m s.1 s.2 params currents mode).1 (.of params currents mode)
  | .setMode mode => .setMode mode
  | .setBridgeOutput bOn => .setBridgeOutput bOn
  | .setCurrents currents => .setCurrents currents
  | .setSGTHRS params => .setSGTHRS (params.sgThrs.setWidth 7)
  | .checkForErrors | .sense _ => .none

/-- Of its own a chip changes only what it reports. -/
def Permits (s : TMC2130 × χ) : Op χ → Prop
  | .sense c => ∀ reg : Registers, reg.status = false → m.content c reg = m.content s.2 reg
  | _ => True

/-- The registers are the words of the setup. -/
def Follows (c : χ) (s : Setup) : Prop :=
  ∀ reg : Registers, reg.status = false → m.content c reg = s.word reg

variable {m} {c : χ} {s : Setup}

theorem content_writeRegister (reg : Registers) (data : BitVec 32) {reg' : Registers}
    (hreg : reg'.status = false) :
    m.content (writeRegister m c reg data) reg' =
      if reg' = reg then data else m.content c reg' := by
  rw [writeRegister, m.content_write c _ reg reg' rfl hreg, Datagram.data_ofWrite]

theorem readRegister_fst (reg : Registers) : (readRegister m c reg).1 = m.content c reg := by
  rw [readRegister, Datagram.word_eq, m.answer]
  exact m.readout_read c _ reg rfl

theorem content_readRegister (reg : Registers) {reg' : Registers} (hreg : reg'.status = false) :
    m.content (readRegister m c reg).2 reg' = m.content c reg' := by
  rw [readRegister, m.content_read _ _ .gconf reg' rfl hreg]
  exact m.content_read c _ reg reg' rfl hreg

theorem Follows.readRegister (h : Follows m c s) (reg : Registers) :
    Follows m (readRegister m c reg).2 s :=
  fun reg' hreg => (content_readRegister reg hreg).trans (h reg' hreg)

/-- A write of the word in which two setups differ. -/
theorem Follows.writeRegister (h : Follows m c s) {reg : Registers} {data : BitVec 32}
    (s' : Setup) (hdata : data = s'.word reg)
    (hframe : ∀ reg', reg' ≠ reg → s'.word reg' = s.word reg') :
    Follows m (writeRegister m c reg data) s' := by
  intro reg' hreg
  rw [content_writeRegister reg data hreg]
  split
  · next heq => rw [heq, hdata]
  · next hne => rw [h reg' hreg, hframe reg' hne]

theorem low_bits_off (hi : BitVec 28) (lo : BitVec 4) : (hi ++ lo) &&& ~~~0xf = hi ++ 0#4 := by
  have hmask : (~~~0xf : BitVec 32) = BitVec.allOnes 28 ++ 0#4 := by decide
  rw [hmask, BitVec.and_append, BitVec.and_allOnes, BitVec.and_zero]

theorem low_bits_on (hi : BitVec 28) (lo : BitVec 4) :
    (hi ++ 0#4) ||| lo.setWidth 32 = hi ++ lo := by
  ext i hi
  grind

theorem Follows.setBridgeOutput (h : Follows m c s) (bOn : Bool) :
    Follows m (setBridgeOutput m c bOn) { s with bridge := bOn } := by
  have hread : (TMC2130.readRegister m c .chopconf).1 = s.chopper :=
    (readRegister_fst .chopconf).trans (h .chopconf rfl)
  refine (h.readRegister .chopconf).writeRegister _ ?_ fun reg' hne => ?_
  · rw [hread, Setup.chopper, low_bits_off, low_bits_on]
    cases bOn <;> rfl
  · cases reg' with
    | chopconf => exact absurd rfl hne
    | _ => rfl

theorem low_five (x : BitVec 8) : x &&& 0x1f = 0#3 ++ x.setWidth 5 := by
  apply BitVec.eq_of_toNat_eq
  rw [BitVec.toNat_and, BitVec.toNat_append, BitVec.toNat_setWidth]
  exact (Nat.and_two_pow_sub_one_eq_mod x.toNat 5).trans (Nat.zero_or _).symm

theorem iHoldRun_eq (s : Setup) (currents : MotorCurrents) :
    iHoldRun ((if currents.iHold > currents.iRun then currents.iRun else currents.iHold) &&& 0x1f)
      (currents.iRun &&& 0x1f) = (s.setCurrents currents).word .iholdIrun := by
  rw [low_five, low_five]
  rfl

theorem Follows.setCurrents (h : Follows m c s) (currents : MotorCurrents) :
    Follows m (setCurrents m c currents) (s.setCurrents currents) := by
  refine h.writeRegister _ (iHoldRun_eq s currents) fun reg' hne => ?_
  cases reg' with
  | iholdIrun => exact absurd rfl hne
  | _ => rfl

theorem Follows.applyMode (h : Follows m c s) (mode : MotorMode) :
    Follows m (applyMode m c mode) { s with mode } := by
  refine h.writeRegister _ rfl fun reg' hne => ?_
  cases reg' with
  | tpwmthrs => exact absurd rfl hne
  | _ => rfl

theorem sgThrsU_eq (sgthrs : BitVec 8) : sgThrsU sgthrs = 0#9 ++ sgthrs.setWidth 7 ++ 0#16 := by
  have hzero : (0#7 ++ 0#1 ++ 0#1 : BitVec 9) = 0#9 := rfl
  rw [sgThrsU, hzero]

theorem Follows.applySGTHRS (h : Follows m c s) (params : MotorParams) :
    Follows m (applySGTHRS m c params) { s with sgThrs := params.sgThrs.setWidth 7 } := by
  refine h.writeRegister _ (sgThrsU_eq params.sgThrs) fun reg' hne => ?_
  cases reg' with
  | coolconf => exact absurd rfl hne
  | _ => rfl

theorem chopConf_eq (params : MotorParams) (currents : MotorCurrents) (mode : MotorMode) :
    chopConf currents.vSense params.mRes = (Setup.of params currents mode).chopper := by
  simp only [chopConf, Setup.chopper, Setup.of, Setup.setCurrents, toffDefault]
  ext i hi
  grind

/-- Whatever the registers were. -/
theorem follows_configure (m : Chip χ) (c : χ) (params : MotorParams) (currents : MotorCurrents)
    (mode : MotorMode) :
    Follows m (configure m c params currents mode) (.of params currents mode) := by
  intro reg hreg
  simp only [configure, TMC2130.applyMode, TMC2130.applySGTHRS, TMC2130.setCurrents,
    content_writeRegister _ _ hreg]
  cases reg with
  | chopconf => exact chopConf_eq params currents mode
  | iholdIrun => exact iHoldRun_eq _ currents
  | coolconf => exact sgThrsU_eq params.sgThrs
  | gstat | ioin | drvStatus => cases hreg
  | tpowerdown | tcoolthrs | gconf | pwmconf | tpwmthrs => rfl

/-- A driver that is not recognised is left as it is. -/
theorem Follows.init (h : Follows m c s) (drv : TMC2130) (params : MotorParams)
    (currents : MotorCurrents) (mode : MotorMode) :
    Follows m (init m drv c params currents mode).2.2
      (s.wish (.init (init m drv c params currents mode).1 (.of params currents mode))).1 := by
  rw [TMC2130.init]
  dsimp only
  split
  · exact h.readRegister .ioin
  · exact follows_configure m _ params currents mode

theorem Follows.checkForErrors (h : Follows m c s) (drv : TMC2130) :
    Follows m (checkForErrors m drv c).2.2 s := by
  rw [TMC2130.checkForErrors]
  split
  · exact (h.readRegister .gstat).readRegister .drvStatus
  · exact h

theorem Follows.perform {state : TMC2130 × χ} (h : Follows m state.2 s) (op : Op χ)
    (hpermits : Permits m state op) :
    Follows m (perform m state op).1.2 (s.wish (wished m state op)).1 := by
  obtain ⟨drv, c⟩ := state
  cases op with
  | init params currents mode => exact h.init drv params currents mode
  | setMode mode => exact h.applyMode mode
  | setBridgeOutput bOn => exact h.setBridgeOutput bOn
  | setCurrents currents => exact h.setCurrents currents
  | setSGTHRS params => exact h.applySGTHRS params
  | checkForErrors => exact h.checkForErrors drv
  | sense c' => exact fun reg hreg => (hpermits reg hreg).trans (h reg hreg)

variable (m)

/-- The currents an operation sets. -/
def Op.currents : Op χ → Option MotorCurrents
  | .init _ currents _ | .setCurrents currents => some currents
  | _ => none

theorem iHold_setCurrents (s : Setup) {currents : MotorCurrents} (h : currents.iRun < 32) :
    (s.setCurrents currents).iHold ≤ (s.setCurrents currents).iRun := by
  have hrun : currents.iRun.toNat < 32 := BitVec.lt_def.mp h
  rw [Setup.setCurrents, BitVec.le_def]
  dsimp only
  split
  · exact Nat.le_refl _
  · next hle =>
    rw [gt_iff_lt, BitVec.lt_def] at hle
    rw [BitVec.toNat_setWidth, BitVec.toNat_setWidth]
    omega

/-- Running currents of five bits keep the holding current no higher. -/
theorem iHold_wish {s : Setup} (h : s.iHold ≤ s.iRun) (state : TMC2130 × χ) {op : Op χ}
    (hcurrents : ∀ currents, op.currents = some currents → currents.iRun < 32) :
    (s.wish (wished m state op)).1.iHold ≤ (s.wish (wished m state op)).1.iRun := by
  cases op with
  | init params currents mode =>
      rw [wished]
      cases (init m state.1 state.2 params currents mode).1 with
      | true => exact iHold_setCurrents _ (hcurrents currents rfl)
      | false => exact h
  | setCurrents currents => exact iHold_setCurrents s (hcurrents currents rfl)
  | setMode _ | setBridgeOutput _ | setSGTHRS _ | checkForErrors | sense _ => exact h

theorem iHold_run {s : Setup} (h : s.iHold ≤ s.iRun) (state : TMC2130 × χ) (ops : List (Op χ))
    (hcurrents : ∀ op ∈ ops, ∀ currents, op.currents = some currents → currents.iRun < 32) :
    let after := Transducer.run Setup.wish s
      (Transducer.viewed (perform m) (wished m) state ops)
    after.iHold ≤ after.iRun := by
  induction ops generalizing s state with
  | nil => exact h
  | cons op ops ih =>
      rw [List.forall_mem_cons] at hcurrents
      exact ih (iHold_wish m h state hcurrents.1) (perform m state op).1 hcurrents.2

variable {m} in
theorem follows_init {drv : TMC2130} {c : χ} {params : MotorParams} {currents : MotorCurrents}
    {mode : MotorMode} (hinit : (init m drv c params currents mode).1 = true) :
    Follows m (init m drv c params currents mode).2.2 (.of params currents mode) := by
  rw [TMC2130.init] at hinit ⊢
  dsimp only at hinit ⊢
  split at hinit
  · cases hinit
  · next hrecognised =>
    rw [if_neg hrecognised]
    exact follows_configure m _ params currents mode

end Runs

/-- The register an address names. -/
def Registers.named (address : BitVec 8) : Option Registers :=
  [.gconf, .gstat, .ioin, .iholdIrun, .tpowerdown, .tpwmthrs, .tcoolthrs, .chopconf, .coolconf,
    .drvStatus, .pwmconf].find? fun reg => reg.address = address

theorem Registers.named_address (reg : Registers) : named reg.address = some reg := by
  cases reg <;> rfl

theorem Registers.address_ne_write (reg reg' : Registers) :
    reg.address ≠ reg'.address ||| 0x80 := by
  cases reg <;> cases reg' <;> decide

theorem Registers.write_inj {reg reg' : Registers}
    (h : reg.address ||| 0x80 = reg'.address ||| 0x80) : reg = reg' := by
  revert h
  cases reg <;> cases reg' <;> decide

/-- A chip as simple as the data sheet allows: its registers and the next answer. -/
def plainChip : Chip ((Registers → BitVec 32) × BitVec 32) where
  transfer c d :=
    ({ Datagram.ofWrite .gconf c.2 with b0 := 0 },
      (fun reg => if d.b0 = reg.address ||| 0x80 then d.data else c.1 reg,
        ((Registers.named d.b0).map c.1).getD 0))
  content c := c.1
  readout c := c.2
  answer c _ := Datagram.data_ofWrite .gconf c.2
  readout_read c d reg h := by
    rw [h, Registers.named_address]
    rfl
  content_read c d reg reg' h _ := if_neg (h ▸ reg.address_ne_write reg')
  content_write c d reg reg' h _ := by
    dsimp only
    rw [h]
    by_cases heq : reg' = reg
    · rw [if_pos heq, if_pos (by rw [heq])]
    · rw [if_neg heq, if_neg fun hwrite => heq (Registers.write_inj hwrite).symm]

/-- A chip out of reset. -/
def freshChip : (Registers → BitVec 32) × BitVec 32 :=
  (fun reg => if reg = .ioin then 0x11000040 else 0, 0)

end TMC2130

end MmuFirmware
