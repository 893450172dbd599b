import MmuFirmware.Lib.BitSerial
import MmuFirmware.Modules.Globals
import Mathlib.Tactic.IntervalCases

/-!
`hal/shr16.cpp`: sixteen signals behind a chain of two shift registers that three pins feed. The
enable and direction inputs of the motor drivers and the LEDs share it, so each change sends a
whole word.
-/
namespace MmuFirmware

namespace SHR16

inductive Pin where
  | data | latch | clock
  deriving DecidableEq, Repr

/-- What the data sheet promises of two 74HC595 in a row: the stages move up by one on a rising
clock, the outputs take over the stages on a rising latch. -/
structure Chain (χ : Type*) where
  writePin : χ → Pin → Bool → χ
  level : χ → Pin → Bool
  stages : χ → BitVec 16
  outputs : χ → BitVec 16
  level_write : ∀ c pin b pin',
    level (writePin c pin b) pin' = if pin' = pin then b else level c pin'
  stages_clock : ∀ c, level c .clock = false →
    stages (writePin c .clock true) = BitSerial.shifted (stages c) (level c .data)
  stages_write : ∀ c pin b, ¬ (pin = .clock ∧ b = true) → stages (writePin c pin b) = stages c
  outputs_latch : ∀ c, level c .latch = false → outputs (writePin c .latch true) = stages c
  outputs_write : ∀ c pin b, ¬ (pin = .latch ∧ b = true) → outputs (writePin c pin b) = outputs c

def ledMsk : BitVec 16 := 0xffc0

def enaMsk : BitVec 16 := 0x002a

/-- The bits of `OutputU`, last field first. -/
def outputU (led : BitVec 16) : BitVec 16 :=
  led.extractLsb' 0 8 ++ led.extractLsb' 9 1 ++ led.extractLsb' 8 1 ++ 0#6

end SHR16

/-- The last word written, and the chain it went to. -/
structure SHR16 (χ : Type*) where
  shr16V : BitVec 16
  chain : χ

namespace SHR16

variable {χ : Type*} (m : Chain χ)

theorem toNat_shift_lt {mask : BitVec 16} (h : ¬ mask = 0) : (mask >>> 1).toNat < mask.toNat := by
  have hpos : mask.toNat ≠ 0 := fun hzero => h (BitVec.eq_of_toNat_eq hzero)
  rw [BitVec.toNat_ushiftRight, Nat.shiftRight_eq_div_pow]
  omega

/-- The loop of `Write`, from a mask on. -/
def clockOut (v : BitVec 16) (c : χ) (mask : BitVec 16) : χ :=
  if h : mask = 0 then c
  else
    have := toNat_shift_lt h
    let c := m.writePin c .clock false
    let c := m.writePin c .data (mask &&& v != 0)
    let c := m.writePin c .clock true
    clockOut v c (mask >>> 1)
termination_by mask.toNat

def write (s : SHR16 χ) (v : BitVec 16) : SHR16 χ :=
  let c := clockOut m v s.chain 0x8000
  let c := m.writePin c .clock false
  let c := m.writePin c .latch true
  let c := m.writePin c .latch false
  ⟨v, c⟩

def init (s : SHR16 χ) : SHR16 χ :=
  let c := m.writePin s.chain .data false
  let c := m.writePin c .latch false
  let c := m.writePin c .clock false
  write m { s with chain := c } enaMsk

def setLED (s : SHR16 χ) (led : BitVec 16) : SHR16 χ :=
  write m s ((s.shr16V &&& ~~~ledMsk) ||| outputU led)

def setTMCEnabled (s : SHR16 χ) (index : Nat) (ena : Bool) : SHR16 χ :=
  let mask := 1#16 <<< (2 * index + 1)
  if ena then write m s (s.shr16V &&& ~~~mask) else write m s (s.shr16V ||| mask)

def setTMCDir (s : SHR16 χ) (index : Nat) (dir : Bool) : SHR16 χ :=
  let mask := 1#16 <<< (2 * index)
  if dir then write m s (s.shr16V &&& ~~~mask) else write m s (s.shr16V ||| mask)

/-- The outputs are the last word written, and the latch can rise again. -/
structure Drives (s : SHR16 χ) : Prop where
  outputs : m.outputs s.chain = s.shr16V
  latch : m.level s.chain .latch = false

section Write

variable {m} {c : χ} {s : SHR16 χ}

/-- The pin writes of one pass. -/
def sent (m : Chain χ) (c : χ) (b : Bool) : χ :=
  m.writePin (m.writePin (m.writePin c .clock false) .data b) .clock true

theorem stages_sent (b : Bool) : m.stages (sent m c b) = BitSerial.shifted (m.stages c) b := by
  have hclock : m.level (m.writePin (m.writePin c .clock false) .data b) .clock = false := by
    simp [m.level_write]
  have hdata : m.level (m.writePin (m.writePin c .clock false) .data b) .data = b := by
    simp [m.level_write]
  rw [sent, m.stages_clock _ hclock, hdata, m.stages_write _ _ _ (by simp),
    m.stages_write _ _ _ (by simp)]

theorem outputs_sent (b : Bool) : m.outputs (sent m c b) = m.outputs c := by
  rw [sent, m.outputs_write _ _ _ (by simp), m.outputs_write _ _ _ (by simp),
    m.outputs_write _ _ _ (by simp)]

theorem latch_sent (b : Bool) : m.level (sent m c b) .latch = m.level c .latch := by
  simp [sent, m.level_write]

/-- A pass with a single bit in the mask sends this bit of the word. -/
theorem clockOut_pass (v : BitVec 16) (c : χ) {n : Nat} (hn : n < 16) :
    clockOut m v c (1#16 <<< n) =
      clockOut m v (sent m c (v.getLsbD n)) (1#16 <<< n >>> 1) := by
  have hsome : ¬ 1#16 <<< n = 0 := by
    intro hzero
    have hbit := congrArg (fun mask : BitVec 16 => mask.getLsbD n) hzero
    simp [hn] at hbit
  have hbit : (1#16 <<< n &&& v != 0) = v.getLsbD n := by
    rw [← BitVec.twoPow_eq, BitVec.twoPow_and]
    cases v.getLsbD n with
    | false => rfl
    | true => exact bne_iff_ne.mpr (BitVec.twoPow_eq 16 n ▸ hsome)
  rw [clockOut, dif_neg hsome, hbit]
  rfl

theorem mask_shift {n : Nat} (hn : n + 1 < 16) : 1#16 <<< (n + 1) >>> 1 = 1#16 <<< n := by
  apply BitVec.eq_of_getLsbD_eq
  intro k hk
  rw [BitVec.getLsbD_ushiftRight, ← BitVec.twoPow_eq, ← BitVec.twoPow_eq,
    BitVec.getLsbD_twoPow, BitVec.getLsbD_twoPow]
  simp only [hn, Nat.lt_of_succ_lt hn, decide_true, Bool.true_and, decide_eq_decide]
  omega

theorem clockOut_spec (v : BitVec 16) (c : χ) {n : Nat} (hn : n < 16) :
    m.stages (clockOut m v c (1#16 <<< n)) =
        BitSerial.shiftIn (m.stages c) (BitSerial.msbFirst v (n + 1)) ∧
      m.outputs (clockOut m v c (1#16 <<< n)) = m.outputs c ∧
      m.level (clockOut m v c (1#16 <<< n)) .latch = m.level c .latch := by
  induction n generalizing c with
  | zero =>
      have hlast : clockOut m v c (1#16 <<< 0) = sent m c (v.getLsbD 0) := by
        rw [clockOut_pass v c hn, clockOut]
        exact dif_pos (by decide)
      rw [hlast]
      exact ⟨stages_sent _, outputs_sent _, latch_sent _⟩
  | succ n ih =>
      rw [clockOut_pass v c hn, mask_shift hn, BitSerial.msbFirst_succ]
      obtain ⟨hstages, houtputs, hlatch⟩ :=
        ih (sent m c (v.getLsbD (n + 1))) (Nat.lt_of_succ_lt hn)
      refine ⟨?_, houtputs.trans (outputs_sent _), hlatch.trans (latch_sent _)⟩
      rw [hstages, stages_sent]
      rfl

theorem drives_write (hlatch : m.level s.chain .latch = false) (v : BitVec 16) :
    Drives m (write m s v) ∧ (write m s v).shr16V = v := by
  have hspec := clockOut_spec (m := m) v s.chain (n := 15) (by decide)
  have hmask : 1#16 <<< 15 = 0x8000#16 := by decide
  rw [hmask, BitSerial.shiftIn_msbFirst] at hspec
  obtain ⟨hstages, -, hlevel⟩ := hspec
  have hlow : m.level (m.writePin (clockOut m v s.chain 0x8000) .clock false) .latch = false := by
    rw [m.level_write, if_neg (by decide)]
    exact hlevel.trans hlatch
  refine ⟨⟨?_, ?_⟩, rfl⟩
  · rw [write]
    dsimp only
    rw [m.outputs_write _ _ _ (by simp), m.outputs_latch _ hlow, m.stages_write _ _ _ (by simp)]
    exact hstages
  · rw [write]
    dsimp only
    rw [m.level_write, if_pos rfl]

theorem drives_init (s : SHR16 χ) : Drives m (init m s) ∧ (init m s).shr16V = enaMsk := by
  apply drives_write
  simp [m.level_write]

theorem getLsbD_clear (v : BitVec 16) {bit k : Nat} (hk : k < 16) :
    (v &&& ~~~(1#16 <<< bit)).getLsbD k = if k = bit then false else v.getLsbD k := by
  rw [← BitVec.twoPow_eq, BitVec.getLsbD_and, BitVec.getLsbD_not, BitVec.getLsbD_twoPow]
  split
  · subst bit
    simp [hk]
  · next hother => simp [hk, Ne.symm hother]

theorem getLsbD_raise (v : BitVec 16) {bit k : Nat} (hk : k < 16) :
    (v ||| 1#16 <<< bit).getLsbD k = if k = bit then true else v.getLsbD k := by
  rw [← BitVec.twoPow_eq, BitVec.getLsbD_or, BitVec.getLsbD_twoPow]
  split
  · subst bit
    simp [hk]
  · next hother => simp [Ne.symm hother]

/-- The enable inputs are inverted. -/
theorem Drives.setTMCEnabled (h : Drives m s) (index : Nat) (ena : Bool) :
    Drives m (s.setTMCEnabled m index ena) ∧
      ∀ k < 16, (s.setTMCEnabled m index ena).shr16V.getLsbD k =
        if k = 2 * index + 1 then !ena else s.shr16V.getLsbD k := by
  cases ena with
  | false =>
      obtain ⟨hdrives, hword⟩ := drives_write h.latch (s.shr16V ||| 1#16 <<< (2 * index + 1))
      refine ⟨hdrives, fun k hk => ?_⟩
      exact (congrArg (BitVec.getLsbD · k) hword).trans (getLsbD_raise _ hk)
  | true =>
      obtain ⟨hdrives, hword⟩ := drives_write h.latch (s.shr16V &&& ~~~(1#16 <<< (2 * index + 1)))
      refine ⟨hdrives, fun k hk => ?_⟩
      exact (congrArg (BitVec.getLsbD · k) hword).trans (getLsbD_clear _ hk)

/-- So are the direction inputs. -/
theorem Drives.setTMCDir (h : Drives m s) (index : Nat) (dir : Bool) :
    Drives m (s.setTMCDir m index dir) ∧
      ∀ k < 16, (s.setTMCDir m index dir).shr16V.getLsbD k =
        if k = 2 * index then !dir else s.shr16V.getLsbD k := by
  cases dir with
  | false =>
      obtain ⟨hdrives, hword⟩ := drives_write h.latch (s.shr16V ||| 1#16 <<< (2 * index))
      refine ⟨hdrives, fun k hk => ?_⟩
      exact (congrArg (BitVec.getLsbD · k) hword).trans (getLsbD_raise _ hk)
  | true =>
      obtain ⟨hdrives, hword⟩ := drives_write h.latch (s.shr16V &&& ~~~(1#16 <<< (2 * index)))
      refine ⟨hdrives, fun k hk => ?_⟩
      exact (congrArg (BitVec.getLsbD · k) hword).trans (getLsbD_clear _ hk)

/-- The output of a LED by its place in the array: the first pair comes last in the first
register, the other ones are in the second. -/
def ledOutput (index : Nat) : Nat := if index < 2 then 7 - index else 17 - index

theorem ledOutput_bounds {index : Nat} (hindex : index < 10) :
    6 ≤ ledOutput index ∧ ledOutput index < 16 := by
  rw [ledOutput]
  split <;> omega

theorem getLsbD_outputU (led : BitVec 16) {index : Nat} (hindex : index < 10) :
    (outputU led).getLsbD (ledOutput index) = led.getLsbD (9 - index) := by
  interval_cases index <;>
    simp only [outputU, ledOutput, BitVec.getLsbD_append, BitVec.getLsbD_extractLsb'] <;>
    rfl

theorem getLsbD_outputU_low (led : BitVec 16) {k : Nat} (hk : k < 6) :
    (outputU led).getLsbD k = false := by
  simp only [outputU, BitVec.getLsbD_append, BitVec.getLsbD_extractLsb']
  grind

theorem getLsbD_ledMsk {k : Nat} (hk : k < 16) : ledMsk.getLsbD k = decide (6 ≤ k) := by
  have hall : ∀ k : Fin 16, ledMsk.getLsbD k = decide (6 ≤ k.val) := by decide
  exact hall ⟨k, hk⟩

theorem Drives.setLED (h : Drives m s) (led : BitVec 16) :
    Drives m (s.setLED m led) ∧
      (∀ k < 6, (s.setLED m led).shr16V.getLsbD k = s.shr16V.getLsbD k) ∧
      ∀ index < 10,
        (s.setLED m led).shr16V.getLsbD (ledOutput index) = led.getLsbD (9 - index) := by
  obtain ⟨hdrives, hword⟩ :=
    drives_write h.latch ((s.shr16V &&& ~~~ledMsk) ||| outputU led)
  refine ⟨hdrives, fun k hk => ?_, fun index hindex => ?_⟩
  · refine (congrArg (BitVec.getLsbD · k) hword).trans ?_
    have hlt : k < 16 := Nat.lt_of_lt_of_le hk (by decide)
    rw [BitVec.getLsbD_or, BitVec.getLsbD_and, BitVec.getLsbD_not, getLsbD_ledMsk hlt,
      getLsbD_outputU_low led hk]
    simp only [hlt, Nat.not_le.mpr hk, decide_true, decide_false, Bool.not_false, Bool.and_true,
      Bool.or_false]
  · refine (congrArg (BitVec.getLsbD · (ledOutput index)) hword).trans ?_
    obtain ⟨hle, hlt⟩ := ledOutput_bounds hindex
    rw [BitVec.getLsbD_or, BitVec.getLsbD_and, BitVec.getLsbD_not, getLsbD_ledMsk hlt,
      getLsbD_outputU led hindex]
    simp only [hle, decide_true, Bool.not_true, Bool.and_false, Bool.false_or]

end Write

end SHR16

end MmuFirmware
