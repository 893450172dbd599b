import MmuFirmware.Lib.Checked
import MmuFirmware.Modules.PulseAccount
import Mathlib.Data.Nat.Sqrt
import Mathlib.Tactic.Linarith
import Mathlib.Tactic.Ring

/-!
`PulseGen::CalculateTrapezoid` over numbers. A profile says where a block stops accelerating,
where it starts to brake and which rate it ends with; what the words of the firmware compute is
the profile, as long as none of them wraps, and with the accelerations and rates an axis can be
given none does.
-/
namespace MmuFirmware

/-- The profile of a block. -/
structure Profile where
  accelerateUntil : Nat
  decelerateAfter : Nat
  finalRate : Nat

namespace Profile

variable (acceleration nominal initial final steps : Nat)

/-- The steps that lead up to the nominal rate, rounded up. -/
def rise : Nat := (nominal ^ 2 - initial ^ 2 + 2 * acceleration - 1) / (2 * acceleration)

/-- The steps that lead down to the final rate, rounded down. -/
def fall : Nat := (nominal ^ 2 - final ^ 2) / (2 * acceleration)

/-- Where two ramps meet whose outer rates have squares that differ so much. -/
def meeting (difference : Nat) : Nat :=
  (if steps % 2 = 0 then difference else difference + 2 * acceleration) / (4 * acceleration) +
    steps / 2

/-- The same for a block that ends faster than it starts, rounded up. -/
def meetingUp : Nat :=
  meeting acceleration steps (final ^ 2 - initial ^ 2 + 4 * acceleration - 1)

def plan : Profile :=
  if rise acceleration nominal initial + fall acceleration nominal final < steps then
    ⟨rise acceleration nominal initial,
      rise acceleration nominal initial +
        (steps - (rise acceleration nominal initial + fall acceleration nominal final)), final⟩
  else if initial ^ 2 ≤ final ^ 2 then
    if steps < meetingUp acceleration initial final steps then
      ⟨steps, steps, Nat.sqrt (2 * acceleration * steps + initial ^ 2)⟩
    else
      ⟨meetingUp acceleration initial final steps, meetingUp acceleration initial final steps,
        final⟩
  else
    ⟨steps - min (meeting acceleration steps (initial ^ 2 - final ^ 2)) steps,
      steps - min (meeting acceleration steps (initial ^ 2 - final ^ 2)) steps, final⟩

variable {acceleration nominal initial final steps}

/-- The ramps meet behind the end of the block just if that is too short to accelerate. -/
theorem lt_meeting_iff (hacc : 0 < acceleration) (hle : initial ^ 2 ≤ final ^ 2) :
    steps < meetingUp acceleration initial final steps ↔
      2 * acceleration * steps + initial ^ 2 < final ^ 2 := by
  obtain ⟨difference, hdifference⟩ := Nat.exists_eq_add_of_le hle
  rw [meetingUp, hdifference, Nat.add_sub_cancel_left]
  have hhalf := Nat.div_add_mod steps 2
  generalize hk : steps / 2 = k at hhalf
  rw [meeting, hk]
  have hquotient (n : Nat) : steps < n / (4 * acceleration) + k ↔
      (steps - k + 1) * (4 * acceleration) ≤ n := by
    rw [← Nat.le_div_iff_mul_le (by omega)]
    omega
  rw [hquotient]
  rcases Nat.mod_two_eq_zero_or_one steps with heven | hodd
  · rw [if_pos heven]
    have hsteps : steps = 2 * k := by omega
    rw [hsteps, show 2 * k - k = k from by omega]
    have hexpand : (k + 1) * (4 * acceleration) = 2 * acceleration * (2 * k) + 4 * acceleration := by
      ring
    omega
  · rw [if_neg (by omega)]
    have hsteps : steps = 2 * k + 1 := by omega
    rw [hsteps, show 2 * k + 1 - k = k + 1 from by omega]
    have hexpand : (k + 1 + 1) * (4 * acceleration) =
        2 * acceleration * (2 * k + 1) + 6 * acceleration := by
      ring
    omega

/-- With a plateau the block is long enough to reach both of its rates. -/
theorem reaches_of_plateau (hacc : 0 < acceleration)
    (h : rise acceleration nominal initial + fall acceleration nominal final < steps) :
    nominal ^ 2 ≤ initial ^ 2 + 2 * acceleration * steps ∧
      nominal ^ 2 < final ^ 2 + 2 * acceleration * steps := by
  have hup : rise acceleration nominal initial < steps := by omega
  have hdown : fall acceleration nominal final < steps := by omega
  rw [rise, Nat.div_lt_iff_lt_mul (by omega), Nat.mul_comm steps] at hup
  rw [fall, Nat.div_lt_iff_lt_mul (by omega), Nat.mul_comm steps] at hdown
  exact ⟨by omega, by omega⟩

/-- The points where the rate changes lie in the block and in their order, and the final rate is
none beyond the ones given. -/
theorem plan_wellFormed (hacc : 0 < acceleration) (hfinal : final ≤ nominal) :
    let p := plan acceleration nominal initial final steps
    p.accelerateUntil ≤ p.decelerateAfter ∧ p.decelerateAfter ≤ steps ∧
      p.finalRate ≤ nominal ∧ min initial final ≤ p.finalRate := by
  intro p
  have hp : p = plan acceleration nominal initial final steps := rfl
  rw [plan] at hp
  split_ifs at hp with hplateau hle hshort
  · rw [hp]
    exact ⟨Nat.le_add_right _ _, by dsimp only; omega, hfinal, Nat.min_le_right _ _⟩
  · rw [hp]
    have hcap := (lt_meeting_iff hacc hle).mp hshort
    refine ⟨Nat.le_refl _, Nat.le_refl _, ?_, (Nat.min_le_left _ _).trans ?_⟩
    · exact (Nat.sqrt_lt'.mpr hcap).le.trans hfinal
    · exact Nat.le_sqrt'.mpr (Nat.le_add_left _ _)
  · rw [hp]
    exact ⟨Nat.le_refl _, Nat.not_lt.mp hshort, hfinal, Nat.min_le_right _ _⟩
  · rw [hp]
    exact ⟨Nat.le_refl _, Nat.sub_le _ _, hfinal, Nat.min_le_right _ _⟩

/-- The final rate is never higher than the block can accelerate to; it is so low that the block
cannot brake down to it just if it was asked to be. -/
theorem plan_attains (hacc : 0 < acceleration) (hinitial : initial ≤ nominal)
    (hfinal : final ≤ nominal) (slack : Nat) :
    let p := plan acceleration nominal initial final steps
    p.finalRate ^ 2 ≤ initial ^ 2 + 2 * acceleration * steps ∧
      (initial ^ 2 ≤ p.finalRate ^ 2 + 2 * acceleration * steps + 2 * acceleration + slack ↔
        initial ^ 2 ≤ final ^ 2 + 2 * acceleration * steps + 2 * acceleration + slack) := by
  intro p
  have hp : p = plan acceleration nominal initial final steps := rfl
  have hinitialSqr : initial ^ 2 ≤ nominal ^ 2 := Nat.pow_le_pow_left hinitial 2
  have hfinalSqr : final ^ 2 ≤ nominal ^ 2 := Nat.pow_le_pow_left hfinal 2
  rw [plan] at hp
  split_ifs at hp with hplateau hle hshort
  · rw [hp]
    obtain ⟨hup, -⟩ := reaches_of_plateau hacc hplateau
    exact ⟨by dsimp only; omega, Iff.rfl⟩
  · rw [hp]
    have hroot := Nat.sqrt_le' (2 * acceleration * steps + initial ^ 2)
    have hlow : initial ≤ Nat.sqrt (2 * acceleration * steps + initial ^ 2) :=
      Nat.le_sqrt'.mpr (Nat.le_add_left _ _)
    have hlowSqr := Nat.pow_le_pow_left hlow 2
    exact ⟨by dsimp only; omega, by dsimp only; omega⟩
  · rw [hp]
    rw [lt_meeting_iff hacc hle] at hshort
    exact ⟨by dsimp only; omega, Iff.rfl⟩
  · rw [hp]
    exact ⟨by dsimp only; omega, Iff.rfl⟩

end Profile

namespace PulseGen

/-- The square root of the C library, cut to an integer. -/
def floorSqrt (n : BitVec 32) : BitVec 32 := BitVec.ofNat 32 (Nat.sqrt n.toNat)

def checkedIntersection (block : Block) (difference x2 x4 : BitVec 32) : Option (BitVec 32) := do
  let difference ← if block.steps &&& 1 = 0 then some difference else Checked.add difference x2
  let quotient ← Checked.div difference x4
  Checked.add quotient (block.steps >>> 1)

/-- The steps of the acceleration, those of the plateau, and the final rate of a block without a
plateau. -/
def checkedShortRamps (block : Block)
    (acceleration accelerationX2 initialRateSqr finalRateSqr finalRate : BitVec 32) :
    Option (BitVec 32 × BitVec 32 × BitVec 32) := do
  let accelerationX4 ← Checked.shiftLeft acceleration 2
  if finalRateSqr ≥ initialRateSqr then
    let up ← Checked.sub finalRateSqr initialRateSqr
    let up ← Checked.add up accelerationX4
    let up ← Checked.sub up 1
    let accelerateSteps ← checkedIntersection block up accelerationX2 accelerationX4
    if accelerateSteps > block.steps then
      let way ← Checked.mul accelerationX2 block.steps
      let finalRateSqr ← Checked.add way initialRateSqr
      return (block.steps, 0, floorSqrt finalRateSqr)
    else return (accelerateSteps, 0, finalRate)
  else
    let down ← Checked.sub initialRateSqr finalRateSqr
    let decelerateSteps ← checkedIntersection block down accelerationX2 accelerationX4
    let decelerateSteps := if decelerateSteps > block.steps then block.steps else decelerateSteps
    let accelerateSteps ← Checked.sub block.steps decelerateSteps
    return (accelerateSteps, 0, finalRate)

def checkedRamps (block : Block) (initialRate finalRate : BitVec 32) :
    Option (BitVec 32 × BitVec 32 × BitVec 32) := do
  let acceleration := if block.acceleration = 0 then 1 else block.acceleration
  let initialRateSqr ← Checked.mul initialRate initialRate
  let nominalRateSqr ← Checked.mul block.nominalRate block.nominalRate
  let finalRateSqr ← Checked.mul finalRate finalRate
  let accelerationX2 ← Checked.shiftLeft acceleration 1
  let up ← Checked.sub nominalRateSqr initialRateSqr
  let up ← Checked.add up accelerationX2
  let up ← Checked.sub up 1
  let accelerateSteps ← Checked.div up accelerationX2
  let down ← Checked.sub nominalRateSqr finalRateSqr
  let decelerateSteps ← Checked.div down accelerationX2
  let accelDecelSteps ← Checked.add accelerateSteps decelerateSteps
  if accelDecelSteps < block.steps then
    let plateauSteps ← Checked.sub block.steps accelDecelSteps
    return (accelerateSteps, plateauSteps, finalRate)
  else checkedShortRamps block acceleration accelerationX2 initialRateSqr finalRateSqr finalRate

/-- `CalculateTrapezoid` in words none of which may wrap. -/
def checkedTrapezoid (block : Block) (entrySpeed exitSpeed : BitVec 32) : Option Block := do
  let initialRate := limitRate block entrySpeed
  let (accelerateSteps, plateauSteps, finalRate) ←
    checkedRamps block initialRate (limitRate block exitSpeed)
  let decelerateAfter ← Checked.add accelerateSteps plateauSteps
  return { block with accelerateUntil := accelerateSteps, decelerateAfter, initialRate, finalRate }

/-- The acceleration that is reckoned with. -/
def Block.usedAcceleration (block : Block) : BitVec 32 :=
  if block.acceleration = 0 then 1 else block.acceleration

theorem Block.usedAcceleration_pos (block : Block) : 0 < block.usedAcceleration.toNat := by
  rw [usedAcceleration]
  split
  · exact Nat.one_pos
  · next hne => exact Nat.pos_of_ne_zero fun hzero => hne (BitVec.eq_of_toNat_eq hzero)

theorem Block.usedAcceleration_eq {block : Block} (h : 1 ≤ block.acceleration.toNat) :
    block.usedAcceleration = block.acceleration := by
  rw [usedAcceleration, if_neg]
  intro hzero
  rw [hzero] at h
  exact absurd h (by decide)

/-- Rates and an acceleration with which no word wraps. -/
structure InRange (block : Block) (initialRate finalRate : BitVec 32) : Prop where
  acceleration : block.usedAcceleration.toNat ≤ 400000000
  nominal : block.nominalRate.toNat ≤ Config.maxStepFrequency.toNat
  initial : initialRate.toNat ≤ block.nominalRate.toNat
  final : finalRate.toNat ≤ block.nominalRate.toNat

theorem gives_sqr {rate nominal : BitVec 32}
    (hnominal : nominal.toNat ≤ Config.maxStepFrequency.toNat)
    (h : rate.toNat ≤ nominal.toNat) :
    Checked.Gives (Checked.mul rate rate) (rate * rate) (rate.toNat ^ 2) := by
  have hmax : Config.maxStepFrequency.toNat = 40000 := rfl
  have hsqr : rate.toNat ^ 2 ≤ 40000 ^ 2 := Nat.pow_le_pow_left (by omega) 2
  rw [sq] at hsqr ⊢
  exact Checked.gives_mul rfl rfl (by omega)

theorem steps_even_iff (block : Block) : block.steps &&& 1 = 0 ↔ block.steps.toNat % 2 = 0 := by
  rw [← BitVec.toNat_inj, BitVec.toNat_and]
  exact Iff.of_eq (congrArg (· = 0) (Nat.and_one_is_mod block.steps.toNat))

theorem gives_meeting (block : Block) {difference x2 x4 : BitVec 32} {acceleration n : Nat}
    (hacc : 0 < acceleration) (hdifference : difference.toNat = n)
    (hx2 : x2.toNat = 2 * acceleration) (hx4 : x4.toNat = 4 * acceleration)
    (hfits : n + 2 * acceleration < 2 ^ 32)
    (hquotient : (n + 2 * acceleration) / (4 * acceleration) < 2 ^ 31) :
    Checked.Gives (checkedIntersection block difference x2 x4)
      (intersection block difference x2 x4)
      (Profile.meeting acceleration block.steps.toNat n) := by
  have hsteps := block.steps.isLt
  have hhalf : (block.steps >>> 1).toNat = block.steps.toNat / 2 := by
    rw [BitVec.toNat_ushiftRight, Nat.shiftRight_eq_div_pow]
  by_cases heven : block.steps &&& 1 = 0
  · have hdiv := Checked.gives_div hdifference hx4 (by omega)
    have hle : n / (4 * acceleration) ≤ (n + 2 * acceleration) / (4 * acceleration) :=
      Nat.div_le_div_right (Nat.le_add_right _ _)
    have hsum := Checked.gives_add hdiv.toNat hhalf (by omega)
    rw [Profile.meeting, if_pos ((steps_even_iff block).mp heven)]
    refine ⟨?_, ?_⟩
    · simp only [checkedIntersection, intersection, if_pos heven, Option.bind_eq_bind,
        Option.bind_some, hdiv.eq, hsum.eq]
    · rw [intersection, if_pos heven]
      exact hsum.toNat
  · have hadd := Checked.gives_add hdifference hx2 hfits
    have hdiv := Checked.gives_div hadd.toNat hx4 (by omega)
    have hsum := Checked.gives_add hdiv.toNat hhalf (by omega)
    rw [Profile.meeting, if_neg (mt (steps_even_iff block).mpr heven)]
    refine ⟨?_, ?_⟩
    · simp only [checkedIntersection, intersection, if_neg heven, Option.bind_eq_bind,
        Option.bind_some, hadd.eq, hdiv.eq, hsum.eq]
    · rw [intersection, if_neg heven]
      exact hsum.toNat

/-- The checked computation succeeds with these ramps, and their words are the numbers of the
profile. -/
structure Renders (checked : Option (BitVec 32 × BitVec 32 × BitVec 32)) (r : Ramps)
    (p : Profile) : Prop where
  succeeds : ∃ plateau, checked = some (r.accelerateUntil, plateau, r.finalRate) ∧
    Checked.add r.accelerateUntil plateau = some r.decelerateAfter
  accelerateUntil : r.accelerateUntil.toNat = p.accelerateUntil
  decelerateAfter : r.decelerateAfter.toNat = p.decelerateAfter
  finalRate : r.finalRate.toNat = p.finalRate

/-- The ramps of a block without a plateau. -/
def shortRamps (block : Block)
    (acceleration accelerationX2 initialRateSqr finalRateSqr finalRate : BitVec 32) : Ramps :=
  let accelerationX4 := acceleration <<< 2
  if finalRateSqr ≥ initialRateSqr then
    let accelerateSteps := intersection block
      (finalRateSqr - initialRateSqr + accelerationX4 - 1) accelerationX2 accelerationX4
    if accelerateSteps > block.steps then
      ⟨block.steps, block.steps, floorSqrt (accelerationX2 * block.steps + initialRateSqr)⟩
    else ⟨accelerateSteps, accelerateSteps, finalRate⟩
  else
    let decelerateSteps := intersection block (initialRateSqr - finalRateSqr)
      accelerationX2 accelerationX4
    let decelerateSteps := if decelerateSteps > block.steps then block.steps else decelerateSteps
    ⟨block.steps - decelerateSteps, block.steps - decelerateSteps, finalRate⟩

section Short

variable {block : Block} {x2 initialSqr finalSqr : BitVec 32} {initial final : Nat}

theorem gives_x4 (hacc : block.usedAcceleration.toNat ≤ 400000000) :
    Checked.Gives (Checked.shiftLeft block.usedAcceleration 2) (block.usedAcceleration <<< 2)
      (4 * block.usedAcceleration.toNat) := by
  have hshift := @Checked.gives_shiftLeft _ _ _ 2 (rfl : block.usedAcceleration.toNat = _)
    (by omega)
  rw [Nat.mul_comm] at hshift
  exact hshift

/-- The block ends no slower than it starts. -/
theorem renders_up (hacc : block.usedAcceleration.toNat ≤ 400000000)
    (hx2 : x2.toNat = 2 * block.usedAcceleration.toNat) (hinitial : initialSqr.toNat = initial ^ 2)
    (hfinal : finalSqr.toNat = final ^ 2) (hle : initial ^ 2 ≤ final ^ 2)
    (hmax : final ^ 2 ≤ 40000 ^ 2) {finalRate : BitVec 32} (hrate : finalRate.toNat = final) :
    Renders (checkedShortRamps block block.usedAcceleration x2 initialSqr finalSqr finalRate)
      (shortRamps block block.usedAcceleration x2 initialSqr finalSqr finalRate)
      (if block.steps.toNat < Profile.meetingUp block.usedAcceleration.toNat initial final
          block.steps.toNat then
        ⟨block.steps.toNat, block.steps.toNat,
          Nat.sqrt (2 * block.usedAcceleration.toNat * block.steps.toNat + initial ^ 2)⟩
      else
        ⟨Profile.meetingUp block.usedAcceleration.toNat initial final block.steps.toNat,
          Profile.meetingUp block.usedAcceleration.toNat initial final block.steps.toNat, final⟩) := by
  have hpos := block.usedAcceleration_pos
  have hx4 := gives_x4 hacc
  have hone : (1 : BitVec 32).toNat = 1 := rfl
  have hge : finalSqr ≥ initialSqr := by
    rw [ge_iff_le, BitVec.le_def, hinitial, hfinal]
    exact hle
  have hdiff := Checked.gives_sub hfinal hinitial hle
  have hdiff' := Checked.gives_add hdiff.toNat hx4.toNat (by omega)
  have hdiff'' := Checked.gives_sub hdiff'.toNat hone (by omega)
  have hmeeting := gives_meeting block hpos hdiff''.toNat hx2 hx4.toNat (by omega)
    (Nat.div_lt_of_lt_mul (by omega))
  by_cases hcut : block.steps.toNat < Profile.meetingUp block.usedAcceleration.toNat initial final
      block.steps.toNat
  · have hgt := BitVec.lt_def.mpr (hcut.trans_eq hmeeting.toNat.symm)
    have hreach := (Profile.lt_meeting_iff hpos hle).mp hcut
    have hway := Checked.gives_mul hx2 (rfl : block.steps.toNat = _) (by omega)
    have hroot := Checked.gives_add hway.toNat hinitial (by omega)
    have hlt := (Nat.sqrt_le_self (2 * block.usedAcceleration.toNat * block.steps.toNat +
      initial ^ 2)).trans_lt (hroot.toNat.symm.trans_lt (BitVec.isLt _))
    rw [if_pos hcut]
    simp only [checkedShortRamps, shortRamps, hx4.eq, if_pos hge, hdiff.eq, hdiff'.eq, hdiff''.eq,
      hmeeting.eq, gt_iff_lt, if_pos hgt, hway.eq, hroot.eq, Option.bind_eq_bind, Option.bind_some]
    refine ⟨⟨0, rfl, Checked.add_zero _⟩, rfl, rfl, ?_⟩
    rw [floorSqrt, BitVec.toNat_ofNat, hroot.toNat, Nat.mod_eq_of_lt hlt]
  · have hgt := mt (fun hgt => (BitVec.lt_def.mp hgt).trans_eq hmeeting.toNat) hcut
    rw [if_neg hcut]
    simp only [checkedShortRamps, shortRamps, hx4.eq, if_pos hge, hdiff.eq, hdiff'.eq, hdiff''.eq,
      hmeeting.eq, gt_iff_lt, if_neg hgt, Option.bind_eq_bind, Option.bind_some]
    exact ⟨⟨0, rfl, Checked.add_zero _⟩, hmeeting.toNat, hmeeting.toNat, hrate⟩

/-- The block ends slower than it starts. -/
theorem renders_down (hacc : block.usedAcceleration.toNat ≤ 400000000)
    (hx2 : x2.toNat = 2 * block.usedAcceleration.toNat) (hinitial : initialSqr.toNat = initial ^ 2)
    (hfinal : finalSqr.toNat = final ^ 2) (hlt : final ^ 2 < initial ^ 2)
    (hmax : initial ^ 2 ≤ 40000 ^ 2) {finalRate : BitVec 32} (hrate : finalRate.toNat = final) :
    Renders (checkedShortRamps block block.usedAcceleration x2 initialSqr finalSqr finalRate)
      (shortRamps block block.usedAcceleration x2 initialSqr finalSqr finalRate)
      ⟨block.steps.toNat - min (Profile.meeting block.usedAcceleration.toNat block.steps.toNat
          (initial ^ 2 - final ^ 2)) block.steps.toNat,
        block.steps.toNat - min (Profile.meeting block.usedAcceleration.toNat block.steps.toNat
          (initial ^ 2 - final ^ 2)) block.steps.toNat, final⟩ := by
  have hpos := block.usedAcceleration_pos
  have hx4 := gives_x4 hacc
  have hge : ¬ finalSqr ≥ initialSqr := by
    rw [ge_iff_le, BitVec.le_def, hinitial, hfinal, not_le]
    exact hlt
  have hdiff := Checked.gives_sub hinitial hfinal hlt.le
  have hmeeting := gives_meeting block hpos hdiff.toNat hx2 hx4.toNat
    (by omega) (Nat.div_lt_of_lt_mul (by omega))
  by_cases hcut : block.steps.toNat < Profile.meeting block.usedAcceleration.toNat
      block.steps.toNat (initial ^ 2 - final ^ 2)
  · have hgt := BitVec.lt_def.mpr (hcut.trans_eq hmeeting.toNat.symm)
    have hrest := Checked.gives_sub (rfl : block.steps.toNat = _) (rfl : block.steps.toNat = _)
      (Nat.le_refl _)
    rw [Nat.min_eq_right hcut.le]
    simp only [checkedShortRamps, shortRamps, hx4.eq, if_neg hge, hdiff.eq, hmeeting.eq, gt_iff_lt,
      if_pos hgt, hrest.eq, Option.bind_eq_bind, Option.bind_some]
    exact ⟨⟨0, rfl, Checked.add_zero _⟩, hrest.toNat, hrest.toNat, hrate⟩
  · have hgt := mt (fun hgt => (BitVec.lt_def.mp hgt).trans_eq hmeeting.toNat) hcut
    have hrest := Checked.gives_sub (rfl : block.steps.toNat = _) hmeeting.toNat
      (Nat.le_of_not_lt hcut)
    rw [Nat.min_eq_left (Nat.le_of_not_lt hcut)]
    simp only [checkedShortRamps, shortRamps, hx4.eq, if_neg hge, hdiff.eq, hmeeting.eq, gt_iff_lt,
      if_neg hgt, hrest.eq, Option.bind_eq_bind, Option.bind_some]
    exact ⟨⟨0, rfl, Checked.add_zero _⟩, hrest.toNat, hrest.toNat, hrate⟩

end Short

/-- The ramps the firmware computes are those of the profile, and no word wraps. -/
theorem renders_ramps {block : Block} {initialRate finalRate : BitVec 32}
    (h : InRange block initialRate finalRate) :
    Renders (checkedRamps block initialRate finalRate)
      (ramps floorSqrt block initialRate finalRate)
      (Profile.plan block.usedAcceleration.toNat block.nominalRate.toNat initialRate.toNat
        finalRate.toNat block.steps.toNat) := by
  have hacc := h.acceleration
  have hpos := block.usedAcceleration_pos
  have hnominal : block.nominalRate.toNat ^ 2 ≤ 40000 ^ 2 := Nat.pow_le_pow_left h.nominal 2
  have hinitial : initialRate.toNat ^ 2 ≤ block.nominalRate.toNat ^ 2 :=
    Nat.pow_le_pow_left h.initial 2
  have hfinal : finalRate.toNat ^ 2 ≤ block.nominalRate.toNat ^ 2 :=
    Nat.pow_le_pow_left h.final 2
  have hinitialSqr := gives_sqr h.nominal h.initial
  have hnominalSqr := gives_sqr h.nominal (Nat.le_refl block.nominalRate.toNat)
  have hfinalSqr := gives_sqr h.nominal h.final
  have hx2 := @Checked.gives_shiftLeft _ _ _ 1 (rfl : block.usedAcceleration.toNat = _) (by omega)
  rw [Nat.mul_comm, Nat.pow_one] at hx2
  have hone : (1 : BitVec 32).toNat = 1 := rfl
  have hup := Checked.gives_sub hnominalSqr.toNat hinitialSqr.toNat hinitial
  have hup' := Checked.gives_add hup.toNat hx2.toNat (by omega)
  have hup'' := Checked.gives_sub hup'.toNat hone (by omega)
  have hrise := Checked.gives_div hup''.toNat hx2.toNat (by omega)
  have hdown := Checked.gives_sub hnominalSqr.toNat hfinalSqr.toNat hfinal
  have hfall := Checked.gives_div hdown.toNat hx2.toNat (by omega)
  have hriseLe := Nat.div_le_self (block.nominalRate.toNat ^ 2 - initialRate.toNat ^ 2 +
    2 * block.usedAcceleration.toNat - 1) (2 * block.usedAcceleration.toNat)
  have hfallLe := Nat.div_le_self (block.nominalRate.toNat ^ 2 - finalRate.toNat ^ 2)
    (2 * block.usedAcceleration.toNat)
  have hsum := Checked.gives_add hrise.toNat hfall.toNat (by omega)
  have hused : (if block.acceleration = 0 then 1 else block.acceleration) =
      block.usedAcceleration := rfl
  rw [Profile.plan]
  by_cases hplateau : Profile.rise block.usedAcceleration.toNat block.nominalRate.toNat
      initialRate.toNat + Profile.fall block.usedAcceleration.toNat block.nominalRate.toNat
      finalRate.toNat < block.steps.toNat
  · rw [if_pos hplateau]
    have hlt := BitVec.lt_def.mpr (hsum.toNat.trans_lt hplateau)
    have hrest := Checked.gives_sub (rfl : block.steps.toNat = _) hsum.toNat hplateau.le
    have hwithin {up down steps : Nat} (h : up + down < steps) :
        up + (steps - (up + down)) ≤ steps := by
      omega
    have hafter := Checked.gives_add hrise.toNat hrest.toNat
      ((hwithin hplateau).trans_lt block.steps.isLt)
    simp only [checkedRamps, ramps, hused, hinitialSqr.eq, hnominalSqr.eq, hfinalSqr.eq, hx2.eq,
      hup.eq, hup'.eq, hup''.eq, hrise.eq, hdown.eq, hfall.eq, hsum.eq, hrest.eq, if_pos hlt,
      Option.bind_eq_bind, Option.bind_some]
    exact ⟨⟨_, rfl, hafter.eq⟩, hrise.toNat, hafter.toNat, rfl⟩
  · rw [if_neg hplateau]
    have hlt := mt (fun hlt => hsum.toNat.symm.trans_lt (BitVec.lt_def.mp hlt)) hplateau
    have hchecked : checkedRamps block initialRate finalRate =
        checkedShortRamps block block.usedAcceleration (block.usedAcceleration <<< 1)
          (initialRate * initialRate) (finalRate * finalRate) finalRate := by
      simp only [checkedRamps, hused, hinitialSqr.eq, hnominalSqr.eq, hfinalSqr.eq, hx2.eq,
        hup.eq, hup'.eq, hup''.eq, hrise.eq, hdown.eq, hfall.eq, hsum.eq, if_neg hlt,
        Option.bind_eq_bind, Option.bind_some]
    have hramps : ramps floorSqrt block initialRate finalRate =
        shortRamps block block.usedAcceleration (block.usedAcceleration <<< 1)
          (initialRate * initialRate) (finalRate * finalRate) finalRate := by
      simp only [ramps, hused, if_neg hlt, shortRamps]
    rw [hchecked, hramps]
    by_cases hle : initialRate.toNat ^ 2 ≤ finalRate.toNat ^ 2
    · rw [if_pos hle]
      exact renders_up hacc hx2.toNat hinitialSqr.toNat hfinalSqr.toNat hle
        (hfinal.trans hnominal) rfl
    · rw [if_neg hle]
      exact renders_down hacc hx2.toNat hinitialSqr.toNat hfinalSqr.toNat (Nat.lt_of_not_le hle)
        (hinitial.trans hnominal) rfl

theorem toNat_limitRate (block : Block) (rate : BitVec 32) :
    (limitRate block rate).toNat =
      min (max rate.toNat Config.minStepRate.toNat) block.nominalRate.toNat := by
  rw [limitRate]
  simp only [gt_iff_lt, BitVec.lt_def]
  split <;> split <;> omega

theorem inRange_limitRate {block : Block} (hacc : block.acceleration.toNat ≤ 400000000)
    (hnominal : block.nominalRate.toNat ≤ Config.maxStepFrequency.toNat)
    (entrySpeed exitSpeed : BitVec 32) :
    InRange block (limitRate block entrySpeed) (limitRate block exitSpeed) := by
  refine ⟨?_, hnominal, ?_, ?_⟩
  · rw [Block.usedAcceleration]
    split
    · decide
    · exact hacc
  · rw [toNat_limitRate]
    exact Nat.min_le_right _ _
  · rw [toNat_limitRate]
    exact Nat.min_le_right _ _

/-- A block whose ramps fit into it, between the rates it may have. -/
structure Block.WellFormed (block : Block) : Prop where
  order : block.accelerateUntil ≤ block.decelerateAfter
  inside : block.decelerateAfter ≤ block.steps
  initialRate : block.initialRate ≤ block.nominalRate
  finalRate : block.finalRate ≤ block.nominalRate
  slowest : min Config.minStepRate.toNat block.nominalRate.toNat ≤ block.initialRate.toNat ∧
    min Config.minStepRate.toNat block.nominalRate.toNat ≤ block.finalRate.toNat

theorem checkedTrapezoid_eq {block : Block} (hacc : block.acceleration.toNat ≤ 400000000)
    (hnominal : block.nominalRate.toNat ≤ Config.maxStepFrequency.toNat)
    (entrySpeed exitSpeed : BitVec 32) :
    checkedTrapezoid block entrySpeed exitSpeed =
      some (calculateTrapezoid floorSqrt block entrySpeed exitSpeed) := by
  obtain ⟨plateau, hchecked, hafter⟩ :=
    (renders_ramps (inRange_limitRate hacc hnominal entrySpeed exitSpeed)).succeeds
  simp only [checkedTrapezoid, hchecked, hafter, Option.bind_eq_bind, Option.bind_some]
  rfl

theorem wellFormed_trapezoid {block : Block} (hacc : block.acceleration.toNat ≤ 400000000)
    (hnominal : block.nominalRate.toNat ≤ Config.maxStepFrequency.toNat)
    (entrySpeed exitSpeed : BitVec 32) :
    (calculateTrapezoid floorSqrt block entrySpeed exitSpeed).WellFormed := by
  have hrenders := renders_ramps (inRange_limitRate hacc hnominal entrySpeed exitSpeed)
  have hinitial := toNat_limitRate block entrySpeed
  have hfinal := toNat_limitRate block exitSpeed
  obtain ⟨horder, hinside, hhigh, hlow⟩ := @Profile.plan_wellFormed
    block.usedAcceleration.toNat block.nominalRate.toNat (limitRate block entrySpeed).toNat
    (limitRate block exitSpeed).toNat block.steps.toNat block.usedAcceleration_pos (by omega)
  rw [← hrenders.accelerateUntil, ← hrenders.decelerateAfter] at horder
  rw [← hrenders.decelerateAfter] at hinside
  rw [← hrenders.finalRate] at hhigh hlow
  refine ⟨horder, hinside, ?_, hhigh, ?_, Nat.le_trans ?_ hlow⟩
  · show (limitRate block entrySpeed).toNat ≤ block.nominalRate.toNat
    omega
  · show min _ block.nominalRate.toNat ≤ (limitRate block entrySpeed).toNat
    omega
  · show min _ block.nominalRate.toNat ≤ _
    omega

/-- No operation of `CalculateTrapezoid` wraps or divides by zero, and its block is well formed. -/
theorem calculateTrapezoid_exact (block : Block) (entrySpeed exitSpeed : BitVec 32)
    (hnominal : block.nominalRate.toNat ≤ Config.maxStepFrequency.toNat)
    (hacc : block.acceleration.toNat ≤ 65535 * 200) :
    checkedTrapezoid block entrySpeed exitSpeed =
        some (calculateTrapezoid floorSqrt block entrySpeed exitSpeed) ∧
      (calculateTrapezoid floorSqrt block entrySpeed exitSpeed).WellFormed := by
  have hacc : block.acceleration.toNat ≤ 400000000 := hacc.trans (by decide)
  exact ⟨checkedTrapezoid_eq hacc hnominal entrySpeed exitSpeed,
    wellFormed_trapezoid hacc hnominal entrySpeed exitSpeed⟩

theorem calculateTrapezoid_exact_short :
    (calculateTrapezoid floorSqrt
      { steps := 3, nominalRate := 40000, acceleration := 100 } 0 4000).WellFormed :=
  (calculateTrapezoid_exact _ 0 4000 (by decide) (by decide)).2

/-! The rate a block ends with. -/

/-- The squares of the rates at both ends differ by what the way between them allows. -/
def Block.Attains (block : Block) (slack : Nat) : Prop :=
  block.initialRate.toNat ^ 2 ≤ block.finalRate.toNat ^ 2 +
      2 * block.acceleration.toNat * block.steps.toNat + 2 * block.acceleration.toNat + slack ∧
    block.finalRate.toNat ^ 2 ≤ block.initialRate.toNat ^ 2 +
      2 * block.acceleration.toNat * block.steps.toNat + 2 * block.acceleration.toNat + slack

theorem toNat_floorSqrt (n : BitVec 32) : (floorSqrt n).toNat = Nat.sqrt n.toNat := by
  rw [floorSqrt, BitVec.toNat_ofNat, Nat.mod_eq_of_lt ((Nat.sqrt_le_self _).trans_lt n.isLt)]

/-- Whatever wraps, the final rate is the one asked for or a root. -/
theorem ramps_finalRate_cases (block : Block) (initialRate finalRate : BitVec 32) :
    (ramps floorSqrt block initialRate finalRate).finalRate = finalRate ∨
      (ramps floorSqrt block initialRate finalRate).finalRate =
        floorSqrt (block.usedAcceleration <<< 1 * block.steps + initialRate * initialRate) := by
  have hused : (if block.acceleration = 0 then 1 else block.acceleration) =
      block.usedAcceleration := rfl
  simp only [ramps, hused]
  split
  · exact .inl rfl
  · split
    · split
      · exact .inr rfl
      · exact .inl rfl
    · exact .inl rfl

/-- The root is one of what the block can accelerate to. -/
theorem ramps_finalRate (block : Block) (initialRate finalRate : BitVec 32) :
    (ramps floorSqrt block initialRate finalRate).finalRate = finalRate ∨
      (ramps floorSqrt block initialRate finalRate).finalRate.toNat ^ 2 ≤
        2 * block.usedAcceleration.toNat * block.steps.toNat + initialRate.toNat ^ 2 := by
  refine (ramps_finalRate_cases block initialRate finalRate).imp_right fun hroot => ?_
  have hx2 : (block.usedAcceleration <<< 1).toNat ≤ 2 * block.usedAcceleration.toNat := by
    rw [BitVec.toNat_shiftLeft, Nat.shiftLeft_eq]
    have hmod := Nat.mod_le (block.usedAcceleration.toNat * 2 ^ 1) (2 ^ 32)
    omega
  have hway : (block.usedAcceleration <<< 1 * block.steps).toNat ≤
      2 * block.usedAcceleration.toNat * block.steps.toNat := by
    rw [BitVec.toNat_mul]
    exact (Nat.mod_le _ _).trans (Nat.mul_le_mul_right _ hx2)
  have hsqr : (initialRate * initialRate).toNat ≤ initialRate.toNat ^ 2 := by
    rw [BitVec.toNat_mul, sq]
    exact Nat.mod_le _ _
  rw [hroot, toNat_floorSqrt]
  refine (Nat.sqrt_le' _).trans ?_
  rw [BitVec.toNat_add]
  exact (Nat.mod_le _ _).trans (Nat.add_le_add hway hsqr)

/-- The square of the nominal rate fits a word, and the rates keep their values in half of one. -/
structure Block.FitsWords (block : Block) : Prop where
  nominalSqr : block.nominalRate.toNat ^ 2 < 2 ^ 32
  nominal : (block.nominalRate.setWidth 16).toNat = block.nominalRate.toNat
  initial : (block.initialRate.setWidth 16).toNat = block.initialRate.toNat
  final : (block.finalRate.setWidth 16).toNat = block.finalRate.toNat

/-- A root of a word fits half of one, however the acceleration has been set. -/
theorem fitsWords_planBlock (pg : PulseGen) {target feedRate endRate : BitVec 32}
    (hfeed : feedRate.toNat ≤ Config.maxStepFrequency.toNat) :
    (pg.planBlock floorSqrt target feedRate endRate).FitsWords := by
  have hmax : Config.maxStepFrequency.toNat = 40000 := rfl
  have hcast {rate : BitVec 32} (hrate : rate.toNat < 2 ^ 16) :
      (rate.setWidth 16).toNat = rate.toNat := by
    rw [BitVec.toNat_setWidth, Nat.mod_eq_of_lt hrate]
  have hlimited (block : Block) (rate : BitVec 32) (hblock : block.nominalRate = feedRate) :
      (limitRate block rate).toNat < 2 ^ 16 := by
    rw [toNat_limitRate, hblock]
    omega
  refine ⟨?_, hcast ?_, hcast (hlimited _ _ rfl), hcast ?_⟩
  · show feedRate.toNat ^ 2 < 2 ^ 32
    exact (Nat.pow_le_pow_left hfeed 2).trans_lt (by decide)
  · show feedRate.toNat < 2 ^ 16
    omega
  · rw [planBlock, calculateTrapezoid]
    dsimp only
    rcases ramps_finalRate_cases _ _ _ with hasked | hroot
    · rw [hasked]
      exact hlimited _ _ rfl
    · rw [hroot, toNat_floorSqrt]
      exact Nat.sqrt_lt'.mpr ((BitVec.isLt _).trans_eq (by decide))

section Attains

variable {block : Block} (entrySpeed exitSpeed : BitVec 32)

/-- The rates between which the block runs, limited to what it may have. -/
theorem attains_iff_of_exact (hpos : 1 ≤ block.acceleration.toNat)
    (hacc : block.acceleration.toNat ≤ 400000000)
    (hnominal : block.nominalRate.toNat ≤ Config.maxStepFrequency.toNat) (slack : Nat) :
    (calculateTrapezoid floorSqrt block entrySpeed exitSpeed).Attains slack ↔
      (limitRate block entrySpeed).toNat ^ 2 ≤ (limitRate block exitSpeed).toNat ^ 2 +
        2 * block.acceleration.toNat * block.steps.toNat + 2 * block.acceleration.toNat + slack := by
  have hrange := inRange_limitRate hacc hnominal entrySpeed exitSpeed
  have hrenders := renders_ramps hrange
  have hused := Block.usedAcceleration_eq hpos
  obtain ⟨hhigh, hlow⟩ := @Profile.plan_attains block.usedAcceleration.toNat
    block.nominalRate.toNat (limitRate block entrySpeed).toNat (limitRate block exitSpeed).toNat
    block.steps.toNat block.usedAcceleration_pos hrange.initial hrange.final slack
  rw [← hrenders.finalRate, hused] at hhigh hlow
  refine ⟨fun h => hlow.mp h.1, fun h => ⟨hlow.mpr h, hhigh.trans ?_⟩⟩
  exact Nat.le_add_right_of_le (Nat.le_add_right _ _)

/-- With an acceleration that high a single step is enough for every change of the rate. -/
theorem attains_of_steep (hacc : 400000000 < block.acceleration.toNat)
    (hnominal : block.nominalRate.toNat ≤ Config.maxStepFrequency.toNat)
    (hsteps : 1 ≤ block.steps.toNat) (slack : Nat) :
    (calculateTrapezoid floorSqrt block entrySpeed exitSpeed).Attains slack ∧
      (limitRate block entrySpeed).toNat ^ 2 ≤
        2 * block.acceleration.toNat * block.steps.toNat + 2 * block.acceleration.toNat := by
  have hmax : Config.maxStepFrequency.toNat = 40000 := rfl
  have hsqr (rate : BitVec 32) : (limitRate block rate).toNat ^ 2 ≤ 40000 ^ 2 := by
    refine Nat.pow_le_pow_left ?_ 2
    rw [toNat_limitRate]
    omega
  have hway : 2 * block.acceleration.toNat * 1 ≤
      2 * block.acceleration.toNat * block.steps.toNat := Nat.mul_le_mul_left _ hsteps
  have hinitial := hsqr entrySpeed
  have hfinal := hsqr exitSpeed
  have hused := Block.usedAcceleration_eq (Nat.zero_lt_of_lt hacc)
  refine ⟨⟨?_, ?_⟩, by omega⟩
  · show (limitRate block entrySpeed).toNat ^ 2 ≤
      _ + 2 * block.acceleration.toNat * block.steps.toNat + 2 * block.acceleration.toNat + slack
    omega
  · show (ramps floorSqrt block (limitRate block entrySpeed) (limitRate block exitSpeed)).finalRate.toNat ^ 2 ≤
      (limitRate block entrySpeed).toNat ^ 2 +
        2 * block.acceleration.toNat * block.steps.toNat + 2 * block.acceleration.toNat + slack
    rcases ramps_finalRate block (limitRate block entrySpeed) (limitRate block exitSpeed) with
      hasked | hroot
    · rw [hasked]
      omega
    · rw [hused] at hroot
      omega

theorem attains_iff (hpos : 1 ≤ block.acceleration.toNat)
    (hnominal : block.nominalRate.toNat ≤ Config.maxStepFrequency.toNat)
    (hsteps : 1 ≤ block.steps.toNat) (slack : Nat) :
    (calculateTrapezoid floorSqrt block entrySpeed exitSpeed).Attains slack ↔
      (limitRate block entrySpeed).toNat ^ 2 ≤ (limitRate block exitSpeed).toNat ^ 2 +
        2 * block.acceleration.toNat * block.steps.toNat + 2 * block.acceleration.toNat + slack := by
  rcases le_or_gt block.acceleration.toNat 400000000 with hacc | hacc
  · exact attains_iff_of_exact entrySpeed exitSpeed hpos hacc hnominal slack
  · obtain ⟨hattains, hany⟩ := attains_of_steep entrySpeed exitSpeed hacc hnominal hsteps slack
    exact ⟨fun _ => by omega, fun _ => hattains⟩

end Attains

theorem abs_pos_of_ne (pg : PulseGen) {target : BitVec 32} (h : target ≠ pg.position) :
    0 < (PulseGen.abs (target - pg.position)).toNat := by
  apply Nat.pos_of_ne_zero
  intro hzero
  have habs : PulseGen.abs (target - pg.position) = 0 := BitVec.eq_of_toNat_eq hzero
  rw [PulseGen.abs] at habs
  split at habs
  · exact h (sub_eq_zero.mp (neg_eq_zero.mp habs))
  · exact h (sub_eq_zero.mp habs)

/-- The rate a planned move is recorded to end with is one the axis can have there, if and only if
the move is long enough to brake from its entry speed to the rate asked for. -/
theorem planned_rate_attainable_iff (pg : PulseGen) (target feedRate endRate : BitVec 32)
    (hroom : pg.full = false) (hmoves : target ≠ pg.position)
    (hfeed : feedRate.toNat ≤ Config.maxStepFrequency.toNat)
    (hacc : 1 ≤ pg.acceleration.toNat) (slack : Nat) :
    let block := pg.planBlock floorSqrt target feedRate endRate
    let after := (pg.planMoveTo floorSqrt target feedRate endRate).2
    let limited := limitRate { nominalRate := feedRate }
    let way := 2 * pg.acceleration.toNat * (PulseGen.abs (target - pg.position)).toNat
    after.blocks = (pg.blocks.store block).advance ∧ after.lastRate = block.finalRate ∧
      (block.Attains slack ↔
        (limited (pg.entrySpeed feedRate)).toNat ^ 2 ≤
          (limited endRate).toNat ^ 2 + way + 2 * pg.acceleration.toNat + slack) := by
  intro block after limited way
  have hsteps := pg.abs_pos_of_ne hmoves
  have hplanned : after = { pg with
      blocks := (pg.blocks.store block).advance
      lastRate := block.finalRate
      position := target } := by
    show (pg.planMoveTo floorSqrt target feedRate endRate).2 = _
    rw [PulseGen.full] at hroom
    rw [PulseGen.planMoveTo, hroom, if_neg Bool.false_ne_true]
    dsimp only
    rw [if_neg fun hdropped => Nat.not_le.mpr hsteps (BitVec.le_def.mp hdropped)]
  refine ⟨congrArg PulseGen.blocks hplanned, congrArg PulseGen.lastRate hplanned, ?_⟩
  refine attains_iff (pg.entrySpeed feedRate) endRate ?_ ?_ ?_ slack
  · exact hacc
  · exact hfeed
  · exact hsteps

/-- A move of one step, entered at full speed, that is to end at the lowest rate. -/
def stopShort : PulseGen :=
  { maxJerk := 4000, acceleration := 100, lastRate := 40000 }

theorem planned_rate_attainable_iff_long :
    ((stopShort).planBlock floorSqrt 10000000 40000 0).Attains 0 :=
  ((planned_rate_attainable_iff stopShort 10000000 40000 0 (by decide +kernel) (by decide +kernel)
    (by decide) (by decide) 0).2.2).mpr (by decide +kernel)

theorem planned_rate_not_attainable :
    ¬ ∀ (memory : PulseGen) (position : BitVec 32) (ops : List Op)
        (target feedRate endRate : BitVec 32),
      let pg := Transducer.run (perform floorSqrt) (start memory position) ops
      let block := pg.planBlock floorSqrt target feedRate endRate
      feedRate.toNat ≤ Config.maxStepFrequency.toNat → 1 ≤ pg.acceleration.toNat →
        block.Attains (2 * block.finalRate.toNat + 1) := by
  intro h
  have hattains := h { maxJerk := 4000, acceleration := 800 } 0 [.planMoveTo 1000000 40000 40000]
    1000001 40000 0 (by decide) (by decide +kernel)
  revert hattains
  rw [Block.Attains]
  decide +kernel

end PulseGen

end MmuFirmware
