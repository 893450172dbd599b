import MmuFirmware.Logic.HwSanity

/-!
What the hardware test finds out. It goes through the axes one after another and through the
levels of their pins three times; a fault mask stays clear as long as every readback of its
axis agrees. A step that does not wait for a display to be over takes the test forward.
-/
namespace MmuFirmware
namespace HWSanity

section Readbacks

/-- STEP and DIR read as they were set, ENA the other way round. -/
def Agrees (r : Readback) : Prop :=
  testBits r.ioin 0b1 = decide (r.setState &&& bitStep ≠ 0) ∧
    testBits r.ioin 0b10 = decide (r.setState &&& bitDir ≠ 0) ∧
    testBits r.ioin 0b10000 = !decide (r.setState &&& bitEna ≠ 0)

instance (r : Readback) : Decidable (Agrees r) := inferInstanceAs (Decidable (_ ∧ _ ∧ _))

theorem bitErrs_eq_zero_iff {r : Readback} (h : r.setState.toNat < 8) :
    bitErrs r.setState r.ioin = 0 ↔ Agrees r := by
  have hbits : ∀ (low : Fin 4) (ena : Bool) (setState : Fin 8),
      (((UInt32.ofNat low ||| (if ena = true then 0 else 4)) ^^^
        (UInt8.ofNat setState).toUInt32).toUInt8 = 0 ↔
      testBits (UInt32.ofNat low) 0b1 = decide (UInt8.ofNat setState &&& bitStep ≠ 0) ∧
        testBits (UInt32.ofNat low) 0b10 = decide (UInt8.ofNat setState &&& bitDir ≠ 0) ∧
        ena = !decide (UInt8.ofNat setState &&& bitEna ≠ 0)) := by
    decide +kernel
  have hlow : (r.ioin &&& 0b11).toNat < 4 := by
    rw [UInt32.toNat_and]
    exact Nat.lt_of_le_of_lt Nat.and_le_right (by decide)
  have hone : testBits r.ioin 0b1 = testBits (r.ioin &&& 0b11) 0b1 := by
    rw [testBits, testBits, UInt32.and_assoc]
    rfl
  have htwo : testBits r.ioin 0b10 = testBits (r.ioin &&& 0b11) 0b10 := by
    rw [testBits, testBits, UInt32.and_assoc]
    rfl
  have hspec := hbits ⟨_, hlow⟩ (testBits r.ioin 0b10000) ⟨_, h⟩
  simp only [UInt32.ofNat_toNat, UInt8.ofNat_toNat] at hspec
  rw [Agrees, hone, htwo, ← hspec, bitErrs, composeIoin]
  simp only [testBits, bne_iff_ne, ne_eq]

end Readbacks

/-- What the passes over the pins of an axis set, in this order. -/
def passes (axis : Axis) : List (Axis × UInt8) :=
  (List.range (Config.testPasses * 8).toNat).map fun t => (axis, UInt8.ofNat t % 8)

def testPlan : List (Axis × UInt8) := [Axis.idler, .selector, .pulley].flatMap passes

def setting (r : Readback) : Axis × UInt8 := (r.axis, r.setState)

/-- What the end of the test says about the readbacks. -/
structure Concluded (c : HWSanity) (readbacks : List Readback) : Prop where
  plan : readbacks.map setting = testPlan
  ok_iff : c.state = .ok ↔ ∀ r ∈ readbacks, Agrees r
  error_ok : c.state = .ok → c.error = .ok
  failed : c.state ≠ .ok → c.state = .errHwTestFailed
  code : c.state ≠ .ok → withoutAxisBits c.error = .mmuSolderingNeedsAttention
  axisBits : c.state ≠ .ok → ∀ axis : Axis,
    c.error &&& axis.errorBit ≠ 0 ↔ ∃ r ∈ readbacks, r.axis = axis ∧ ¬ Agrees r

theorem Concluded.state_ne {c : HWSanity} {readbacks : List Readback}
    (h : Concluded c readbacks) : c.state ≠ .hwTestDisplay := by
  intro hstate
  have hfailed := h.failed (by rw [hstate]; decide)
  rw [hstate] at hfailed
  exact absurd hfailed (by decide)

/-- What has been read, and that the fault masks tell the faulty axes. -/
structure Tested (faultMasks : Axis → UInt8) (readbacks : List Readback)
    (settings : List (Axis × UInt8)) : Prop where
  settings : readbacks.map setting = settings
  masks : ∀ axis, faultMasks axis = 0 ↔ ∀ r ∈ readbacks, r.axis = axis → Agrees r

/-- The state that takes up an axis, what has been read by then, and the state after it. -/
def startState : Axis → ProgressCode
  | .idler => .hwTestIdler
  | .selector => .hwTestSelector
  | .pulley => .hwTestPulley

def before : Axis → List (Axis × UInt8)
  | .idler => []
  | .selector => passes .idler
  | .pulley => passes .idler ++ passes .selector

def followState : Axis → ProgressCode
  | .idler => .hwTestSelector
  | .selector => .hwTestPulley
  | .pulley => .hwTestCleanup

/-- How many axes are still to come. -/
def axesAfter : Axis → Nat
  | .idler => 2
  | .selector => 1
  | .pulley => 0

/-- Where the test is, and how far from its end. -/
inductive Progress : Nat → HWSanity × TestBench → Prop
  | start {c b} (hstate : c.state = .hwTestBegin)
      (h : Tested c.data.faultMasks b.readbacks []) : Progress 200 (c, b)
  | prepare {c b} (axis : Axis) (hstate : c.state = startState axis)
      (hstep : c.data.testStep = 0) (h : Tested c.data.faultMasks b.readbacks (before axis)) :
      Progress (50 * axesAfter axis + 50) (c, b)
  | test {c b} (axis : Axis) (t : Nat) (hle : t ≤ 24)
      (hstate : c.state = .hwTestExec ∨ c.state = .hwTestDisplay)
      (haxis : c.data.axis = axis) (hnext : c.data.nextState = followState axis)
      (hstep : c.data.testStep.toNat = t)
      (h : Tested c.data.faultMasks b.readbacks (before axis ++ (passes axis).take t)) :
      Progress (50 * axesAfter axis + 25 - t) (c, b)
  | cleanup {c b} (hstate : c.state = .hwTestCleanup)
      (h : Tested c.data.faultMasks b.readbacks testPlan) : Progress 0 (c, b)

section Steps

variable {c : HWSanity} {b : TestBench} {i : TestReadings} {axis : Axis}

theorem passes_take_succ {t : Nat} (h : t < 24) :
    (passes axis).take (t + 1) = (passes axis).take t ++ [(axis, UInt8.ofNat t % 8)] := by
  rw [List.take_add_one]
  congr 1
  rw [passes, List.getElem?_map, List.getElem?_range (by exact h)]
  rfl

theorem passes_take_all : (passes axis).take 24 = passes axis :=
  List.take_of_length_le (by simp [passes]; decide)

theorem Tested.readback {faultMasks : Axis → UInt8} {readbacks : List Readback}
    {settings : List (Axis × UInt8)} (h : Tested faultMasks readbacks settings) (r : Readback)
    (hset : r.setState.toNat < 8) :
    Tested (Function.update faultMasks r.axis (faultMasks r.axis ||| bitErrs r.setState r.ioin))
      (readbacks ++ [r]) (settings ++ [(r.axis, r.setState)]) where
  settings := by
    rw [List.map_append, h.settings]
    rfl
  masks := by
    intro axis
    simp only [List.forall_mem_append, List.forall_mem_singleton, ← h.masks axis]
    by_cases hsame : r.axis = axis
    · subst hsame
      rw [Function.update_self, UInt8.or_eq_zero_iff, bitErrs_eq_zero_iff hset]
      simp only [forall_const]
    · rw [Function.update_of_ne (Ne.symm hsame)]
      simp [hsame]

theorem exec_progress {t : Nat} (hle : t ≤ 24) (haxis : c.data.axis = axis)
    (hnext : c.data.nextState = followState axis) (hstep : c.data.testStep.toNat = t)
    (h : Tested c.data.faultMasks b.readbacks (before axis ++ (passes axis).take t)) :
    (exec c i b).1 = false ∧
      ∃ m' < 50 * axesAfter axis + 25 - t, Progress m' (exec c i b).2 := by
  rw [exec]
  split
  · next hlt =>
      have ht : t < 24 := by
        rw [← hstep]
        exact UInt8.lt_iff_toNat_lt.mp hlt
      have hset : (c.data.testStep % 8).toNat < 8 := by
        rw [UInt8.toNat_mod]
        exact Nat.mod_lt _ (by decide)
      have hread := h.readback ⟨c.data.axis, c.data.testStep % 8, i.ioin⟩ hset
      refine ⟨rfl, _, ?_, .test axis (t + 1) ht (.inr rfl) haxis hnext ?_ ?_⟩
      · omega
      · simp only [UInt8.toNat_add, hstep]
        exact Nat.mod_eq_of_lt (Nat.lt_of_le_of_lt ht (by decide))
      · subst haxis hstep
        rw [passes_take_succ ht, ← List.append_assoc, UInt8.ofNat_toNat]
        exact hread
  · next hge =>
      have ht : t = 24 := by
        rw [UInt8.lt_iff_toNat_lt, hstep] at hge
        exact Nat.le_antisymm hle (Nat.le_of_not_lt hge)
      subst ht
      rw [passes_take_all] at h
      refine ⟨rfl, ?_⟩
      cases axis with
      | idler => exact ⟨_, by decide, .prepare .selector hnext rfl h⟩
      | selector => exact ⟨_, by decide, .prepare .pulley hnext rfl h⟩
      | pulley =>
          refine ⟨_, by decide, .cleanup hnext ?_⟩
          rw [before, List.append_assoc] at h
          exact h

theorem foldl_addErrorAxisBit (faulty : Axis → Bool) :
    withoutAxisBits ((axesByNumber.filter faulty).foldl addErrorAxisBit
      .mmuSolderingNeedsAttention) = .mmuSolderingNeedsAttention ∧
    ∀ axis : Axis, (axesByNumber.filter faulty).foldl addErrorAxisBit
      .mmuSolderingNeedsAttention &&& axis.errorBit ≠ 0 ↔ faulty axis = true := by
  rw [axesByNumber]
  cases hpulley : faulty .pulley <;> cases hselector : faulty .selector <;>
    cases hidler : faulty .idler <;>
    simp only [List.filter, hpulley, hselector, hidler] <;>
    refine ⟨by decide, fun axis => ?_⟩ <;>
    cases axis <;> simp only [hpulley, hselector, hidler] <;> decide

theorem Tested.readbacks_agree {faultMasks : Axis → UInt8} {readbacks : List Readback}
    {settings : List (Axis × UInt8)} (h : Tested faultMasks readbacks settings) :
    (∀ axis, faultMasks axis = 0) ↔ ∀ r ∈ readbacks, Agrees r := by
  simp only [h.masks]
  exact ⟨fun hall r hr => hall r.axis r hr rfl, fun hall axis r hr _ => hall r hr⟩

theorem readbacks_cleanup : (cleanup c i b).2.2.readbacks = b.readbacks := by
  rw [cleanup]
  split <;> simp only [TestBench.setLeds]

theorem cleanup_concluded (h : Tested c.data.faultMasks b.readbacks testPlan) :
    (cleanup c i b).1 = true ∧ Concluded (cleanup c i b).2.1 (cleanup c i b).2.2.readbacks := by
  have hclear : ¬ (c.data.faultMasks .pulley ≠ 0 ∨ c.data.faultMasks .selector ≠ 0 ∨
      c.data.faultMasks .idler ≠ 0) ↔ ∀ r ∈ b.readbacks, Agrees r := by
    rw [← h.readbacks_agree]
    constructor
    · intro hnone axis
      cases axis <;> simp_all
    · intro hall
      simp [hall]
  rw [readbacks_cleanup, cleanup]
  split
  · next hfaulty =>
      obtain ⟨hcode, hbits⟩ :=
        foldl_addErrorAxisBit fun axis => decide (c.data.faultMasks axis ≠ 0)
      have hmismatch : ∀ axis, decide (c.data.faultMasks axis ≠ 0) = true ↔
          ∃ r ∈ b.readbacks, r.axis = axis ∧ ¬ Agrees r := by
        intro axis
        rw [decide_eq_true_iff, ne_eq, h.masks axis]
        push Not
        exact Iff.rfl
      have hne : ProgressCode.errHwTestFailed ≠ .ok := by decide
      refine ⟨rfl, ?_⟩
      exact
        { plan := h.settings
          ok_iff := ⟨fun hok => absurd hok hne, fun hall => absurd hfaulty (hclear.mpr hall)⟩
          error_ok := fun hok => absurd hok hne
          failed := fun _ => rfl
          code := fun _ => hcode
          axisBits := fun _ axis => (hbits axis).trans (hmismatch axis) }
  · next hsound =>
      refine ⟨rfl, ?_⟩
      exact
        { plan := h.settings
          ok_iff := ⟨fun _ => hclear.mp hsound, fun _ => rfl⟩
          error_ok := fun _ => rfl
          failed := fun hne => absurd rfl hne
          code := fun hne => absurd rfl hne
          axisBits := fun hne => absurd rfl hne }

theorem startAxis_progress {greenMode redMode : LEDMode}
    (h : Tested c.data.faultMasks b.readbacks (before axis)) (hstep : c.data.testStep = 0) :
    (startAxis c axis greenMode redMode (followState axis) i b).1 = false ∧
      ∃ m' < 50 * axesAfter axis + 50,
        Progress m' (startAxis c axis greenMode redMode (followState axis) i b).2 := by
  refine ⟨rfl, _, ?_, .test axis 0 (Nat.zero_le 24) (.inl rfl) rfl rfl ?_ ?_⟩
  · omega
  · simp only [hstep]
    rfl
  · rw [List.take_zero, List.append_nil]
    exact h

end Steps

/-- The result of the last step is still displayed. -/
def Displays (i : TestReadings) (r : HWSanity × TestBench) : Prop :=
  r.1.state = .hwTestDisplay ∧ ¬ i.elapsed - r.1.data.waitStart > Config.ledWaitMs

theorem advances :
    WaitLoop.Advances (fun (i : TestReadings) (r : HWSanity × TestBench) => stepInner r.1 i r.2)
      Displays Progress fun r => Concluded r.1 r.2.readbacks where
  waits := by
    intro m r i _ hwaits
    simp only [stepInner, hwaits.1]
    exact if_neg hwaits.2
  advances := by
    intro m r i hprogress hover
    cases hprogress with
    | @start c b hstate h =>
        simp only [stepInner, hstate]
        exact .inr ⟨trivial, _, by decide, .prepare .idler rfl rfl h⟩
    | @prepare c b axis hstate hstep h =>
        refine .inr ?_
        cases axis with
        | idler =>
            simp only [stepInner, hstate, startState]
            exact startAxis_progress h hstep
        | selector =>
            simp only [stepInner, hstate, startState]
            exact startAxis_progress h hstep
        | pulley =>
            simp only [stepInner, hstate, startState]
            exact startAxis_progress h hstep
    | @test c b axis t hle hstate haxis hnext hstep h =>
        refine .inr ?_
        obtain hstate | hstate := hstate
        · simp only [stepInner, hstate]
          exact exec_progress hle haxis hnext hstep h
        · have hended : i.elapsed - c.data.waitStart > Config.ledWaitMs := by
            by_contra hnot
            exact hover ⟨hstate, hnot⟩
          simp only [stepInner, hstate, if_pos hended]
          exact exec_progress hle haxis hnext hstep h
    | @cleanup c b hstate h =>
        simp only [stepInner, hstate]
        exact .inl (cleanup_concluded h)

theorem progress_reset (c : HWSanity) (b : TestBench) :
    Progress 200 ((reset c).2, { b with readbacks := [] }) :=
  .start rfl ⟨rfl, fun axis => by simp [reset]⟩

/-- A test that has been started is concluded when it ends, and it ends when and only when the
clock lets every display of it come to its end. -/
theorem faulty_axes_reported (c : HWSanity) (b : TestBench) (readings : Nat → TestReadings) :
    let test := run (reset c).2 { b with readbacks := [] } readings
    (∀ n, (test n).1 = true → Concluded (test n).2.1 (test n).2.2.readbacks) ∧
      ((∃ n, (test n).1 = true) ↔
        ∀ n, (test n).2.1.state = .hwTestDisplay →
          ∃ k ≥ n, (readings k).elapsed - (test n).2.1.data.waitStart > Config.ledWaitMs) := by
  have hover := advances.over_iff (progress_reset c b) readings
  have hat := advances.ended_or_ahead (progress_reset c b) readings
  refine ⟨fun n hn => ?_, hover.trans ⟨fun hend n hstate => ?_, fun hend n hgoing => ?_⟩⟩
  · obtain hended | hgoing := hat n
    · exact hended.2
    · exact absurd (hgoing.1.symm.trans hn) Bool.false_ne_true
  · obtain hended | hgoing := hat n
    · exact absurd hstate hended.2.state_ne
    · obtain ⟨k, hle, hk⟩ := hend n hgoing.1
      refine ⟨k, hle, ?_⟩
      by_contra hnot
      exact hk ⟨hstate, hnot⟩
  · by_cases hstate : (run (reset c).2 { b with readbacks := [] } readings n).2.1.state =
        .hwTestDisplay
    · obtain ⟨k, hle, hk⟩ := hend n hstate
      exact ⟨k, hle, fun hdisplays => hdisplays.2 hk⟩
    · exact ⟨n, Nat.le_refl n, fun hdisplays => hstate hdisplays.1⟩

/-- With a clock that stands still the first display goes on for ever. -/
theorem stopped_clock_never_ends :
    ¬ ∃ n, (run (reset { data := {} }).2
      { axes := fun _ => { sgThrs := 7, iRun := 31, acceleration := 500 } }
      (fun _ => { ioin := 0x11000050 }) n).1 = true := by
  intro hover
  have hreset := progress_reset { data := {} }
    { axes := fun _ => { sgThrs := 7, iRun := 31, acceleration := 500 } }
  obtain ⟨k, _, hk⟩ := (advances.over_iff hreset _).mp hover 3 rfl
  exact hk ⟨rfl, (by decide : ¬ (0 : UInt16) - 0 > Config.ledWaitMs)⟩

end HWSanity
end MmuFirmware
