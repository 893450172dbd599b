import MmuFirmware.Modules.StepTraces

/-!
What the planner takes for the speed of the axis. It goes on from the last rate: the rate the
latest planned block is to end with, or the one an aborted move is said to have. Neither has to
be the rate of the latest step.
-/
namespace MmuFirmware

namespace PulseGen

variable {pg : PulseGen} {block : PulseGen.Block}

theorem toNat_entrySpeed (pg : PulseGen) (feedRate : BitVec 32) :
    (pg.entrySpeed feedRate).toNat =
      if pg.lastRate.toNat ≤ feedRate.toNat then
        pg.lastRate.toNat + min (feedRate.toNat - pg.lastRate.toNat) pg.maxJerk.toNat
      else pg.lastRate.toNat - min (pg.lastRate.toNat - feedRate.toNat) pg.maxJerk.toNat := by
  have hfeed := feedRate.isLt
  rw [entrySpeed]
  simp only [ge_iff_le, BitVec.le_def]
  split
  · next hle =>
    have hchange := BitVec.toNat_sub_of_le (BitVec.le_def.mpr hle)
    rw [hchange]
    split
    · rw [BitVec.toNat_add_of_lt (by omega)]
      omega
    · rw [BitVec.toNat_add_of_lt (by omega)]
      omega
  · next hlt =>
    have hle : feedRate ≤ pg.lastRate := BitVec.le_def.mpr (Nat.le_of_not_le hlt)
    have hchange := BitVec.toNat_sub_of_le hle
    rw [hchange]
    split
    · rw [BitVec.toNat_sub_of_le (BitVec.le_def.mpr (by omega))]
      omega
    · rw [BitVec.toNat_sub_of_le (BitVec.le_def.mpr (by omega))]
      omega

/-- The entry speed is within the jerk of the last rate. -/
theorem entrySpeed_close (pg : PulseGen) (feedRate : BitVec 32) :
    (pg.entrySpeed feedRate).toNat ≤ pg.lastRate.toNat + pg.maxJerk.toNat ∧
      pg.lastRate.toNat ≤ (pg.entrySpeed feedRate).toNat + pg.maxJerk.toNat := by
  rw [toNat_entrySpeed]
  split <;> omega

theorem setWidth_inj {a b : BitVec 16} : a.setWidth 32 = b.setWidth 32 ↔ a = b := by
  refine ⟨fun h => ?_, fun h => by rw [h]⟩
  have htoNat := congrArg BitVec.toNat h
  rw [BitVec.toNat_setWidth, BitVec.toNat_setWidth, Nat.mod_eq_of_lt (by omega),
    Nat.mod_eq_of_lt (by omega)] at htoNat
  exact BitVec.eq_of_toNat_eq htoNat

/-- Outside the acceleration the rate from which braking starts is left alone. -/
theorem accStepRate_nextTimer_of_ne (h : pg.phase block ≠ .accelerating) :
    (pg.nextTimer block).2.accStepRate = pg.accStepRate := by
  have hup : ¬ pg.stepsCompleted ≤ block.accelerateUntil := fun hup => h (if_pos hup)
  rw [nextTimer, if_neg hup]
  split
  · rfl
  · split <;> rfl

/-- Braking has not lowered the rate. -/
theorem deceleratedRate_eq_iff (pg : PulseGen) (block : PulseGen.Block) :
    pg.deceleratedRate block = pg.accStepRate ↔
      block.finalRate.setWidth 16 = pg.accStepRate ∨
        pg.rateChange block = 0 ∧ block.finalRate ≤ pg.accStepRate.setWidth 32 := by
  have hwide (a : BitVec 16) : (a.setWidth 32).toNat = a.toNat := by
    rw [BitVec.toNat_setWidth, Nat.mod_eq_of_lt (by omega)]
  have hnarrow : (block.finalRate.setWidth 16).toNat = block.finalRate.toNat % 2 ^ 16 :=
    BitVec.toNat_setWidth _ _
  have hrate := pg.accStepRate.isLt
  rw [deceleratedRate]
  simp only [gt_iff_lt, BitVec.lt_def, BitVec.le_def, ← BitVec.toNat_inj, hwide]
  have hzero : (0 : BitVec 16).toNat = 0 := rfl
  rw [hzero]
  split
  · omega
  · next hle =>
    have hsub := BitVec.toNat_sub_of_le (BitVec.le_def.mpr (Nat.not_lt.mp hle))
    rw [hsub]
    split
    · omega
    · rw [hsub]
      omega

/-- The rate of the interval is the one the acceleration has reached: the axis accelerates, it
cruises having reached the nominal rate, or it brakes and has not slowed down yet. -/
def KeptRate (pg : PulseGen) (block : PulseGen.Block) : Prop :=
  (pg.phase block = .cruising → pg.accStepRate = block.nominalRate.setWidth 16) ∧
    (pg.phase block = .decelerating →
      block.finalRate.setWidth 16 = pg.accStepRate ∨
        pg.rateChange block = 0 ∧ block.finalRate ≤ pg.accStepRate.setWidth 32)

instance (pg : PulseGen) (block : PulseGen.Block) : Decidable (pg.KeptRate block) :=
  inferInstanceAs (Decidable ((_ → _) ∧ (_ → _)))

theorem keptRate_iff (pg : PulseGen) (block : PulseGen.Block) :
    (pg.nextTimer block).2.accStepRate = pg.stepRate block ↔ pg.KeptRate block := by
  cases hphase : pg.phase block with
  | accelerating =>
      rw [nextTimer_accelerating hphase]
      refine ⟨fun _ => ⟨?_, ?_⟩, fun _ => rfl⟩
      · exact fun h => absurd (hphase.symm.trans h) (by decide)
      · exact fun h => absurd (hphase.symm.trans h) (by decide)
  | cruising =>
      rw [accStepRate_nextTimer_of_ne (by rw [hphase]; decide), stepRate, hphase]
      exact ⟨fun h => ⟨fun _ => h, fun hdown => absurd (hphase.symm.trans hdown) (by decide)⟩,
        fun h => h.1 hphase⟩
  | decelerating =>
      rw [accStepRate_nextTimer_of_ne (by rw [hphase]; decide), stepRate, hphase]
      dsimp only
      rw [eq_comm, deceleratedRate_eq_iff]
      exact ⟨fun h => ⟨fun hup => absurd (hphase.symm.trans hup) (by decide), fun _ => h⟩,
        fun h => h.2 hphase⟩

end PulseGen

namespace Traced

open PulseGen

variable {t : Traced} {elems : List PulseGen.Block}

/-- The rate in use is the one an abort finds: of a live block it has been kept, and between two
blocks the last one queued is to end as fast as the axis is now. -/
def KeepsRate (t : Traced) : Prop :=
  match t.ctrl.currentBlock, t.chosen with
  | some _, pg :: _ => pg.KeptRate t.block
  | _, _ => t.entries.getLast?.map (fun e => e.1.finalRate) = some (t.rate.setWidth 32)

instance (t : Traced) : Decidable t.KeepsRate :=
  match hcurrent : t.ctrl.currentBlock, hchosen : t.chosen with
  | some _, pg :: _ =>
      decidable_of_iff (pg.KeptRate t.block) (by simp only [KeepsRate, hcurrent, hchosen])
  | none, _ | some _, [] =>
      decidable_of_iff
        (t.entries.getLast?.map (fun e => e.1.finalRate) = some (t.rate.setWidth 32))
        (by simp only [KeepsRate, hcurrent, hchosen])

theorem lastRate_abort_live (pg : PulseGen) (h : pg.currentBlock ≠ none) :
    (pg.abortPlannedMoves false).lastRate = pg.accStepRate.setWidth 32 := by
  unfold PulseGen.abortPlannedMoves
  cases hcurrent : pg.currentBlock with
  | none => exact absurd hcurrent h
  | some cell => rfl

theorem lastRate_abort_between (pg : PulseGen) (h : pg.currentBlock = none) :
    (pg.abortPlannedMoves false).lastRate = pg.lastRate := by
  unfold PulseGen.abortPlannedMoves
  dsimp only
  rw [h]
  rfl

theorem Tracks.abort_iff (h : t.Tracks elems) (hbusy : t.ctrl.queueEmpty = false) :
    (t.ctrl.abortPlannedMoves false).lastRate = t.rate.setWidth 32 ↔ t.KeepsRate := by
  cases hcurrent : t.ctrl.currentBlock with
  | some cell =>
      have hlive : t.ctrl.currentBlock ≠ none := by
        rw [hcurrent]
        exact Option.some_ne_none cell
      obtain ⟨pg, older, rest, -, hchosen, hresumes⟩ := h.live hlive
      have hrate : t.rate = pg.stepRate t.block := by rw [rate, hchosen]
      have hkeeps : t.KeepsRate ↔ pg.KeptRate t.block := by
        simp only [KeepsRate, hcurrent, hchosen]
      rw [lastRate_abort_live _ hlive, setWidth_inj, hresumes.accStepRate, hrate, hkeeps,
        keptRate_iff]
  | none =>
      have hentries : t.entries ≠ [] := by
        obtain ⟨part, hholds⟩ := h.holds
        intro hnil
        have helems := h.entries
        rw [hnil, List.map_nil] at helems
        have hempty : t.ctrl.queueEmpty = true :=
          hholds.queues.empty_iff.mpr (List.length_eq_zero_iff.mpr helems.symm)
        rw [hempty] at hbusy
        cases hbusy
      have he := List.getLast?_eq_some_getLast hentries
      rw [lastRate_abort_between _ hcurrent, h.last _ he, KeepsRate, hcurrent, he]
      exact ⟨fun heq => congrArg some heq, Option.some.inj⟩

/-- While the axis moves, an abort that does not halt it finds the rate in use if and only if the
generator has kept that; and then the next move is entered within the jerk of it. -/
theorem abort_keeps_rate_iff (memory : PulseGen) (position : BitVec 32) (ops : List Op) :
    let t := Transducer.run perform (start memory position) ops
    let aborted := t.ctrl.abortPlannedMoves false
    t.chosen ≠ [] → t.ctrl.queueEmpty = false →
      (aborted.lastRate = t.rate.setWidth 32 ↔ t.KeepsRate) ∧
        (t.KeepsRate → ∀ feedRate,
          (aborted.entrySpeed feedRate).toNat ≤ t.rate.toNat + t.ctrl.maxJerk.toNat ∧
            t.rate.toNat ≤ (aborted.entrySpeed feedRate).toNat + t.ctrl.maxJerk.toNat) := by
  intro t aborted _ hbusy
  obtain ⟨elems, htracks⟩ := tracks_run memory position ops
  have hiff : aborted.lastRate = t.rate.setWidth 32 ↔ t.KeepsRate := htracks.abort_iff hbusy
  refine ⟨hiff, fun hkeeps feedRate => ?_⟩
  have hclose := aborted.entrySpeed_close feedRate
  have hjerk : aborted.maxJerk = t.ctrl.maxJerk :=
    (t.ctrl.limits_perform floorSqrt (.abortPlannedMoves false)).2
  have hrate := t.rate.isLt
  rw [hiff.mpr hkeeps, hjerk, BitVec.toNat_setWidth, Nat.mod_eq_of_lt (by omega)] at hclose
  exact hclose

/-- Three steps of a move that still accelerates. -/
def speedingUp : List Op := [.planMoveTo 1000 2000 0, .step, .step, .step]

theorem abort_keeps_rate_iff_accelerating :
    let t := Transducer.run perform (start { maxJerk := 100, acceleration := 800 } 0) speedingUp
    (t.ctrl.abortPlannedMoves false).lastRate = t.rate.setWidth 32 :=
  (abort_keeps_rate_iff { maxJerk := 100, acceleration := 800 } 0 speedingUp (by decide +kernel)
    (by decide +kernel)).1.mpr (by decide +kernel)

/-- The axis brakes when the moves are aborted. -/
theorem abort_forgets_rate :
    ¬ ∀ (memory : PulseGen) (position : BitVec 32) (ops : List Op),
      let t := Transducer.run perform (start memory position) ops
      t.chosen ≠ [] → t.ctrl.queueEmpty = false →
        (t.ctrl.abortPlannedMoves false).lastRate = t.rate.setWidth 32 := by
  intro h
  have hkept := h { maxJerk := 100, acceleration := 100000 } 0
    [.planMoveTo 10 2000 0, .step, .step, .step, .step, .step, .step, .step] (by decide +kernel)
    (by decide +kernel)
  revert hkept
  decide +kernel

/-! From one block to the next. -/

/-- Two rates differ by no more than the jerk. -/
def Within (jerk a b : Nat) : Prop := a ≤ b + jerk ∧ b ≤ a + jerk

instance (jerk a b : Nat) : Decidable (Within jerk a b) := inferInstanceAs (Decidable (_ ∧ _))

/-- The initial rate of a block that was planned from a last rate. -/
def PlannedFrom (jerk : Nat) (e : PulseGen.Block × BitVec 32) : Prop :=
  e.1.initialRate.toNat =
    min (max (if e.2.toNat ≤ e.1.nominalRate.toNat then
        e.2.toNat + min (e.1.nominalRate.toNat - e.2.toNat) jerk
      else e.2.toNat - min (e.2.toNat - e.1.nominalRate.toNat) jerk)
      Config.minStepRate.toNat) e.1.nominalRate.toNat

theorem plannedFrom_planBlock (pg : PulseGen) (target feedRate endRate : BitVec 32) :
    PlannedFrom pg.maxJerk.toNat (pg.planBlock floorSqrt target feedRate endRate, pg.lastRate) := by
  have hinitial := toNat_limitRate (pg.planBlock floorSqrt target feedRate endRate)
    (pg.entrySpeed feedRate)
  rw [toNat_entrySpeed] at hinitial
  exact hinitial

/-- When a block that was planned from a last rate starts within the jerk of another rate. -/
theorem PlannedFrom.within_iff {jerk : Nat} {e : PulseGen.Block × BitVec 32}
    (h : PlannedFrom jerk e) (hjerk : Config.minStepRate.toNat ≤ jerk) (rate : Nat) :
    Within jerk e.1.initialRate.toNat rate ↔
      (e.1.nominalRate.toNat ≤ rate + jerk ∨ e.2.toNat ≤ rate) ∧
        rate ≤ e.1.nominalRate.toNat + jerk ∧ rate ≤ e.2.toNat + 2 * jerk := by
  have hmin : Config.minStepRate.toNat = 120 := rfl
  rw [PlannedFrom] at h
  rw [Within]
  split at h <;> omega

/-- All queued blocks start as they were planned. -/
structure Planned (t : Traced) (jerk : BitVec 32) : Prop where
  maxJerk : t.ctrl.maxJerk = jerk
  entries : ∀ e ∈ t.entries, PlannedFrom jerk.toNat e

theorem Planned.perform {jerk : BitVec 32} (h : t.Planned jerk) (op : Op) :
    (t.perform op).1.Planned jerk := by
  refine ⟨?_, ?_⟩
  · rw [ctrl_perform, (t.ctrl.limits_perform floorSqrt op).2]
    exact h.maxJerk
  · cases op with
    | planMoveTo target feedRate endRate =>
        intro e he
        rcases List.mem_append.mp he with hold | hnew
        · exact h.entries e hold
        · obtain ⟨b, hb, rfl⟩ := List.mem_map.mp hnew
          rw [mem_queuedBlock hb, ← h.maxJerk]
          exact plannedFrom_planBlock t.ctrl target feedRate endRate
    | step =>
        have hsub : ∀ e ∈ t.step.entries, e ∈ t.entries := by
          rw [step]
          split
          · exact fun e he => he
          · dsimp only
            split
            · exact fun e he => List.mem_of_mem_tail he
            · exact fun e he => he
        exact fun e he => h.entries e (hsub e he)
    | abortPlannedMoves halt => exact fun e he => absurd he List.not_mem_nil
    | setPosition x => exact h.entries

/-- In every state a run reaches in which the next interrupt starts a block: the block starts
within the jerk of the rate the axis has there, if and only if its feed rate is not more than the
jerk above that rate or it was planned from no more than it, and neither its feed rate is more than
the jerk nor the rate it was planned from more than twice the jerk below it. -/
theorem junction_within_jerk_iff (memory : PulseGen) (position : BitVec 32) (ops : List Op)
    (hjerk : Config.minStepRate.toNat ≤ memory.maxJerk.toNat) :
    let t := Transducer.run perform (start memory position) ops
    let jerk := memory.maxJerk.toNat
    ∀ e, t.ctrl.currentBlock = none → t.entries.head? = some e →
      t.step.block = e.1 ∧
        (Within jerk e.1.initialRate.toNat t.rate.toNat ↔
          (e.1.nominalRate.toNat ≤ t.rate.toNat + jerk ∨ e.2.toNat ≤ t.rate.toNat) ∧
            t.rate.toNat ≤ e.1.nominalRate.toNat + jerk ∧
            t.rate.toNat ≤ e.2.toNat + 2 * jerk) := by
  intro t jerk e _ he
  obtain ⟨⟨elems, htracks⟩, hplanned⟩ := Transducer.run_invariant perform
    (fun t _ => (∃ elems, t.Tracks elems) ∧ t.Planned memory.maxJerk) (start memory position)
    ⟨⟨[], tracks_start memory position⟩, rfl, nofun⟩
    (fun _ _ op ⟨⟨_, htracks⟩, hplanned⟩ => ⟨htracks.perform op, hplanned.perform op⟩) ops
  obtain ⟨entries, hentries⟩ : ∃ entries, t.entries = e :: entries := List.head?_eq_some_iff.mp he
  have hmem : e ∈ t.entries := hentries ▸ List.mem_cons_self
  have helems : t.entries.map Prod.fst = elems := htracks.entries
  rw [hentries, List.map_cons] at helems
  rw [← helems] at htracks
  exact ⟨htracks.step_cons.current, (hplanned.entries e hmem).within_iff hjerk t.rate.toNat⟩

/-- Three steps, after which the axis comes to rest; the next move is a fast one. -/
def restart : List Op :=
  [.planMoveTo 3 10000 0, .step, .step, .step, .step, .planMoveTo 1000 40000 0]

/-- The first move starts from rest, where it was planned. -/
theorem junction_within_jerk_iff_first :
    let t := Transducer.run perform (start { maxJerk := 4000, acceleration := 800 } 0)
      (restart.take 1)
    ∃ e, t.entries.head? = some e ∧ Within 4000 e.1.initialRate.toNat t.rate.toNat := by
  intro t
  have hhead : t.entries.head?.map (fun e => (e.2, t.rate)) = some (0, 0) := by decide +kernel
  obtain ⟨e, he, hvalues⟩ := Option.map_eq_some_iff.mp hhead
  obtain ⟨hlast, hrate⟩ := Prod.mk.inj hvalues
  refine ⟨e, he, (junction_within_jerk_iff { maxJerk := 4000, acceleration := 800 } 0
    (restart.take 1) (by decide) e (by decide +kernel) he).2.mpr ?_⟩
  show (_ ≤ t.rate.toNat + 4000 ∨ _ ≤ t.rate.toNat) ∧ t.rate.toNat ≤ _ ∧ t.rate.toNat ≤ _
  rw [hrate, hlast]
  exact ⟨.inr (Nat.le_refl _), Nat.zero_le _, Nat.zero_le _⟩

/-- A move planned while the axis rests starts from the rate the one before ended with. -/
theorem junction_beyond_jerk :
    ¬ ∀ (memory : PulseGen) (position : BitVec 32) (ops : List Op),
      Config.minStepRate.toNat ≤ memory.maxJerk.toNat → (∀ op ∈ ops, FeedWithin op) →
        let t := Transducer.run perform (start memory position) ops
        ∀ e, t.ctrl.currentBlock = none → t.entries.head? = some e →
          Within memory.maxJerk.toNat e.1.initialRate.toNat t.rate.toNat := by
  intro h
  have hall := h { maxJerk := 4000, acceleration := 800 } 0 restart (by decide)
    (by simp [restart, FeedWithin, Config.maxStepFrequency])
  have hhead : (Transducer.run perform (start { maxJerk := 4000, acceleration := 800 } 0)
      restart).entries.head?.map (fun e => e.1.initialRate) = some 4120 := by decide +kernel
  obtain ⟨e, he, hinitial⟩ := Option.map_eq_some_iff.mp hhead
  have hwithin := hall e (by decide +kernel) he
  rw [hinitial] at hwithin
  revert hwithin
  decide +kernel

end Traced
end MmuFirmware
