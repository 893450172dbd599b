import MmuFirmware.Modules.Plans

/-!
Where positions are looked up. The idler looks up the slot it was last told, and the place of
rest where it was told to disengage; the selector looks up the slot it is told at once, or the
slot it was last told at the end of a homing, which puts anything else right. The active slot
is looked up by the selector at power-on.
-/
namespace MmuFirmware
namespace Movable

variable {ε : Type}

theorem lookUp_inTable {m : Movable ε} {slot : UInt8} (h : m.outOfTable = false)
    (hslot : slot ≤ Config.toolCount) : (m.lookUp slot).outOfTable = false := by
  rw [lookUp]
  dsimp only
  rw [h, decide_eq_false (UInt8.not_lt.mpr hslot)]
  rfl

end Movable

namespace Idler

/-- The idler has looked up nothing but positions in its tables and is going to. -/
structure InTable (i : Idler) : Prop where
  lookedUp : i.outOfTable = false
  planned : i.ext.plannedMove = .disengage ∨ i.plannedSlot ≤ Config.toolCount

theorem InTable.congr {i i' : Idler} (h : i.InTable) (hlookedUp : i'.outOfTable = i.outOfTable)
    (hslot : i'.plannedSlot = i.plannedSlot) (hext : i'.ext = i.ext) : i'.InTable := by
  refine ⟨hlookedUp.trans h.lookedUp, ?_⟩
  rw [hext, hslot]
  exact h.planned

theorem ofPlan_inTable : Movable.OfPlan InTable := fun h hlookedUp hslot hext _ =>
  h.congr hlookedUp hslot hext

variable {i : Idler} (g : Globals)

theorem inTable_setOut (h : i.outOfTable = false) (hslot : i.plannedSlot ≤ Config.toolCount) :
    InTable (i.initMovementNoReinitAxis (prepareMoveToPlannedSlot g)).2 :=
  ⟨Movable.lookUp_inTable h hslot, .inr hslot⟩

/-- Disengaging always means the place of rest. -/
theorem InTable.finishHoming (h : i.InTable) :
    (finishHomingAndPlanMoveToParkPos g i).2.InTable := by
  rw [finishHomingAndPlanMoveToParkPos]
  dsimp only
  split
  · exact h
  · rw [Movable.initMovement]
    dsimp only
    split
    · split
      · exact inTable_setOut g h.lookedUp (UInt8.le_refl Config.toolCount)
      · exact ⟨h.lookedUp, .inr (UInt8.le_refl Config.toolCount)⟩
    · next hmove =>
        have hslot := h.planned.resolve_left hmove
        split
        · exact inTable_setOut g h.lookedUp hslot
        · exact ⟨h.lookedUp, .inr hslot⟩

theorem InTable.planHome (h : i.InTable) : (Idler.planHome i g).2.InTable :=
  ofPlan_inTable.planHome h _ fun _ h => h.congr rfl rfl rfl

theorem InTable.planMoveInner (h : i.InTable) {slot : UInt8} (hslot : slot ≤ Config.toolCount)
    (plannedOp : IdlerOperation) : (i.planMoveInner g slot plannedOp).2.InTable := by
  have hplanned (ext : IdlerEngagement) : InTable { i with plannedSlot := slot, ext } :=
    ⟨h.lookedUp, .inr hslot⟩
  rw [Idler.planMoveInner]
  dsimp only
  split
  · exact h
  · split
    · exact hplanned _
    · split
      · exact (hplanned _).planHome g
      · split
        · exact hplanned _
        · exact inTable_setOut g h.lookedUp hslot

theorem InTable.step (h : i.InTable) : (i.step g).InTable := by
  rw [Idler.step]
  split
  · exact h
  · dsimp only
    have hchecked := ofPlan_inTable.checkUnlessFailed h
    generalize (if i.state = .tmcFailed then i else i.checkTMC) = i' at hchecked ⊢
    split
    · exact ofPlan_inTable.performMove hchecked fun _ h => ⟨h.lookedUp, h.planned⟩
    · exact ofPlan_inTable.performHomeForward hchecked fun _ h => h.congr rfl rfl rfl
    · exact ofPlan_inTable.performHomeBack hchecked g fun _ h => h.finishHoming g
    · split
      · exact hchecked.planHome g
      · exact hchecked
    · exact hchecked

theorem InTable.init (h : i.InTable) : (i.init g).InTable := by
  rw [Idler.init]
  split
  · exact h.planHome g
  · exact ⟨Movable.lookUp_inTable h.lookedUp (UInt8.le_refl Config.toolCount), h.planned⟩

end Idler

namespace Selector

/-- The selector has looked up nothing but positions in its table. -/
def InTable (s : Selector) : Prop := s.outOfTable = false

theorem ofPlan_inTable : Movable.OfPlan InTable := fun h hlookedUp _ _ _ => hlookedUp.trans h

variable {s : Selector} (g : Globals)

/-- A homing ends at a place that exists, whatever was planned. -/
theorem InTable.finishHoming (h : s.InTable) :
    (finishHomingAndPlanMoveToParkPos g s).2.InTable := by
  rw [finishHomingAndPlanMoveToParkPos]
  dsimp only
  split
  · exact h
  · rw [Movable.initMovement]
    dsimp only
    split
    · split
      · exact Movable.lookUp_inTable h (UInt8.le_refl Config.toolCount)
      · exact h
    · next hslot =>
        split
        · exact Movable.lookUp_inTable h (UInt8.not_lt.mp hslot)
        · exact h

theorem InTable.planHome (h : s.InTable) : (Selector.planHome s g).2.InTable :=
  ofPlan_inTable.planHome h _ fun _ h => h

/-- Told to go to a slot, the selector looks up its position at once. -/
def LooksUp (s : Selector) (g : Globals) (finda : Bool) (slot : UInt8) : Bool :=
  !s.isIn .moving && !s.isIn .homeBack && !(s.currentSlot == slot && s.homingValid) && !finda &&
    (s.homingValid || g.filamentLoaded ≥ .inSelector)

theorem InTable.moveToSlot (h : s.InTable) {finda : Bool} {slot : UInt8}
    (hslot : s.LooksUp g finda slot → slot ≤ Config.toolCount) :
    (s.moveToSlot g finda slot).2.InTable := by
  rw [Selector.moveToSlot]
  dsimp only
  split
  · exact h
  · next hmoving =>
      split
      · exact h
      · next hback =>
          split
          · exact h
          · next hthere =>
              split
              · exact h
              · next hfinda =>
                  split
                  · exact InTable.planHome (s := { s with plannedSlot := slot }) g h
                  · next hhome =>
                      have hback : ¬ s.isIn .homeBack = true := hback
                      refine Movable.lookUp_inTable h (hslot ?_)
                      grind [LooksUp, UInt8.not_lt]

theorem InTable.step (h : s.InTable) (finda idlerHomingValid : Bool) :
    (s.step g finda idlerHomingValid).InTable := by
  rw [Selector.step]
  split
  · exact h
  · dsimp only
    have hchecked := ofPlan_inTable.checkUnlessFailed h
    generalize (if s.state = .tmcFailed then s else s.checkTMC) = s' at hchecked ⊢
    split
    · exact ofPlan_inTable.performMove hchecked fun _ h => h
    · split
      · exact hchecked
      · exact hchecked
    · exact ofPlan_inTable.performHomeForward hchecked fun _ h => h
    · exact ofPlan_inTable.performHomeBack hchecked g fun _ h => h.finishHoming g
    · split
      · exact hchecked.planHome g
      · exact hchecked
    · exact hchecked

theorem InTable.init (h : s.InTable) (finda : Bool) (hslot : g.activeSlot ≤ Config.toolCount) :
    (s.init g finda).InTable := by
  rw [Selector.init]
  split
  · exact h.planHome g
  · exact Movable.lookUp_inTable h hslot

end Selector
end MmuFirmware
