import MmuFirmware.Lib.Transducer
import Mathlib.Tactic.Abel

/-!
Work that is taken on item by item and delivered piece by piece: at any time some items are
outstanding, of the first of which a part may have been delivered. A stretch of steps takes on
items and delivers pieces; `Delivers` says that no piece is lost, invented or out of turn, and
composes along a run.
-/

variable {μ β : Type*} {pieces : μ → List β}

/-- From `items` outstanding with `part` of the first delivered to `items'` and `part'`. -/
def Delivers (pieces : μ → List β) (items : List μ) (part : List β) (taken : List μ)
    (delivered : List β) (items' : List μ) (part' : List β) : Prop :=
  ∃ finished, items ++ taken = finished ++ items' ∧
    part ++ delivered = finished.flatMap pieces ++ part'

namespace Delivers

variable {items items' items'' taken taken' : List μ} {part part' part'' delivered delivered' : List β}

theorem refl (items : List μ) (part : List β) : Delivers pieces items part [] [] items part :=
  ⟨[], by simp, by simp⟩

theorem take (items : List μ) (part : List β) (taken : List μ) :
    Delivers pieces items part taken [] (items ++ taken) part :=
  ⟨[], by simp, by simp⟩

theorem trans (h : Delivers pieces items part taken delivered items' part')
    (h' : Delivers pieces items' part' taken' delivered' items'' part'') :
    Delivers pieces items part (taken ++ taken') (delivered ++ delivered') items'' part'' := by
  obtain ⟨finished, hitems, hpart⟩ := h
  obtain ⟨finished', hitems', hpart'⟩ := h'
  refine ⟨finished ++ finished', ?_, ?_⟩
  · rw [← List.append_assoc, hitems, List.append_assoc, hitems', List.append_assoc]
  · rw [← List.append_assoc, hpart, List.append_assoc, hpart', List.flatMap_append,
      List.append_assoc]

/-- What a group measures of the pieces: all that was taken on is delivered or outstanding. -/
theorem measure {G : Type*} [AddCommGroup G] {size : List β → G}
    (happend : ∀ bs bs', size (bs ++ bs') = size bs + size bs')
    (h : Delivers pieces items part taken delivered items' part') :
    size (items.flatMap pieces) + size (taken.flatMap pieces) - size part =
      size delivered + size (items'.flatMap pieces) - size part' := by
  obtain ⟨finished, hitems, hpart⟩ := h
  have htaken := congrArg (fun items => size (items.flatMap pieces)) hitems
  have hdelivered := congrArg size hpart
  simp only [List.flatMap_append, happend] at htaken hdelivered
  rw [htaken, sub_eq_sub_iff_add_eq_add]
  calc size (finished.flatMap pieces) + size (items'.flatMap pieces) + size part'
      = size (finished.flatMap pieces) + size part' + size (items'.flatMap pieces) := by abel
    _ = size part + size delivered + size (items'.flatMap pieces) := by rw [hdelivered]
    _ = size delivered + size (items'.flatMap pieces) + size part := by abel

end Delivers

namespace Transducer

variable {σ α γ : Type*} (step : σ → α → σ × γ)

/-- Every step delivers, so every run does. -/
theorem run_delivers (Owes : σ → List μ → List β → Prop) (Assume : σ → α → Prop)
    (takes : σ × α → List μ) (delivers : σ × α → List β)
    (hstep : ∀ s a items part, Owes s items part → Assume s a →
      ∃ items' part', Owes (step s a).1 items' part' ∧
        Delivers pieces items part (takes (s, a)) (delivers (s, a)) items' part')
    (s : σ) (as : List α) {items : List μ} {part : List β} (h : Owes s items part)
    (hassume : ∀ p ∈ steps step s as, Assume p.1 p.2) :
    ∃ items' part', Owes (run step s as) items' part' ∧
      Delivers pieces items part ((steps step s as).flatMap takes)
        ((steps step s as).flatMap delivers) items' part' := by
  induction as generalizing s items part with
  | nil => exact ⟨items, part, h, .refl items part⟩
  | cons a as ih =>
      rw [steps_cons, List.forall_mem_cons] at hassume
      obtain ⟨items', part', howes, hdelivers⟩ := hstep s a items part h hassume.1
      obtain ⟨items'', part'', howes', hdelivers'⟩ := ih _ howes hassume.2
      refine ⟨items'', part'', howes', ?_⟩
      rw [steps_cons, List.flatMap_cons, List.flatMap_cons]
      exact hdelivers.trans hdelivers'

end Transducer
