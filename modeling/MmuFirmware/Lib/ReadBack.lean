import Mathlib.Data.List.Induction

/-!
A store of cells that do not disturb one another. Whatever is put into them in whatever order, a
cell shows what was put into it last, as far as it can show it.
-/

namespace Cells

variable {σ κ ν : Type*}

/-- What is shown of a cell, and what is put into one. -/
structure Independent (get : κ → σ → ν) (put : κ → ν → σ → σ) (shown : κ → ν → ν) : Prop where
  same : ∀ k v s, get k (put k v s) = shown k v
  other : ∀ k k' v s, k ≠ k' → get k (put k' v s) = get k s

/-- The state after some values have been put into cells. -/
def puts (put : κ → ν → σ → σ) (s : σ) (writes : List (κ × ν)) : σ :=
  writes.foldl (fun s w => put w.1 w.2 s) s

variable [DecidableEq κ]

/-- The value put into a cell last. -/
def lastOf (k : κ) (writes : List (κ × ν)) : Option ν :=
  ((writes.filter fun w => w.1 = k).getLast?).map Prod.snd

theorem lastOf_concat (k : κ) (writes : List (κ × ν)) (w : κ × ν) :
    lastOf k (writes ++ [w]) = if w.1 = k then some w.2 else lastOf k writes := by
  rw [lastOf, List.filter_append]
  split
  · next heq => simp [heq]
  · next hne => simp [hne, lastOf]

theorem get_puts {get : κ → σ → ν} {put : κ → ν → σ → σ} {shown : κ → ν → ν}
    (h : Independent get put shown) (k : κ) (s : σ) (writes : List (κ × ν)) :
    get k (puts put s writes) = (lastOf k writes).elim (get k s) (shown k) := by
  induction writes using List.reverseRecOn with
  | nil => rfl
  | append_singleton writes w ih =>
      rw [lastOf_concat, puts, List.foldl_append, List.foldl_cons, List.foldl_nil]
      split
      · next heq =>
          subst heq
          exact h.same _ _ _
      · next hne => exact (h.other _ _ _ _ (Ne.symm hne)).trans ih

end Cells
