import Mathlib.Data.List.Infix
import Mathlib.Tactic

/-!
A walk that is reflected at zero: its level goes up and down by one but not below zero. It
reaches a height just if some stretch of the walk has that many more steps up than down. A
store that is drained and filled up to a capacity, and stays empty once it is, is such a walk
seen from above.
-/

namespace ReflectedWalk

/-- The level after some steps, where `true` is a step up. -/
def level : Nat → List Bool → Nat
  | l, [] => l
  | l, up :: ups => level (if up then l + 1 else l - 1) ups

theorem level_snoc (l : Nat) (ups : List Bool) (up : Bool) :
    level l (ups ++ [up]) = if up then level l ups + 1 else level l ups - 1 := by
  induction ups generalizing l with
  | nil => rfl
  | cons u ups ih => exact ih _

/-- The steps up of a stretch exceed those down by at least so many. -/
def Climbs (n : Nat) (ups : List Bool) : Prop := ups.count false + n ≤ ups.count true

theorem Climbs.ne_nil {n : Nat} {ups : List Bool} (hn : 0 < n) (h : Climbs n ups) : ups ≠ [] := by
  intro hnil
  subst hnil
  simp only [Climbs, List.count_nil] at h
  omega

theorem climbs_snoc_true {n : Nat} {ups : List Bool} :
    Climbs (n + 1) (ups ++ [true]) ↔ Climbs n ups := by
  simp only [Climbs, List.count_append]
  simp
  omega

theorem climbs_snoc_false {n : Nat} {ups : List Bool} :
    Climbs n (ups ++ [false]) ↔ Climbs (n + 1) ups := by
  simp only [Climbs, List.count_append]
  simp
  omega

theorem exists_suffix_snoc {P : List Bool → Prop} (hP : ∀ l, P l → l ≠ []) (ups : List Bool)
    (up : Bool) :
    (∃ last, last <:+ ups ++ [up] ∧ P last) ↔ ∃ last, last <:+ ups ∧ P (last ++ [up]) := by
  constructor
  · rintro ⟨last, hsuffix, hlast⟩
    rcases List.suffix_concat_iff.mp hsuffix with hnil | ⟨t, rfl, ht⟩
    · exact absurd hnil (hP last hlast)
    · exact ⟨t, ht, hlast⟩
  · rintro ⟨last, hsuffix, hlast⟩
    exact ⟨last ++ [up], List.suffix_concat_iff.mpr (.inr ⟨last, rfl, hsuffix⟩), hlast⟩

/-- The level is as high as the walk has climbed over its last steps. -/
theorem le_level_iff {n : Nat} (hn : 0 < n) (ups : List Bool) :
    n ≤ level 0 ups ↔ ∃ last, last <:+ ups ∧ Climbs n last := by
  induction ups using List.reverseRecOn generalizing n with
  | nil =>
      constructor
      · intro h
        exact absurd h (Nat.not_le.mpr hn)
      · rintro ⟨last, hsuffix, hclimbs⟩
        exact absurd (List.suffix_nil.mp hsuffix) (hclimbs.ne_nil hn)
  | append_singleton ups up ih =>
      rw [level_snoc, exists_suffix_snoc (fun l h => h.ne_nil hn)]
      cases up with
      | true =>
          obtain ⟨k, rfl⟩ := Nat.exists_eq_succ_of_ne_zero hn.ne'
          simp only [climbs_snoc_true, if_true]
          cases k with
          | zero =>
              refine ⟨fun _ => ⟨[], List.nil_suffix, ?_⟩, fun _ => ?_⟩
              · exact Nat.le_refl 0
              · exact Nat.le_add_left _ _
          | succ k =>
              rw [← ih (Nat.succ_pos k)]
              exact Nat.succ_le_succ_iff
      | false =>
          simp only [climbs_snoc_false, Bool.false_eq_true, if_false]
          rw [← ih (Nat.succ_pos n)]
          omega

/-- Somewhere the walk is as high as it climbs over some stretch. -/
theorem reaches_iff {n : Nat} (hn : 0 < n) (ups : List Bool) :
    (∃ first, first <+: ups ∧ n ≤ level 0 first) ↔ ∃ part, part <:+: ups ∧ Climbs n part := by
  constructor
  · rintro ⟨first, hprefix, hlevel⟩
    obtain ⟨last, hsuffix, hclimbs⟩ := (le_level_iff hn first).mp hlevel
    exact ⟨last, List.infix_iff_suffix_prefix.mpr ⟨first, hsuffix, hprefix⟩, hclimbs⟩
  · rintro ⟨part, hinfix, hclimbs⟩
    obtain ⟨first, hsuffix, hprefix⟩ := List.infix_iff_suffix_prefix.mp hinfix
    exact ⟨first, hprefix, (le_level_iff hn first).mpr ⟨part, hsuffix, hclimbs⟩⟩

/-- What a store of a capacity has left after it is drained or filled by one. -/
def drain (capacity left : Nat) (down : Bool) : Nat :=
  if left = 0 then 0
  else if down then left - 1
  else if left < capacity then left + 1
  else left

theorem drain_sub {capacity l : Nat} (h : l < capacity) (down : Bool) :
    drain capacity (capacity - l) down = capacity - if down then l + 1 else l - 1 := by
  have hsome : capacity - l ≠ 0 := by omega
  rw [drain, if_neg hsome]
  cases down with
  | true => exact Nat.sub_sub capacity l 1
  | false =>
      simp only [Bool.false_eq_true, if_false]
      split <;> omega

/-- A full store is empty after some steps just if the walk has reached its capacity. -/
theorem foldl_drain {capacity : Nat} (hpos : 0 < capacity) (downs : List Bool) :
    ((∃ first, first <+: downs ∧ capacity ≤ level 0 first) →
        downs.foldl (drain capacity) capacity = 0) ∧
      ((¬ ∃ first, first <+: downs ∧ capacity ≤ level 0 first) →
        downs.foldl (drain capacity) capacity = capacity - level 0 downs ∧
          level 0 downs < capacity) := by
  induction downs using List.reverseRecOn with
  | nil =>
      refine ⟨?_, fun _ => ⟨rfl, hpos⟩⟩
      rintro ⟨first, hprefix, hlevel⟩
      rw [List.prefix_nil.mp hprefix] at hlevel
      exact absurd hlevel (Nat.not_le.mpr hpos)
  | append_singleton downs down ih =>
      rw [List.foldl_append, List.foldl_cons, List.foldl_nil]
      by_cases hearlier : ∃ first, first <+: downs ∧ capacity ≤ level 0 first
      · have hempty := ih.1 hearlier
        obtain ⟨first, hprefix, hlevel⟩ := hearlier
        have hfirst := hprefix.trans (List.prefix_append downs [down])
        refine ⟨fun _ => ?_, fun hnone => absurd ⟨first, hfirst, hlevel⟩ hnone⟩
        rw [hempty]
        rfl
      · obtain ⟨hleft, hbelow⟩ := ih.2 hearlier
        have hreaches : (∃ first, first <+: downs ++ [down] ∧ capacity ≤ level 0 first) ↔
            capacity ≤ level 0 (downs ++ [down]) := by
          refine ⟨?_, fun hlevel => ⟨_, List.prefix_refl _, hlevel⟩⟩
          rintro ⟨first, hprefix, hlevel⟩
          rcases List.prefix_concat_iff.mp hprefix with heq | hshort
          · rwa [← heq]
          · exact absurd ⟨first, hshort, hlevel⟩ hearlier
        rw [hreaches, hleft, drain_sub hbelow, ← level_snoc, Nat.not_le]
        exact ⟨fun hlevel => Nat.sub_eq_zero_of_le hlevel, fun hlevel => ⟨rfl, hlevel⟩⟩

/-- A full store runs empty just if over some stretch it is drained so much more often than
filled. -/
theorem drained_iff {capacity : Nat} (hpos : 0 < capacity) (downs : List Bool) :
    downs.foldl (drain capacity) capacity = 0 ↔
      ∃ part, part <:+: downs ∧ Climbs capacity part := by
  rw [← reaches_iff hpos]
  obtain ⟨hempty, hleft⟩ := foldl_drain hpos downs
  constructor
  · intro hzero
    by_contra hnone
    obtain ⟨heq, hbelow⟩ := hleft hnone
    omega
  · exact hempty

/-- A climb by two has two steps up in a row. -/
theorem climbs_two_iff (ups : List Bool) :
    (∃ part, part <:+: ups ∧ Climbs 2 part) ↔ [true, true] <:+: ups := by
  constructor
  · rintro ⟨part, hinfix, hclimbs⟩
    by_contra hnone
    have hapart : ∀ l : List Bool, ¬ [true, true] <:+: l →
        l.count true ≤ l.count false + if l.head? = some true then 1 else 0 := by
      intro l
      induction l with
      | nil => exact fun _ => Nat.zero_le _
      | cons up l ih =>
          intro hl
          have htail := ih fun h => hl (h.trans (List.suffix_cons up l).isInfix)
          cases up with
          | false =>
              simp
              split at htail <;> omega
          | true =>
              have hhead : l.head? ≠ some true := by
                intro hsome
                cases l with
                | nil => cases hsome
                | cons u l =>
                    obtain rfl : u = true := Option.some.inj hsome
                    exact hl (List.prefix_append [true, true] l).isInfix
              rw [if_neg hhead] at htail
              simp
              omega
    have hpart := hapart part fun h => hnone (h.trans hinfix)
    rw [Climbs] at hclimbs
    split at hpart <;> omega
  · intro hinfix
    exact ⟨[true, true], hinfix, Nat.le_refl 2⟩

end ReflectedWalk
