import Mathlib.Data.List.Basic
import Mathlib.Tactic.Common

/-!
The number of places in which two lists differ. A leftover tail counts in full, so lists at
distance zero are equal whatever their lengths. Two lines that are one place apart must
place a separator that occurs once in each at the same position; the fields on its two
sides then share that one place between them.
-/
namespace ListDistance

variable {α : Type*} [DecidableEq α]

def mismatches : List α → List α → Nat
  | a :: as, b :: bs => (if a = b then 0 else 1) + mismatches as bs
  | as, bs => as.length + bs.length

@[simp] theorem mismatches_nil_left (bs : List α) : mismatches [] bs = bs.length := by
  simp [mismatches]

@[simp] theorem mismatches_nil_right (as : List α) : mismatches as [] = as.length := by
  cases as <;> simp [mismatches]

@[simp] theorem mismatches_cons (a b : α) (as bs : List α) :
    mismatches (a :: as) (b :: bs) = (if a = b then 0 else 1) + mismatches as bs := rfl

@[simp] theorem mismatches_self (as : List α) : mismatches as as = 0 := by
  induction as with
  | nil => rfl
  | cons a as ih => simp [ih]

theorem mismatches_eq_zero {as bs : List α} : mismatches as bs = 0 ↔ as = bs := by
  induction as generalizing bs with
  | nil => simp [eq_comm]
  | cons a as ih =>
      cases bs with
      | nil => simp
      | cons b bs => by_cases hab : a = b <;> simp [hab, ih]

theorem mismatches_comm (as bs : List α) : mismatches as bs = mismatches bs as := by
  induction as generalizing bs with
  | nil => simp
  | cons a as ih =>
      cases bs with
      | nil => simp
      | cons b bs => simp [ih bs, eq_comm]

theorem mismatches_append {as bs : List α} (hlen : as.length = bs.length)
    (cs ds : List α) :
    mismatches (as ++ cs) (bs ++ ds) = mismatches as bs + mismatches cs ds := by
  induction as generalizing bs with
  | nil => simp [List.length_eq_zero_iff.mp hlen.symm]
  | cons a as ih =>
      cases bs with
      | nil => simp at hlen
      | cons b bs =>
          simp only [List.cons_append, mismatches_cons, ih (Nat.succ.inj hlen)]
          omega

theorem mismatches_set_le (as : List α) (i : Nat) (b : α) :
    mismatches as (as.set i b) ≤ 1 := by
  induction as generalizing i with
  | nil => simp
  | cons a as ih =>
      cases i with
      | zero =>
          simp only [List.set_cons_zero, mismatches_cons, mismatches_self]
          split <;> omega
      | succ i => simpa using ih i

theorem mismatches_map_le {β : Type*} [DecidableEq β] (f : α → β) (as bs : List α) :
    mismatches (as.map f) (bs.map f) ≤ mismatches as bs := by
  induction as generalizing bs with
  | nil => simp
  | cons a as ih =>
      cases bs with
      | nil => simp
      | cons b bs =>
          have hrest := ih bs
          simp only [List.map_cons, mismatches_cons]
          by_cases hab : a = b
          · subst hab
            simpa using hrest
          · rw [if_neg hab]
            split <;> omega

/-- Lists one place apart are equal or differ at exactly one named position. -/
theorem eq_or_single_of_mismatches_le_one {as bs : List α} (hlen : as.length = bs.length)
    (h : mismatches as bs ≤ 1) :
    as = bs ∨ ∃ pre x y post, as = pre ++ x :: post ∧ bs = pre ++ y :: post := by
  induction as generalizing bs with
  | nil => exact .inl (List.length_eq_zero_iff.mp hlen.symm).symm
  | cons a as ih =>
      cases bs with
      | nil => simp at hlen
      | cons b bs =>
          rw [mismatches_cons] at h
          by_cases hab : a = b
          · subst hab
            simp only [if_pos, Nat.zero_add] at h
            rcases ih (Nat.succ.inj hlen) h with rfl | ⟨pre, x, y, post, rfl, rfl⟩
            · exact .inl rfl
            · exact .inr ⟨a :: pre, x, y, post, rfl, rfl⟩
          · rw [if_neg hab] at h
            have hrest : as = bs := mismatches_eq_zero.mp (by omega)
            subst hrest
            exact .inr ⟨[], a, b, as, rfl, rfl⟩

/-- A separator that occurs once in each of two lists one place apart stands at the same
position in both. -/
theorem length_eq_of_separator {sep : α} {as bs cs ds : List α}
    (has : sep ∉ as) (hbs : sep ∉ bs) (hcs : sep ∉ cs) (hds : sep ∉ ds)
    (h : mismatches (as ++ sep :: cs) (bs ++ sep :: ds) ≤ 1) :
    as.length = bs.length := by
  induction as generalizing bs with
  | nil =>
      cases bs with
      | nil => rfl
      | cons b bs =>
          have hne : sep ≠ b := fun heq => hbs (heq ▸ List.mem_cons_self)
          rw [List.nil_append, List.cons_append, mismatches_cons, if_neg hne] at h
          have heq : cs = bs ++ sep :: ds := mismatches_eq_zero.mp (by omega)
          exact absurd (heq ▸ by simp) hcs
  | cons a as ih =>
      cases bs with
      | nil =>
          have hne : a ≠ sep := fun heq => has (heq ▸ List.mem_cons_self)
          rw [List.nil_append, List.cons_append, mismatches_cons, if_neg hne] at h
          have heq : as ++ sep :: cs = ds := mismatches_eq_zero.mp (by omega)
          exact absurd (heq ▸ by simp) hds
      | cons b bs =>
          simp only [List.mem_cons, not_or] at has hbs
          rw [List.cons_append, List.cons_append, mismatches_cons] at h
          simpa using ih has.2 hbs.2 (by omega)

end ListDistance
