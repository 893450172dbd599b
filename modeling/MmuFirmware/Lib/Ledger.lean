import Mathlib.Data.List.Basic

/-!
What becomes of the items that are offered to a first-in first-out queue. A ledger lists them
in the order they came in, each with its one fate: it was refused, or it waits, or it was
taken by somebody, or discarded with all that waited. The rules below say how the ledger is
carried on; in each of them nothing is lost, taken twice or taken out of turn.
-/

inductive Fate (ρ : Type*) where
  | waiting
  | refused
  | discarded
  | taken (taker : ρ)
  deriving DecidableEq

namespace Ledger

variable {α ρ : Type*}

def waiting? : α × Fate ρ → Option α
  | (x, .waiting) => some x
  | _ => none

def refused? : α × Fate ρ → Option α
  | (x, .refused) => some x
  | _ => none

def discarded? : α × Fate ρ → Option α
  | (x, .discarded) => some x
  | _ => none

def taken? : α × Fate ρ → Option (α × ρ)
  | (x, .taken taker) => some (x, taker)
  | _ => none

/-- What waits is discarded. -/
def wipe : α × Fate ρ → α × Fate ρ
  | (x, .waiting) => (x, .discarded)
  | e => e

@[simp] theorem fst_wipe (e : α × Fate ρ) : (wipe e).1 = e.1 := by
  obtain ⟨x, fate⟩ := e
  cases fate <;> rfl

@[simp] theorem waiting?_wipe (e : α × Fate ρ) : waiting? (wipe e) = none := by
  obtain ⟨x, fate⟩ := e
  cases fate <;> rfl

@[simp] theorem refused?_wipe (e : α × Fate ρ) : refused? (wipe e) = refused? e := by
  obtain ⟨x, fate⟩ := e
  cases fate <;> rfl

@[simp] theorem taken?_wipe (e : α × Fate ρ) : taken? (wipe e) = taken? e := by
  obtain ⟨x, fate⟩ := e
  cases fate <;> rfl

theorem discarded?_wipe {e : α × Fate ρ} (h : discarded? e = none) :
    discarded? (wipe e) = waiting? e := by
  obtain ⟨x, fate⟩ := e
  cases fate with
  | waiting | refused | taken => rfl
  | discarded => exact absurd h (Option.some_ne_none x)

/-- The entries account for all that was offered, refused, discarded and taken, and for what is
in the queue, each in order. What was taken or discarded came before what waits. -/
structure Accounts (entries : List (α × Fate ρ)) (offered refused discarded : List α)
    (taken : List (α × ρ)) (queue : List α) : Prop where
  offered : entries.map Prod.fst = offered
  refused : entries.filterMap refused? = refused
  discarded : entries.filterMap discarded? = discarded
  taken : entries.filterMap taken? = taken
  waiting : entries.filterMap waiting? = queue
  ordered : ∃ settled opened, entries = settled ++ opened ∧ settled.filterMap waiting? = [] ∧
    opened.filterMap discarded? = [] ∧ opened.filterMap taken? = []

namespace Accounts

variable {entries : List (α × Fate ρ)} {offered refused discarded queue : List α}
  {taken : List (α × ρ)}

theorem nil : Accounts ([] : List (α × Fate ρ)) [] [] [] [] [] :=
  ⟨rfl, rfl, rfl, rfl, rfl, [], [], rfl, rfl, rfl, rfl⟩

/-- Items come in, some to wait and the others to be refused. -/
theorem offer (h : Accounts entries offered refused discarded taken queue)
    (accepts refuses : List α) :
    ∃ entries', Accounts entries' (offered ++ (accepts ++ refuses)) (refused ++ refuses) discarded
      taken (queue ++ accepts) := by
  obtain ⟨rfl, rfl, rfl, rfl, rfl, settled, opened, rfl, hsettled, hdiscarded, htaken⟩ := h
  refine ⟨settled ++ (opened ++ (accepts.map fun x => (x, .waiting)) ++
    refuses.map fun x => (x, .refused)), ?_, ?_, ?_, ?_, ?_, settled, _, rfl, hsettled, ?_, ?_⟩
  all_goals
    simp [List.filterMap_map, Function.comp_def, waiting?, refused?, discarded?, taken?,
      hdiscarded, htaken]

/-- The first item that waits is taken. -/
theorem take {x : α} (h : Accounts entries offered refused discarded taken (x :: queue))
    (taker : ρ) :
    ∃ entries', Accounts entries' offered refused discarded (taken ++ [(x, taker)]) queue := by
  obtain ⟨rfl, rfl, rfl, rfl, hwaiting, settled, opened, rfl, hsettled, hdiscarded, htaken⟩ := h
  rw [List.filterMap_append, hsettled, List.nil_append, List.filterMap_eq_cons_iff] at hwaiting
  obtain ⟨passed, entry, rest, rfl, hpassed, hentry, rfl⟩ := hwaiting
  obtain rfl : entry = (x, .waiting) := by
    obtain ⟨y, fate⟩ := entry
    cases fate with
    | waiting => exact congrArg (·, Fate.waiting) (Option.some.inj hentry)
    | refused | discarded | taken => exact absurd hentry (Option.some_ne_none x).symm
  rw [List.filterMap_append, List.append_eq_nil_iff] at hdiscarded htaken
  obtain ⟨hdiscarded, hdiscarded'⟩ := hdiscarded
  obtain ⟨htaken, htaken'⟩ := htaken
  have hpassed : passed.filterMap waiting? = [] := List.filterMap_eq_nil_iff.mpr hpassed
  have hrest : rest.filterMap discarded? = [] := hdiscarded'
  have hrest' : rest.filterMap taken? = [] := htaken'
  refine ⟨settled ++ passed ++ (x, .taken taker) :: rest, ?_, ?_, ?_, ?_, ?_,
    settled ++ passed ++ [(x, .taken taker)], rest, ?_, ?_, hrest, hrest'⟩
  all_goals
    simp [List.filterMap_cons, waiting?, refused?, discarded?, taken?, hsettled, hpassed,
      hdiscarded, hrest, htaken, hrest']

/-- All items that wait are discarded. -/
theorem discard (h : Accounts entries offered refused discarded taken queue) :
    ∃ entries', Accounts entries' offered refused (discarded ++ queue) taken [] := by
  obtain ⟨rfl, rfl, rfl, rfl, rfl, settled, opened, rfl, hsettled, hdiscarded, htaken⟩ := h
  have hwiped : (opened.map wipe).filterMap discarded? = opened.filterMap waiting? := by
    rw [List.filterMap_map]
    exact List.filterMap_congr fun e he =>
      discarded?_wipe (List.filterMap_eq_nil_iff.mp hdiscarded e he)
  have hempty : (opened.map wipe).filterMap waiting? = [] := by
    simp [List.filterMap_map]
  refine ⟨settled ++ opened.map wipe, ?_, ?_, ?_, ?_, ?_, _, [], (List.append_nil _).symm, ?_,
    rfl, rfl⟩
  · simp
  · simp [List.filterMap_map]
  · simp only [List.filterMap_append, hwiped, hdiscarded, hsettled, List.append_nil, List.nil_append]
  · simp [List.filterMap_map]
  · rw [List.filterMap_append, hsettled, hempty, List.nil_append]
  · rw [List.filterMap_append, hsettled, hempty, List.nil_append]

end Accounts

end Ledger
