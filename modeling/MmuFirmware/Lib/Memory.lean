import Mathlib.Logic.Function.Basic

/-!
A memory whose cells may be broken, which is to say stuck at what they hold, and whose power
may fail after a number of further writes. A write that comes too late or hits a broken cell
has no effect; reading has no effect at all. Every write to a cell that holds another value
wears it.
-/

structure Memory (α β : Type*) where
  cells : α → β
  broken : α → Bool
  /-- Writes until the power fails, if it does. -/
  writesLeft : Option Nat
  /-- How often a cell has been written. -/
  wear : α → Nat := fun _ => 0

namespace Memory

variable {α β : Type*} [DecidableEq α] [DecidableEq β] (m : Memory α β) (a a' : α) (v : β)

def read : β := m.cells a

def update : Memory α β :=
  match m.writesLeft with
  | some 0 => m
  | left =>
      { m with
        cells := if m.broken a then m.cells else Function.update m.cells a v
        writesLeft := left.map Nat.pred
        wear := if m.cells a = v then m.wear else Function.update m.wear a (m.wear a + 1) }

/-- The power fails after `n` more writes. -/
def cut (n : Nat) : Memory α β := { m with writesLeft := some n }

/-- A reset: the power comes back, what the cells hold stays. -/
def restart : Memory α β := { m with writesLeft := none }

omit [DecidableEq α] [DecidableEq β] in
@[simp] theorem read_cut (n : Nat) : (m.cut n).read a = m.read a := rfl

omit [DecidableEq α] [DecidableEq β] in
@[simp] theorem broken_cut (n : Nat) : (m.cut n).broken = m.broken := rfl

omit [DecidableEq α] [DecidableEq β] in
@[simp] theorem writesLeft_cut (n : Nat) : (m.cut n).writesLeft = some n := rfl

omit [DecidableEq α] [DecidableEq β] in
@[simp] theorem read_restart : m.restart.read a = m.read a := rfl

@[simp] theorem broken_update : (m.update a v).broken = m.broken := by
  rw [update]
  split <;> rfl

@[simp] theorem writesLeft_update :
    (m.update a v).writesLeft = m.writesLeft.map Nat.pred := by
  rw [update]
  split
  · next h => simp [h]
  · rfl

theorem read_update_of_ne {a a' : α} (h : a' ≠ a) : (m.update a v).read a' = m.read a' := by
  rw [update]
  split
  · rfl
  · simp only [read]
    split
    · rfl
    · exact Function.update_of_ne h _ _

/-- A cell that works takes the value as long as the power is on. -/
theorem read_update_self {m : Memory α β} {a : α} (hpower : m.writesLeft ≠ some 0)
    (hworks : m.broken a = false) : (m.update a v).read a = v := by
  rw [update]
  split
  · next h => exact absurd h hpower
  · simp [read, hworks]

theorem wear_update_of_ne {a a' : α} (h : a' ≠ a) : (m.update a v).wear a' = m.wear a' := by
  rw [update]
  split
  · rfl
  · simp only
    split
    · rfl
    · exact Function.update_of_ne h _ _

/-- A value a cell holds already is not written. -/
theorem wear_update_self {m : Memory α β} {a : α} (hpower : m.writesLeft ≠ some 0) :
    (m.update a v).wear a = m.wear a + if m.read a = v then 0 else 1 := by
  rw [update]
  split
  · next h => exact absurd h hpower
  · by_cases h : m.cells a = v
    · simp [read, h]
    · simp [read, h]

/-- A cell of which every one works: the write is all that changes, if there is power. -/
theorem read_update_of_works {m : Memory α β} {a : α} (hworks : m.broken a = false) :
    (m.update a v).read a' = if a' = a ∧ m.writesLeft ≠ some 0 then v else m.read a' := by
  by_cases ha : a' = a
  · subst ha
    by_cases hpower : m.writesLeft = some 0
    · rw [if_neg (by simp [hpower]), update]
      split
      · rfl
      · next hleft => exact absurd hpower hleft
    · rw [if_pos ⟨rfl, hpower⟩, read_update_self v hpower hworks]
  · rw [if_neg (fun h => ha h.1), read_update_of_ne _ _ ha]

theorem read_update_broken {m : Memory α β} {a : α} (hbroken : m.broken a = true) :
    (m.update a v).read a' = m.read a' := by
  rw [update]
  split
  · rfl
  · simp [read, hbroken]

theorem update_of_powerless {m : Memory α β} (h : m.writesLeft = some 0) :
    m.update a v = m := by
  rw [update]
  split
  · rfl
  · next hpower => exact absurd h hpower

end Memory
