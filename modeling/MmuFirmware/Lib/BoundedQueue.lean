import Mathlib.Data.Nat.ModEq
import Mathlib.Data.List.Basic

/-!
Bounded first-in first-out queues, and how a ring of cells holds one: element number `i` of
the queue lies in cell `(first + i) % size`, where `first` counts what was ever taken out.
Cursors into the ring run modulo a period longer than the ring, a multiple of its size, so
that the distance of two cursors tells a full ring from an empty one.
-/

structure BoundedQueue (α : Type*) (capacity : Nat) where
  elems : List α
  bounded : elems.length ≤ capacity

namespace BoundedQueue

variable {α : Type*} {capacity : Nat} (q : BoundedQueue α capacity)

def fresh : BoundedQueue α capacity := ⟨[], Nat.zero_le capacity⟩

/-- The answer says whether there was room. -/
def push (x : α) : Bool × BoundedQueue α capacity :=
  if hroom : q.elems.length < capacity then
    (true, ⟨q.elems ++ [x], by rw [List.length_append]; exact hroom⟩)
  else
    (false, q)

/-- The answer is the oldest element, if there is one. -/
def pop : Option α × BoundedQueue α capacity :=
  (q.elems.head?, ⟨q.elems.tail, by
    rw [List.length_tail]
    exact (Nat.sub_le _ 1).trans q.bounded⟩)

@[simp] theorem elems_fresh : (fresh : BoundedQueue α capacity).elems = [] := rfl

@[simp] theorem elems_pop : q.pop.2.elems = q.elems.tail := rfl

@[simp] theorem answer_pop : q.pop.1 = q.elems.head? := rfl

theorem push_of_room {x : α} (h : q.elems.length < capacity) :
    (q.push x).1 = true ∧ (q.push x).2.elems = q.elems ++ [x] := by
  simp only [push, dif_pos h, and_self]

theorem push_of_full {x : α} (h : ¬ q.elems.length < capacity) :
    q.push x = (false, q) := by
  simp only [push, dif_neg h]

/-! The queue as a transducer. -/

inductive Op (α : Type*) where
  | push (x : α)
  | pop
  | reset
  | front
  | count
  | empty
  | full

inductive Answer (α : Type*) where
  | done
  | accepted (room : Bool)
  | extracted (x : Option α)
  | element (x : α)
  | number (n : Nat)
  | flag (b : Bool)

/-- The answer of the queue; none where it does not say what is answered, which is for a look
at the oldest element of a queue that has none. -/
def step : BoundedQueue α capacity → Op α → BoundedQueue α capacity × Option (Answer α)
  | q, .push x => ((q.push x).2, some (.accepted (q.push x).1))
  | q, .pop => (q.pop.2, some (.extracted q.pop.1))
  | _, .reset => (fresh, some .done)
  | q, .front => (q, q.elems.head?.map .element)
  | q, .count => (q, some (.number q.elems.length))
  | q, .empty => (q, some (.flag (q.elems.length == 0)))
  | q, .full => (q, some (.flag (q.elems.length == capacity)))

end BoundedQueue

namespace CellRing

variable {α : Type*} {size period first count : Nat}

/-- The ring holds these elements, oldest first; the other cells may hold anything. -/
structure Holds (cells : Vector α size) (first : Nat) (elems : List α) : Prop where
  bounded : elems.length ≤ size
  cell : ∀ i x, elems[i]? = some x → cells[(first + i) % size]? = some x

theorem cell_ne {i j : Nat} (hi : i < j) (hj : j < i + size) :
    (first + i) % size ≠ (first + j) % size := by
  intro heq
  have hdvd : size ∣ (first + j) - (first + i) := (Nat.modEq_iff_dvd' (by omega)).mp heq
  have hzero := Nat.eq_zero_of_dvd_of_lt hdvd (by omega)
  omega

theorem holds_nil (cells : Vector α size) (first : Nat) : Holds cells first [] :=
  ⟨Nat.zero_le size, fun i x h => by simp at h⟩

theorem Holds.push {cells : Vector α size} {elems : List α} (h : Holds cells first elems)
    (hroom : elems.length < size) (x : α)
    (hcell : (first + elems.length) % size < size) :
    Holds (cells.set ((first + elems.length) % size) x hcell) first (elems ++ [x]) := by
  refine ⟨by rw [List.length_append]; exact hroom, ?_⟩
  intro i y hy
  have hi : i < elems.length + 1 := by
    simpa using (List.getElem?_eq_some_iff.mp hy).1
  rcases Nat.lt_succ_iff_lt_or_eq.mp hi with hold | rfl
  · rw [Vector.getElem?_set_ne _ (cell_ne hold (by omega)).symm]
    rw [List.getElem?_append_left hold] at hy
    exact h.cell i y hy
  · rw [Vector.getElem?_set_self]
    simpa using hy

theorem Holds.pop {cells : Vector α size} {elems : List α} (h : Holds cells first elems) :
    Holds cells (first + 1) elems.tail := by
  refine ⟨?_, fun i x hx => ?_⟩
  · rw [List.length_tail]
    exact (Nat.sub_le _ 1).trans h.bounded
  · rw [List.getElem?_tail] at hx
    rw [Nat.add_assoc, Nat.add_comm 1 i]
    exact h.cell (i + 1) x hx

theorem Holds.head {cells : Vector α size} {elems : List α} (h : Holds cells first elems)
    {x : α} (hx : elems.head? = some x) : cells[first % size]? = some x := by
  refine h.cell 0 x ?_
  rwa [← List.head?_eq_getElem?]

theorem cursor_cases (first : Nat) (hcount : count < period) :
    (first + count) % period = first % period + count ∨
      (first + count) % period + period = first % period + count := by
  have hlt := Nat.mod_lt first (Nat.zero_lt_of_lt hcount)
  have hsum : (first + count) % period = (first % period + count) % period := by
    rw [Nat.add_mod, Nat.mod_eq_of_lt hcount]
  rcases Nat.lt_or_ge (first % period + count) period with hin | hwrap
  · exact .inl (hsum.trans (Nat.mod_eq_of_lt hin))
  · right
    rw [hsum, Nat.mod_eq_sub_mod hwrap, Nat.mod_eq_of_lt (by omega)]
    omega

/-- The distance of two cursors, where the later one has not wrapped. -/
theorem distance_of_le (hcount : count < period)
    (h : first % period ≤ (first + count) % period) :
    (first + count) % period - first % period = count := by
  have hcases := cursor_cases first hcount
  omega

/-- The distance of two cursors, where the later one has wrapped. -/
theorem distance_of_lt (hcount : count < period)
    (h : (first + count) % period < first % period) :
    period + (first + count) % period - first % period = count := by
  have hcases := cursor_cases first hcount
  omega

theorem cursors_eq_iff (hcount : count < period) :
    first % period = (first + count) % period ↔ count = 0 := by
  constructor
  · intro heq
    have hcases := cursor_cases first hcount
    omega
  · rintro rfl
    rfl

end CellRing
