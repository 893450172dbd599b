import MmuFirmware.Lib.BoundedQueue
import MmuFirmware.Lib.Transducer
import Mathlib.Data.Nat.Bitwise
import Mathlib.Data.List.Forall2
import Mathlib.Data.List.Nodup

/-!
The circular index and the circular buffer that the move queues, the serial line and the
button events are kept in. Cursors run over twice the size, or over the whole index type
where the size is a power of two. The template parameters carry what the source asserts of
them: the size is not zero and fits into half the range of the index type.
-/

namespace MmuFirmware

/-- An index type of `width` bits and a size, as the templates admit them. -/
structure IndexTemplate where
  width : Nat
  size : Nat
  pos : 0 < size
  fits : size ≤ (2 ^ width - 1) / 2

variable {c : IndexTemplate}

structure CircularIndex (c : IndexTemplate) where
  tail : BitVec c.width := 0
  head : BitVec c.width := 0

namespace CircularIndex

def sizeIsPower2 (c : IndexTemplate) : Bool := c.size &&& (c.size - 1) == 0

def mask (cursor : BitVec c.width) : BitVec c.width :=
  BitVec.ofNat c.width (cursor.toNat % c.size)

def next (cursor : BitVec c.width) : BitVec c.width :=
  if sizeIsPower2 c then cursor + 1
  else BitVec.ofNat c.width ((cursor.toNat + 1) % (c.size * 2))

def empty (index : CircularIndex c) : Bool := index.tail == index.head

def count (index : CircularIndex c) : BitVec c.width :=
  if sizeIsPower2 c then index.head - index.tail
  else if index.tail ≤ index.head then index.head - index.tail
  else BitVec.ofInt c.width ((c.size * 2 + index.head.toNat : Int) - index.tail.toNat)

def full (index : CircularIndex c) : Bool := index.count.toNat == c.size

def reset (index : CircularIndex c) : CircularIndex c := { index with head := index.tail }

def push (index : CircularIndex c) : CircularIndex c := { index with head := next index.head }

def pop (index : CircularIndex c) : CircularIndex c := { index with tail := next index.tail }

def front (index : CircularIndex c) : BitVec c.width := mask index.tail

def back (index : CircularIndex c) : BitVec c.width := mask index.head

/-! The cursors of an index into which `first + length` elements went and out of which
`first` came. -/

/-- Where the cursors wrap around. -/
def period (c : IndexTemplate) : Nat := if sizeIsPower2 c then 2 ^ c.width else c.size * 2

theorem two_mul_size_lt (c : IndexTemplate) : c.size * 2 < 2 ^ c.width := by
  have hfits := c.fits
  have hpow := Nat.two_pow_pos c.width
  omega

theorem size_lt_two_pow (c : IndexTemplate) : c.size < 2 ^ c.width :=
  (Nat.le_mul_of_pos_right c.size (by decide)).trans_lt (two_mul_size_lt c)

theorem size_eq_two_pow (h : sizeIsPower2 c = true) : ∃ k, c.size = 2 ^ k := by
  have hand : c.size &&& (c.size - 1) = 0 := by simpa [sizeIsPower2] using h
  exact (Nat.and_sub_one_eq_zero_iff_isPowerOfTwo c.pos.ne').mp hand

theorem size_lt_period (c : IndexTemplate) : c.size < period c := by
  rw [period]
  split
  · exact size_lt_two_pow c
  · have hpos := c.pos
    omega

theorem size_dvd_period (c : IndexTemplate) : c.size ∣ period c := by
  rw [period]
  split
  · next hpower =>
    obtain ⟨k, hk⟩ := size_eq_two_pow hpower
    have hlt := size_lt_two_pow c
    rw [hk] at hlt ⊢
    exact Nat.pow_dvd_pow 2 ((Nat.pow_lt_pow_iff_right (by decide)).mp hlt).le
  · exact Nat.dvd_mul_right c.size 2

theorem toNat_mask (cursor : BitVec c.width) : (mask cursor).toNat = cursor.toNat % c.size := by
  rw [mask, BitVec.toNat_ofNat, Nat.mod_eq_of_lt]
  exact (Nat.mod_lt _ c.pos).trans (size_lt_two_pow c)

theorem front_lt (index : CircularIndex c) : index.front.toNat < c.size := by
  rw [front, toNat_mask]
  exact Nat.mod_lt _ c.pos

theorem back_lt (index : CircularIndex c) : index.back.toNat < c.size := by
  rw [back, toNat_mask]
  exact Nat.mod_lt _ c.pos

theorem toNat_next {cursor : BitVec c.width} {n : Nat} (h : cursor.toNat = n % period c) :
    (next cursor).toNat = (n + 1) % period c := by
  rw [next]
  split
  · next hpower =>
    rw [period, if_pos hpower] at h ⊢
    show (cursor + BitVec.ofNat c.width 1).toNat = _
    rw [BitVec.toNat_add, h, BitVec.toNat_ofNat, ← Nat.add_mod]
  · next hpower =>
    rw [period, if_neg hpower] at h ⊢
    rw [BitVec.toNat_ofNat, h, Nat.mod_add_mod, Nat.mod_eq_of_lt]
    exact (Nat.mod_lt _ (Nat.mul_pos c.pos (by decide))).trans (two_mul_size_lt c)

structure Spans (index : CircularIndex c) (first length : Nat) : Prop where
  bounded : length ≤ c.size
  tail : index.tail.toNat = first % period c
  head : index.head.toNat = (first + length) % period c

namespace Spans

variable {index : CircularIndex c} {first length : Nat}

theorem lt_period (h : index.Spans first length) : length < period c :=
  h.bounded.trans_lt (size_lt_period c)

theorem count (h : index.Spans first length) : index.count.toNat = length := by
  rcases Nat.lt_or_ge index.head.toNat index.tail.toNat with hwrap | hle
  · have hlt : ¬ index.tail ≤ index.head := by
      rw [BitVec.le_def]
      omega
    have hdistance : period c + index.head.toNat - index.tail.toNat = length := by
      rw [h.tail, h.head] at hwrap ⊢
      exact CellRing.distance_of_lt h.lt_period hwrap
    have hbound := index.tail.isLt
    have hfits := h.lt_period
    have htail : index.tail.toNat < period c := by
      rw [h.tail]
      exact Nat.mod_lt _ (Nat.zero_lt_of_lt hfits)
    rw [CircularIndex.count, if_neg hlt]
    split
    · next hpower =>
      rw [period, if_pos hpower] at hdistance hfits
      rw [BitVec.toNat_sub, Nat.mod_eq_of_lt (by omega)]
      omega
    · next hpower =>
      rw [period, if_neg hpower] at hdistance hfits htail
      have hsum : (c.size * 2 + index.head.toNat : Int) - index.tail.toNat = length := by
        omega
      rw [hsum, BitVec.ofInt_natCast, BitVec.toNat_ofNat,
        Nat.mod_eq_of_lt (hfits.trans (two_mul_size_lt c))]
  · have hdistance : index.head.toNat - index.tail.toNat = length := by
      rw [h.tail, h.head] at hle ⊢
      exact CellRing.distance_of_le h.lt_period hle
    rw [CircularIndex.count, if_pos (BitVec.le_def.mpr hle), ite_self,
      BitVec.toNat_sub_of_le (BitVec.le_def.mpr hle)]
    exact hdistance

theorem empty_iff (h : index.Spans first length) : index.empty = true ↔ length = 0 := by
  rw [empty, beq_iff_eq, BitVec.toNat_eq, h.tail, h.head]
  exact CellRing.cursors_eq_iff h.lt_period

theorem full_iff (h : index.Spans first length) : index.full = true ↔ length = c.size := by
  rw [full, beq_iff_eq, h.count]

theorem front (h : index.Spans first length) : index.front.toNat = first % c.size := by
  rw [CircularIndex.front, toNat_mask, h.tail, Nat.mod_mod_of_dvd _ (size_dvd_period c)]

theorem back (h : index.Spans first length) :
    index.back.toNat = (first + length) % c.size := by
  rw [CircularIndex.back, toNat_mask, h.head, Nat.mod_mod_of_dvd _ (size_dvd_period c)]

theorem fresh : (⟨0, 0⟩ : CircularIndex c).Spans 0 0 :=
  ⟨Nat.zero_le _, by simp, by simp⟩

theorem reset (h : index.Spans first length) : index.reset.Spans first 0 :=
  ⟨Nat.zero_le _, h.tail, h.tail⟩

theorem push (h : index.Spans first length) (hroom : length < c.size) :
    index.push.Spans first (length + 1) :=
  ⟨hroom, h.tail, toNat_next h.head⟩

theorem pop (h : index.Spans first (length + 1)) : index.pop.Spans (first + 1) length := by
  refine ⟨(Nat.le_succ length).trans h.bounded, toNat_next h.tail, ?_⟩
  rw [Nat.add_right_comm]
  exact h.head

end Spans

end CircularIndex

/-- An element of the circular buffer's type in each cell; what is there at first is whatever
memory held. -/
structure CircularBuffer (α : Type*) (c : IndexTemplate) where
  data : Vector α c.size
  index : CircularIndex c := {}

namespace CircularBuffer

variable {α : Type*} (b : CircularBuffer α c)

def empty : Bool := b.index.empty

def full : Bool := b.index.full

def reset : CircularBuffer α c := { b with index := b.index.reset }

/-- The cell the next element goes to. -/
def slot : α := b.data.get ⟨b.index.back.toNat, b.index.back_lt⟩

/-- The two halves of a push: the element is in its cell before the index advances. -/
def store (elem : α) : CircularBuffer α c :=
  { b with data := b.data.set b.index.back.toNat elem b.index.back_lt }

def advance : CircularBuffer α c := { b with index := b.index.push }

def push (elem : α) : Bool × CircularBuffer α c :=
  if b.full then (false, b) else (true, (b.store elem).advance)

def front : α := b.data.get ⟨b.index.front.toNat, b.index.front_lt⟩

/-- The cell of the oldest element is given up. -/
def retire : CircularBuffer α c := { b with index := b.index.pop }

/-- Without an element to extract the reference it is to be put in stays as it is. -/
def pop : Option α × CircularBuffer α c :=
  if b.empty then (none, b) else (some b.front, b.retire)

def count : BitVec c.width := b.index.count

open BoundedQueue in
def step : CircularBuffer α c → Op α → CircularBuffer α c × Answer α
  | b, .push elem => ((b.push elem).2, .accepted (b.push elem).1)
  | b, .pop => (b.pop.2, .extracted b.pop.1)
  | b, .reset => (b.reset, .done)
  | b, .front => (b, .element b.front)
  | b, .count => (b, .number b.count.toNat)
  | b, .empty => (b, .flag b.empty)
  | b, .full => (b, .flag b.full)

@[simp] theorem slot_store (elem : α) : (b.store elem).slot = elem :=
  Vector.getElem_set_self b.index.back_lt

/-- The buffer holds these elements, oldest first. -/
def Queues (elems : List α) : Prop :=
  ∃ first, b.index.Spans first elems.length ∧ CellRing.Holds b.data first elems

variable {b} {elems : List α}

namespace Queues

theorem fresh (data : Vector α c.size) :
    Queues ({ data := data } : CircularBuffer α c) [] :=
  ⟨0, .fresh, CellRing.holds_nil data 0⟩

theorem count (h : b.Queues elems) : b.count.toNat = elems.length := by
  obtain ⟨first, hspans, -⟩ := h
  exact hspans.count

theorem empty_iff (h : b.Queues elems) : b.empty = true ↔ elems.length = 0 := by
  obtain ⟨first, hspans, -⟩ := h
  exact hspans.empty_iff

theorem full_iff (h : b.Queues elems) : b.full = true ↔ elems.length = c.size := by
  obtain ⟨first, hspans, -⟩ := h
  exact hspans.full_iff

theorem bounded (h : b.Queues elems) : elems.length ≤ c.size := by
  obtain ⟨first, -, hholds⟩ := h
  exact hholds.bounded

theorem front (h : b.Queues elems) {x : α} (hx : elems.head? = some x) : b.front = x := by
  obtain ⟨first, hspans, hholds⟩ := h
  have hcell := hholds.head hx
  rw [← hspans.front] at hcell
  exact (Vector.getElem?_eq_some_iff.mp hcell).2

theorem reset (h : b.Queues elems) : b.reset.Queues [] := by
  obtain ⟨first, hspans, -⟩ := h
  exact ⟨first, hspans.reset, CellRing.holds_nil b.data first⟩

/-- A write into the free cell at the back is not seen. -/
theorem store (h : b.Queues elems) (hroom : elems.length < c.size) (elem : α) :
    (b.store elem).Queues elems := by
  obtain ⟨first, hspans, hholds⟩ := h
  refine ⟨first, hspans, hholds.bounded, fun i x hx => ?_⟩
  have hi := (List.getElem?_eq_some_iff.mp hx).1
  have hne : b.index.back.toNat ≠ (first + i) % c.size := by
    rw [hspans.back]
    exact (CellRing.cell_ne hi (by omega)).symm
  rw [CircularBuffer.store, Vector.getElem?_set_ne _ hne]
  exact hholds.cell i x hx

theorem advance (h : b.Queues elems) (hroom : elems.length < c.size) {elem : α}
    (hcell : b.slot = elem) : b.advance.Queues (elems ++ [elem]) := by
  obtain ⟨first, hspans, hholds⟩ := h
  have hlt := hspans.back ▸ b.index.back_lt
  have hstored : b.data.set ((first + elems.length) % c.size) elem hlt = b.data := by
    subst hcell
    simp only [← hspans.back]
    exact Vector.set_getElem_self _
  refine ⟨first, ?_, hstored ▸ hholds.push hroom elem hlt⟩
  rw [List.length_append]
  exact hspans.push hroom

theorem push (h : b.Queues elems) (hroom : elems.length < c.size) (elem : α) :
    (b.push elem).1 = true ∧ (b.push elem).2.Queues (elems ++ [elem]) := by
  have hfull : ¬ b.full = true := by
    rw [h.full_iff]
    exact hroom.ne
  rw [CircularBuffer.push, if_neg hfull]
  exact ⟨rfl, (h.store hroom elem).advance hroom (b.slot_store elem)⟩

theorem push_full (h : b.Queues elems) (hfull : elems.length = c.size) (elem : α) :
    b.push elem = (false, b) := by
  rw [CircularBuffer.push, if_pos (h.full_iff.mpr hfull)]

theorem nonempty {x : α} {xs : List α} (h : b.Queues (x :: xs)) : ¬ b.empty = true := by
  rw [h.empty_iff]
  exact Nat.succ_ne_zero _

/-- The index advances past the oldest element. -/
theorem retire {x : α} {xs : List α} (h : b.Queues (x :: xs)) : b.retire.Queues xs := by
  obtain ⟨first, hspans, hholds⟩ := h
  exact ⟨first + 1, hspans.pop, hholds.pop⟩

theorem pop (h : b.Queues elems) :
    b.pop.1 = elems.head? ∧ b.pop.2.Queues elems.tail := by
  rw [CircularBuffer.pop]
  cases elems with
  | nil =>
      rw [if_pos (h.empty_iff.mpr rfl)]
      exact ⟨rfl, h⟩
  | cons x xs =>
      rw [if_neg h.nonempty, h.front rfl]
      exact ⟨rfl, h.retire⟩

end Queues

/-- One step of the buffer against one step of the queue. -/
theorem Queues.step {q : BoundedQueue α c.size} (h : b.Queues q.elems)
    (op : BoundedQueue.Op α) :
    (b.step op).1.Queues (q.step op).1.elems ∧
      ∀ answer, (q.step op).2 = some answer → (b.step op).2 = answer := by
  cases op with
  | push x =>
      rcases Nat.lt_or_ge q.elems.length c.size with hroom | hfull
      · obtain ⟨haccepted, helems⟩ := BoundedQueue.push_of_room q (x := x) hroom
        obtain ⟨hpushed, hqueues⟩ := h.push hroom x
        rw [CircularBuffer.step, BoundedQueue.step, hpushed, haccepted]
        rw [← helems] at hqueues
        exact ⟨hqueues, fun _ hanswer => Option.some.inj hanswer⟩
      · have hlength : q.elems.length = c.size := q.bounded.antisymm hfull
        rw [CircularBuffer.step, BoundedQueue.step, h.push_full hlength,
          BoundedQueue.push_of_full q (x := x) hfull.not_gt]
        exact ⟨h, fun _ hanswer => Option.some.inj hanswer⟩
  | pop =>
      obtain ⟨hpopped, hqueues⟩ := h.pop
      rw [CircularBuffer.step, BoundedQueue.step, hpopped]
      exact ⟨hqueues, fun _ hanswer => Option.some.inj hanswer⟩
  | reset => exact ⟨h.reset, fun _ hanswer => Option.some.inj hanswer⟩
  | front =>
      refine ⟨h, fun answer hanswer => ?_⟩
      obtain ⟨x, hx, rfl⟩ := Option.map_eq_some_iff.mp hanswer
      rw [CircularBuffer.step, h.front hx]
  | count =>
      refine ⟨h, fun answer hanswer => ?_⟩
      rw [CircularBuffer.step, h.count]
      exact Option.some.inj hanswer
  | empty =>
      refine ⟨h, fun answer hanswer => ?_⟩
      have hempty : b.empty = (q.elems.length == 0) := by
        rw [Bool.eq_iff_iff, h.empty_iff, beq_iff_eq]
      rw [CircularBuffer.step, hempty]
      exact Option.some.inj hanswer
  | full =>
      refine ⟨h, fun answer hanswer => ?_⟩
      have hfull : b.full = (q.elems.length == c.size) := by
        rw [Bool.eq_iff_iff, h.full_iff, beq_iff_eq]
      rw [CircularBuffer.step, hfull]
      exact Option.some.inj hanswer

end CircularBuffer

namespace CircularIndex

/-- A client that asks before it advances the index: the positions it was handed out and has
not given back, oldest first. -/
inductive Reaches : CircularIndex c → List Nat → Prop where
  | fresh : Reaches {} []
  | push {index : CircularIndex c} {positions : List Nat} (h : Reaches index positions)
      (hroom : index.full = false) :
      Reaches index.push (positions ++ [index.back.toNat])
  | pop {index : CircularIndex c} {positions : List Nat} (h : Reaches index positions)
      (hsome : index.empty = false) : Reaches index.pop positions.tail
  | reset {index : CircularIndex c} {positions : List Nat} (h : Reaches index positions) :
      Reaches index.reset []

/-- The index answers as the queue of these positions does. -/
structure Queues (index : CircularIndex c) (positions : List Nat) : Prop where
  bounded : positions.length ≤ c.size
  count : index.count.toNat = positions.length
  empty : index.empty = true ↔ positions.length = 0
  full : index.full = true ↔ positions.length = c.size
  front : ∀ p, positions.head? = some p → index.front.toNat = p
  fresh : positions.length < c.size → index.back.toNat ∉ positions
  distinct : positions.Nodup
  inside : ∀ p ∈ positions, p < c.size

/-- The positions from element number `first` on. -/
def window (size first : Nat) (length : Nat) : List Nat :=
  (List.range length).map fun i => (first + i) % size

@[simp] theorem length_window (size first length : Nat) :
    (window size first length).length = length := by
  rw [window, List.length_map, List.length_range]

theorem window_succ (size first length : Nat) :
    window size first (length + 1) = window size first length ++ [(first + length) % size] := by
  rw [window, List.range_succ, List.map_append]
  rfl

theorem window_tail (size first length : Nat) :
    (window size first (length + 1)).tail = window size (first + 1) length := by
  rw [window, List.range_succ_eq_map, List.map_cons, List.tail_cons, List.map_map, window]
  apply List.map_congr_left
  intro i _
  rw [Function.comp_apply, Nat.succ_eq_add_one, Nat.add_assoc, Nat.add_comm 1 i]

theorem window_nodup {size first length : Nat} (h : length ≤ size) :
    (window size first length).Nodup := by
  apply List.Nodup.map_on _ List.nodup_range
  intro i hi j hj heq
  rw [List.mem_range] at hi hj
  rcases Nat.lt_trichotomy i j with hlt | rfl | hlt
  · exact absurd heq (CellRing.cell_ne hlt (by omega))
  · rfl
  · exact absurd heq.symm (CellRing.cell_ne hlt (by omega))

theorem Spans.queues {index : CircularIndex c} {first length : Nat}
    (h : index.Spans first length) : index.Queues (window c.size first length) where
  bounded := by
    rw [length_window]
    exact h.bounded
  count := by rw [h.count, length_window]
  empty := by rw [h.empty_iff, length_window]
  full := by rw [h.full_iff, length_window]
  front p hp := by
    cases length with
    | zero => cases hp
    | succ n =>
        rw [window, List.range_succ_eq_map, List.map_cons, List.head?_cons] at hp
        rw [h.front]
        exact Option.some.inj hp
  fresh hroom hmem := by
    rw [length_window] at hroom
    obtain ⟨i, hi, heq⟩ := List.mem_map.mp hmem
    rw [List.mem_range] at hi
    rw [h.back] at heq
    exact absurd heq (CellRing.cell_ne hi (by omega))
  distinct := window_nodup h.bounded
  inside p hp := by
    obtain ⟨i, -, rfl⟩ := List.mem_map.mp hp
    exact Nat.mod_lt _ c.pos

theorem Reaches.spans {index : CircularIndex c} {positions : List Nat}
    (h : index.Reaches positions) :
    ∃ first length, index.Spans first length ∧ positions = window c.size first length := by
  induction h with
  | fresh => exact ⟨0, 0, .fresh, rfl⟩
  | push h hroom ih =>
      obtain ⟨first, length, hspans, rfl⟩ := ih
      have hlt : length < c.size := by
        refine hspans.bounded.lt_of_ne fun heq => ?_
        rw [hspans.full_iff.mpr heq] at hroom
        cases hroom
      refine ⟨first, length + 1, hspans.push hlt, ?_⟩
      rw [hspans.back, window_succ]
  | pop h hsome ih =>
      obtain ⟨first, length, hspans, rfl⟩ := ih
      cases length with
      | zero =>
          rw [hspans.empty_iff.mpr rfl] at hsome
          cases hsome
      | succ n => exact ⟨first + 1, n, hspans.pop, window_tail c.size first n⟩
  | reset h ih =>
      obtain ⟨first, length, hspans, -⟩ := ih
      exact ⟨first, 0, hspans.reset, rfl⟩

end CircularIndex

/-- Along every sequence of operations the buffer answers what the queue of its capacity
answers and its positions stay inside, and the bare index hands out and takes back positions
as a queue of them does. -/
theorem circularBuffer_is_boundedQueue {α : Type*} (c : IndexTemplate) :
    (∀ (data : Vector α c.size) (ops : List (BoundedQueue.Op α)),
      List.Forall₂
        (fun (buffer : BoundedQueue.Answer α × CircularBuffer α c)
            (queue : Option (BoundedQueue.Answer α) × BoundedQueue α c.size) =>
          (∀ answer, queue.1 = some answer → buffer.1 = answer) ∧
            buffer.2.index.front.toNat < c.size ∧ buffer.2.index.back.toNat < c.size)
        (Transducer.trace CircularBuffer.step { data := data } ops)
        (Transducer.trace BoundedQueue.step BoundedQueue.fresh ops)) ∧
      ∀ (index : CircularIndex c) (positions : List Nat),
        index.Reaches positions → index.Queues positions := by
  refine ⟨fun data ops => ?_, fun index positions h => ?_⟩
  · have hsim := Transducer.trace_simulation CircularBuffer.step
      (fun b (q : BoundedQueue α c.size) => b.Queues q.elems)
      (fun answer allowed => ∀ a, allowed = some a → answer = a)
      (fun b q op h => h.step op) { data := data } BoundedQueue.fresh (.fresh data) ops
    refine hsim.imp fun o o' h => ?_
    exact ⟨h.1, o.2.index.front_lt, o.2.index.back_lt⟩
  · obtain ⟨first, length, hspans, rfl⟩ := h.spans
    exact hspans.queues

/-- Three elements and an index of one byte: one element in and out of the bare index. -/
def threeOfByte : IndexTemplate := ⟨8, 3, by decide, by decide⟩

theorem circularBuffer_is_boundedQueue_three :
    ((({} : CircularIndex threeOfByte).push).pop).Queues [] :=
  (circularBuffer_is_boundedQueue (α := Nat) threeOfByte).2 _ _
    ((CircularIndex.Reaches.fresh.push (by decide)).pop (by decide))

end MmuFirmware
