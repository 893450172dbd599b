import MmuFirmware.Hal.Usart

/-!
`WriteToUSART` checks for room before each byte it writes, and only the main program writes. So the
writes it makes find room, whatever the interrupt does meanwhile: it returns after a bounded number
of its own statements, and cuts a message only if the buffer is full.
-/
namespace MmuFirmware

/-- A call of `WriteToUSART`: the bytes of `src` still to be written, and what it returned. -/
structure WriteToUsart where
  usart : Usart
  rest : List UInt8
  result : Option Bool := none

namespace WriteToUsart

open Usart (Statement)

inductive Event where
  /-- The next statement of the main program. -/
  | proceed
  | interrupt
  | shift
  deriving DecidableEq

variable (w : WriteToUsart)

/-- The check for room and the call of `Write` are taken as one statement: an interrupt between
them is one after the call. -/
def proceed : WriteToUsart :=
  match w.result with
  | some _ => w
  | none =>
      if w.usart.next = .idle then
        match w.rest with
        | [] => { w with result := some true }
        | c :: rest =>
            if w.usart.txBuf.full then { w with result := some false }
            else { w with usart := (w.usart.step (.write c)).1, rest := rest }
      else { w with usart := (w.usart.step .proceed).1 }

def perform : Event → WriteToUsart × Unit
  | .proceed => (w.proceed, ())
  | .interrupt => ({ w with usart := (w.usart.step .interrupt).1 }, ())
  | .shift => ({ w with usart := (w.usart.step .shift).1 }, ())

/-- The call of `Write` under way will find room. -/
def HasRoom (next : Statement) (waiting : Nat) : Prop :=
  match next with
  | .testEmpty _ | .testDataRegister _ | .testFull _ | .storeElement _ | .advanceHead _ =>
      waiting < txTemplate.size
  | .testInterrupts _ | .poll _ => False
  | .idle | .writeDataRegister _ | .enableInterrupt => True

/-- The statements that a call of `Write` which finds room has left, at most. -/
def statementsLeft : Statement → Nat
  | .idle => 0
  | .writeDataRegister _ | .enableInterrupt => 1
  | .advanceHead _ => 2
  | .storeElement _ => 3
  | .testFull _ => 4
  | .testDataRegister _ => 5
  | .testEmpty _ => 6
  | .testInterrupts _ | .poll _ => 0

/-- The statements that the whole call has left, at most. -/
def ahead : Nat :=
  match w.result with
  | some _ => 0
  | none => 7 * w.rest.length + statementsLeft w.usart.next + 1

/-- The byte under way will take a place in the buffer, unless it bypasses it. -/
def arriving : Statement → Nat
  | .testEmpty _ | .testDataRegister _ | .testFull _ | .storeElement _ | .advanceHead _ => 1
  | _ => 0

/-- What holds while the call is under way: `before` was written before it. -/
structure Under (src before : List UInt8) (w : WriteToUsart) (elems : List UInt8) : Prop where
  queues : w.usart.txBuf.Queues elems
  room : HasRoom w.usart.next elems.length
  written : w.usart.written ++ w.rest = before ++ src
  cut : w.result = some false → w.rest ≠ []
  whole : w.result = some true → w.rest = []

section Usart

variable {u : Usart} {elems : List UInt8}

/-- The handler takes at most the oldest byte. -/
theorem queues_isrUdre (h : u.txBuf.Queues elems) :
    ∃ elems', u.isrUdre.txBuf.Queues elems' ∧ elems'.length ≤ elems.length ∧
      u.isrUdre.next = u.next ∧ u.isrUdre.written = u.written := by
  refine ⟨elems.tail, ?_, ?_, ?_⟩
  · have hpop := h.pop.2
    rw [Usart.isrUdre, Usart.putDataRegister]
    dsimp only
    split <;> split <;> exact hpop
  · rw [List.length_tail]
    exact Nat.sub_le _ _
  · rw [Usart.isrUdre, Usart.putDataRegister]
    dsimp only
    split <;> split <;> exact ⟨rfl, rfl⟩

theorem queues_putDataRegister (h : u.txBuf.Queues elems) (c : UInt8) :
    (u.putDataRegister c).txBuf.Queues elems ∧ (u.putDataRegister c).written = u.written := by
  rw [Usart.putDataRegister]
  split <;> exact ⟨h, rfl⟩

/-- The buffer is in order, and has room where a byte is about to be stored. -/
structure InOrder (u : Usart) (elems : List UInt8) : Prop where
  queues : u.txBuf.Queues elems
  stores : ∀ c, u.next = .storeElement c ∨ u.next = .advanceHead c →
    elems.length < txTemplate.size

theorem InOrder.writeStatement (h : InOrder u elems) :
    ∃ elems', InOrder u.writeStatement elems' := by
  obtain ⟨hqueues, hstores⟩ := h
  rw [Usart.writeStatement]
  cases hnext : u.next with
  | idle => exact ⟨elems, hqueues, hstores⟩
  | testEmpty c =>
      refine ⟨elems, hqueues, fun c' => ?_⟩
      dsimp only
      split <;> rintro (hstore | hstore) <;> cases hstore
  | testDataRegister c =>
      refine ⟨elems, hqueues, fun c' => ?_⟩
      dsimp only
      split <;> rintro (hstore | hstore) <;> cases hstore
  | writeDataRegister c =>
      refine ⟨elems, (queues_putDataRegister hqueues c).1, ?_⟩
      rintro c' (hstore | hstore) <;> cases hstore
  | testFull c =>
      by_cases hfull : u.txBuf.full = true
      · refine ⟨elems, hqueues, fun c' => ?_⟩
        dsimp only
        rw [if_pos hfull]
        rintro (hstore | hstore) <;> cases hstore
      · exact ⟨elems, hqueues, fun c' _ =>
          hqueues.bounded.lt_of_ne fun heq => hfull (hqueues.full_iff.mpr heq)⟩
  | storeElement c =>
      have hroom := hstores c (.inl hnext)
      exact ⟨elems, hqueues.store hroom c, fun _ _ => hroom⟩
  | advanceHead c =>
      have hroom := hstores c (.inr hnext)
      refine ⟨elems ++ [u.txBuf.slot], hqueues.advance hroom rfl, ?_⟩
      rintro c' (hstore | hstore) <;> cases hstore
  | testInterrupts c =>
      refine ⟨elems, hqueues, fun c' => ?_⟩
      dsimp only
      split <;> rintro (hstore | hstore) <;> cases hstore
  | poll c =>
      obtain ⟨elems', hafter, -, -, -⟩ := queues_isrUdre hqueues
      by_cases hready : u.dataRegisterEmpty = true
      · refine ⟨elems', ?_, by rintro c' (hstore | hstore) <;> cases hstore⟩
        dsimp only
        rw [if_pos hready]
        exact hafter
      · refine ⟨elems, ?_, by rintro c' (hstore | hstore) <;> cases hstore⟩
        dsimp only
        rw [if_neg hready]
        exact hqueues
  | enableInterrupt =>
      exact ⟨elems, hqueues, by rintro c' (hstore | hstore) <;> cases hstore⟩

theorem InOrder.step (h : InOrder u elems) (a : Usart.Action) :
    ∃ elems', InOrder (u.step a).1 elems' := by
  cases a with
  | write c =>
      dsimp only [Usart.step]
      split
      · exact ⟨elems, h.queues, by rintro c' (hstore | hstore) <;> cases hstore⟩
      · exact ⟨elems, h⟩
  | setInterrupts on =>
      dsimp only [Usart.step]
      split
      · exact ⟨elems, h.queues, h.stores⟩
      · exact ⟨elems, h⟩
  | proceed => exact h.writeStatement
  | interrupt =>
      obtain ⟨elems', hafter, hle, hnext, -⟩ := queues_isrUdre h.queues
      dsimp only [Usart.step]
      split
      · refine ⟨elems', hafter, fun c hstore => ?_⟩
        rw [hnext] at hstore
        exact Nat.lt_of_le_of_lt hle (h.stores c hstore)
      · exact ⟨elems, h⟩
  | shift => exact ⟨elems, h.queues, h.stores⟩

theorem inOrder_run (data : Vector UInt8 txTemplate.size) (interrupts : Bool)
    (actions : List Usart.Action) :
    ∃ elems, InOrder (Transducer.run Usart.step (Usart.start data interrupts) actions) elems :=
  Transducer.run_invariant Usart.step (fun u _ => ∃ elems, InOrder u elems) _
    ⟨[], .fresh data, by rintro c (hstore | hstore) <;> cases hstore⟩
    (fun _ _ a ⟨_, h⟩ => h.step a) actions

end Usart

section Call

variable {w : WriteToUsart} {src before elems : List UInt8}

/-- The rest of the message fits into the buffer. -/
structure Fits (w : WriteToUsart) (elems : List UInt8) : Prop where
  going : w.result ≠ some false
  room : elems.length + arriving w.usart.next + w.rest.length ≤ txTemplate.size

/-- A statement of the main program takes the call forward. -/
structure Forward (w w' : WriteToUsart) (src before elems elems' : List UInt8) : Prop where
  under : w'.Under src before elems'
  ahead : w'.ahead ≤ w.ahead - 1
  fits : w.Fits elems → w'.Fits elems'

/-- A statement of the call of `Write` under way. -/
theorem Under.writeStatement (h : w.Under src before elems) (hgoing : w.result = none)
    (hbusy : w.usart.next ≠ .idle) :
    ∃ elems', Forward w { w with usart := w.usart.writeStatement } src before elems elems' := by
  obtain ⟨hqueues, hroom, hwritten, hcut, hwhole⟩ := h
  rw [Usart.writeStatement]
  cases hnext : w.usart.next with
  | idle => exact absurd hnext hbusy
  | testEmpty c =>
      rw [hnext] at hroom
      refine ⟨elems, ⟨hqueues, ?_, hwritten, hcut, hwhole⟩, ?_, fun hfits => ⟨hfits.going, ?_⟩⟩
      · dsimp only
        split <;> exact hroom
      · rw [WriteToUsart.ahead, WriteToUsart.ahead, hgoing, hnext]
        dsimp only
        split <;> simp only [statementsLeft] <;> omega
      · have hle := hfits.room
        rw [hnext] at hle
        dsimp only
        split <;> exact hle
  | testDataRegister c =>
      rw [hnext] at hroom
      refine ⟨elems, ⟨hqueues, ?_, hwritten, hcut, hwhole⟩, ?_, fun hfits => ⟨hfits.going, ?_⟩⟩
      · dsimp only
        split
        · trivial
        · exact hroom
      · rw [WriteToUsart.ahead, WriteToUsart.ahead, hgoing, hnext]
        dsimp only
        split <;> simp only [statementsLeft] <;> omega
      · have hle := hfits.room
        rw [hnext] at hle
        dsimp only
        split
        · simp only [arriving] at hle ⊢
          omega
        · exact hle
  | writeDataRegister c =>
      obtain ⟨hafter, hsame⟩ := queues_putDataRegister hqueues c
      refine ⟨elems, ⟨hafter, trivial, ?_, hcut, hwhole⟩, ?_, fun hfits => ⟨hfits.going, ?_⟩⟩
      · exact (congrArg (· ++ w.rest) hsame).trans hwritten
      · rw [WriteToUsart.ahead, WriteToUsart.ahead, hgoing, hnext]
        simp only [statementsLeft]
        omega
      · have hle := hfits.room
        rw [hnext] at hle
        exact hle
  | testFull c =>
      rw [hnext] at hroom
      have hspace : ¬ w.usart.txBuf.full = true := fun hfull =>
        absurd (hqueues.full_iff.mp hfull) (Nat.ne_of_lt hroom)
      dsimp only
      rw [if_neg hspace]
      refine ⟨elems, ⟨hqueues, hroom, hwritten, hcut, hwhole⟩, ?_, fun hfits => ⟨hfits.going, ?_⟩⟩
      · rw [WriteToUsart.ahead, WriteToUsart.ahead, hgoing, hnext]
        simp only [statementsLeft]
        omega
      · have hle := hfits.room
        rw [hnext] at hle
        exact hle
  | storeElement c =>
      rw [hnext] at hroom
      refine ⟨elems, ⟨hqueues.store hroom c, hroom, hwritten, hcut, hwhole⟩, ?_,
        fun hfits => ⟨hfits.going, ?_⟩⟩
      · rw [WriteToUsart.ahead, WriteToUsart.ahead, hgoing, hnext]
        simp only [statementsLeft]
        omega
      · have hle := hfits.room
        rw [hnext] at hle
        exact hle
  | advanceHead c =>
      rw [hnext] at hroom
      refine ⟨elems ++ [w.usart.txBuf.slot],
        ⟨hqueues.advance hroom rfl, trivial, hwritten, hcut, hwhole⟩, ?_,
        fun hfits => ⟨hfits.going, ?_⟩⟩
      · rw [WriteToUsart.ahead, WriteToUsart.ahead, hgoing, hnext]
        simp only [statementsLeft]
        omega
      · have hle := hfits.room
        rw [hnext] at hle
        rw [List.length_append]
        exact hle
  | testInterrupts c | poll c =>
      rw [hnext] at hroom
      exact absurd hroom id
  | enableInterrupt =>
      refine ⟨elems, ⟨hqueues, trivial, hwritten, hcut, hwhole⟩, ?_, fun hfits => ⟨hfits.going, ?_⟩⟩
      · rw [WriteToUsart.ahead, WriteToUsart.ahead, hgoing, hnext]
        simp only [statementsLeft]
        omega
      · have hle := hfits.room
        rw [hnext] at hle
        exact hle

section NextByte

variable {u : Usart} (hidle : u.next = .idle) {c : UInt8} {rest : List UInt8}
include hidle

theorem proceed_nil : proceed { usart := u, rest := [] } =
    { usart := u, rest := [], result := some true } :=
  if_pos hidle

theorem proceed_full (hfull : u.txBuf.full = true) : proceed { usart := u, rest := c :: rest } =
    { usart := u, rest := c :: rest, result := some false } :=
  (if_pos hidle).trans (if_pos hfull)

theorem proceed_write (hspace : ¬ u.txBuf.full = true) :
    proceed { usart := u, rest := c :: rest } =
      { usart := { u with next := .testEmpty c, written := u.written ++ [c] }, rest } := by
  have hcalled : (u.step (.write c)).1 =
      { u with next := .testEmpty c, written := u.written ++ [c] } := if_pos hidle
  rw [← hcalled]
  exact (if_pos hidle).trans (if_neg hspace)

end NextByte

/-- The next byte is written, if there is one and it finds room. -/
theorem Under.nextByte (h : w.Under src before elems) (hgoing : w.result = none)
    (hidle : w.usart.next = .idle) : Forward w w.proceed src before elems elems := by
  obtain ⟨hqueues, hroom, hwritten, -, -⟩ := h
  obtain ⟨u, rest, result⟩ := w
  cases hgoing
  cases rest with
  | nil =>
      rw [proceed_nil hidle]
      exact ⟨⟨hqueues, hroom, hwritten, nofun, fun _ => rfl⟩, Nat.zero_le _,
        fun hfits => ⟨nofun, hfits.room⟩⟩
  | cons c rest =>
      by_cases hfull : u.txBuf.full = true
      · rw [proceed_full hidle hfull]
        refine ⟨⟨hqueues, hroom, hwritten, fun _ => List.cons_ne_nil c rest, nofun⟩,
          Nat.zero_le _, fun hfits => ?_⟩
        have hle : elems.length + arriving u.next + (c :: rest).length ≤ txTemplate.size :=
          hfits.room
        rw [hidle, hqueues.full_iff.mp hfull, List.length_cons] at hle
        omega
      · have hspace : elems.length < txTemplate.size :=
          hqueues.bounded.lt_of_ne fun heq => hfull (hqueues.full_iff.mpr heq)
        rw [proceed_write hidle hfull]
        refine ⟨⟨hqueues, hspace, ?_, nofun, nofun⟩, ?_, fun hfits => ⟨nofun, ?_⟩⟩
        · rw [← hwritten]
          exact List.append_assoc _ [c] rest
        · simp only [ahead, statementsLeft, List.length_cons]
          omega
        · have hle : elems.length + arriving u.next + (c :: rest).length ≤ txTemplate.size :=
            hfits.room
          rw [hidle, List.length_cons] at hle
          simp only [arriving] at hle ⊢
          omega

theorem Under.proceed (h : w.Under src before elems) :
    ∃ elems', Forward w w.proceed src before elems elems' := by
  cases hresult : w.result with
  | some whole =>
      have hsame : w.proceed = w := by rw [WriteToUsart.proceed, hresult]
      have hnone : w.ahead = 0 := by rw [WriteToUsart.ahead, hresult]
      rw [hsame]
      exact ⟨elems, h, hnone.le.trans (Nat.zero_le _), id⟩
  | none =>
      by_cases hidle : w.usart.next = .idle
      · exact ⟨elems, h.nextByte hresult hidle⟩
      · have hbusy : w.proceed = { w with usart := w.usart.writeStatement } := by
          rw [WriteToUsart.proceed, hresult]
          exact if_neg hidle
        rw [hbusy]
        exact h.writeStatement hresult hidle

/-- What comes between the statements makes room at most. -/
structure Aside (w w' : WriteToUsart) (src before elems elems' : List UInt8) : Prop where
  under : w'.Under src before elems'
  ahead : w'.ahead = w.ahead
  fits : w.Fits elems → w'.Fits elems'

theorem HasRoom.of_le {next : Statement} {waiting waiting' : Nat} (h : HasRoom next waiting)
    (hle : waiting' ≤ waiting) : HasRoom next waiting' := by
  cases next with
  | testEmpty c | testDataRegister c | testFull c | storeElement c | advanceHead c =>
      exact Nat.lt_of_le_of_lt hle h
  | testInterrupts c | poll c => exact h
  | idle | writeDataRegister c | enableInterrupt => trivial

theorem Under.interrupt (h : w.Under src before elems) :
    ∃ elems', Aside w (w.perform .interrupt).1 src before elems elems' := by
  by_cases hpending : w.usart.interruptPending = true
  · obtain ⟨elems', hafter, hle, hnext, hwritten⟩ := queues_isrUdre h.queues
    have hstep : (w.perform .interrupt).1 = { w with usart := w.usart.isrUdre } :=
      congrArg (fun usart => ({ w with usart := usart } : WriteToUsart)) (if_pos hpending)
    rw [hstep]
    refine ⟨elems', ⟨hafter, ?_, ?_, h.cut, h.whole⟩, ?_, fun hfits => ⟨hfits.going, ?_⟩⟩
    · rw [hnext]
      exact h.room.of_le hle
    · rw [hwritten]
      exact h.written
    · rw [ahead, ahead, hnext]
    · have hroom := hfits.room
      rw [hnext]
      dsimp only
      omega
  · have hstep : (w.perform .interrupt).1 = w :=
      congrArg (fun usart => ({ w with usart := usart } : WriteToUsart)) (if_neg hpending)
    rw [hstep]
    exact ⟨elems, h, rfl, id⟩

theorem Under.shift (h : w.Under src before elems) :
    Aside w (w.perform .shift).1 src before elems elems :=
  ⟨⟨h.queues, h.room, h.written, h.cut, h.whole⟩, rfl, fun hfits => ⟨hfits.going, hfits.room⟩⟩

theorem Under.run (h : w.Under src before elems) (events : List Event) :
    ∃ elems',
      (Transducer.run perform w events).Under src before elems' ∧
        (Transducer.run perform w events).ahead ≤ w.ahead - events.count .proceed ∧
        (w.Fits elems → (Transducer.run perform w events).Fits elems') := by
  induction events generalizing w elems with
  | nil => exact ⟨elems, h, Nat.le_refl _, id⟩
  | cons event events ih =>
      rw [Transducer.run_cons]
      cases event with
      | proceed =>
          obtain ⟨elems', hafter, hahead, hfits⟩ := h.proceed
          obtain ⟨elems'', hafter', hahead', hfits'⟩ := ih hafter
          refine ⟨elems'', hafter', ?_, fun hfit => hfits' (hfits hfit)⟩
          rw [List.count_cons_self]
          exact hahead'.trans (by show w.proceed.ahead - _ ≤ _; omega)
      | interrupt =>
          obtain ⟨elems', hafter, hahead, hfits⟩ := h.interrupt
          obtain ⟨elems'', hafter', hahead', hfits'⟩ := ih hafter
          refine ⟨elems'', hafter', ?_, fun hfit => hfits' (hfits hfit)⟩
          rw [List.count_cons_of_ne (by decide), ← hahead]
          exact hahead'
      | shift =>
          obtain ⟨hafter, hahead, hfits⟩ := h.shift
          obtain ⟨elems'', hafter', hahead', hfits'⟩ := ih hafter
          refine ⟨elems'', hafter', ?_, fun hfit => hfits' (hfits hfit)⟩
          rw [List.count_cons_of_ne (by decide), ← hahead]
          exact hahead'

end Call

/-- Between the calls of `Write`, whatever was written and sent before, a message is written without
waiting for the transmitter: `Write` finds room each time, so the call returns after a bounded
number of statements. It writes the whole message if it fits into the buffer, and else may leave
the end of it out. -/
theorem message_written (data : Vector UInt8 txTemplate.size) (interrupts : Bool)
    (pre : List Usart.Action) (src : List UInt8) (events : List Event)
    (hidle : (Transducer.run Usart.step (Usart.start data interrupts) pre).next = .idle) :
    let u := Transducer.run Usart.step (Usart.start data interrupts) pre
    let w := Transducer.run perform { usart := u, rest := src } events
    (∀ c, w.usart.next ≠ .testInterrupts c ∧ w.usart.next ≠ .poll c) ∧
      w.usart.written ++ w.rest = u.written ++ src ∧
      (7 * src.length + 1 ≤ events.count .proceed →
        ∃ whole, w.result = some whole ∧ (whole = true ↔ w.rest = []) ∧
          (u.txBuf.count.toNat + src.length ≤ txTemplate.size → whole = true)) := by
  intro u w
  obtain ⟨elems, hinOrder⟩ := inOrder_run data interrupts pre
  have hunder : Under src u.written { usart := u, rest := src } elems :=
    ⟨hinOrder.queues, hidle ▸ trivial, rfl, nofun, nofun⟩
  obtain ⟨elems', hafter, hahead, hfits⟩ := hunder.run events
  refine ⟨fun c => ⟨fun hnext => ?_, fun hnext => ?_⟩, hafter.written, fun hcount => ?_⟩
  · have hroom := hafter.room
    rw [hnext] at hroom
    exact hroom
  · have hroom := hafter.room
    rw [hnext] at hroom
    exact hroom
  · have hover : w.ahead = 0 := by
      have hstart : ahead { usart := u, rest := src } = 7 * src.length + 0 + 1 := by
        rw [ahead, hidle]
        rfl
      have hle : w.ahead ≤ ahead { usart := u, rest := src } - events.count .proceed := hahead
      omega
    cases hresult : w.result with
    | none =>
        rw [ahead, hresult] at hover
        cases hover
    | some whole =>
        refine ⟨whole, rfl, ?_, fun hfit => ?_⟩
        · cases whole with
          | false => exact ⟨nofun, fun hnone => absurd hnone (hafter.cut hresult)⟩
          | true => exact ⟨fun _ => hafter.whole hresult, fun _ => rfl⟩
        · have hcount' : u.txBuf.count.toNat = elems.length := hinOrder.queues.count
          have hgoing := (hfits ⟨nofun, by
            show elems.length + arriving u.next + src.length ≤ _
            rw [hidle]
            simp only [arriving]
            omega⟩).going
          cases whole with
          | false => exact absurd hresult hgoing
          | true => rfl

theorem message_written_short :
    let u := Transducer.run Usart.step (Usart.start (Vector.replicate 32 0) true)
      (Usart.secondWrite ++ [.proceed])
    let events := List.replicate 8 .proceed ++ [.shift, .interrupt] ++ List.replicate 20 .proceed
    let w := Transducer.run perform { usart := u, rest := [4, 5, 6] } events
    w.result = some true := by
  intro u events w
  obtain ⟨whole, hresult, -, hwhole⟩ :=
    (message_written (Vector.replicate 32 0) true (Usart.secondWrite ++ [.proceed]) [4, 5, 6] events
      (by decide +kernel)).2.2 (by decide)
  rw [hwhole (by decide +kernel)] at hresult
  exact hresult

end WriteToUsart

end MmuFirmware
