import MmuFirmware.Hal.CircularBuffer

/-!
The transmitter of the serial line. The main program calls `Write`, whose statements are taken
one at a time; between any two of them the data-register-empty interrupt may be served, if it
is enabled and the data register is empty, and the hardware may empty the data register. The
transmit-complete flag, which `Write` and the handler only clear, is left out.
-/

namespace MmuFirmware

/-- The index type and the size of `tx_buf`. -/
def txTemplate : IndexTemplate := ⟨8, 32, by decide, by decide⟩

namespace Usart

/-- The statement of `Write` the main program is about to take. -/
inductive Statement where
  | idle
  | testEmpty (c : UInt8)
  | testDataRegister (c : UInt8)
  | writeDataRegister (c : UInt8)
  | testFull (c : UInt8)
  | storeElement (c : UInt8)
  | advanceHead (c : UInt8)
  | testInterrupts (c : UInt8)
  | poll (c : UInt8)
  | enableInterrupt
  deriving DecidableEq

end Usart

open Usart in
structure Usart where
  txBuf : CircularBuffer UInt8 txTemplate
  /-- The data-register-empty flag of `UCSRxA`. -/
  dataRegisterEmpty : Bool := true
  /-- The data-register-empty interrupt enable of `UCSRxB`. -/
  interruptEnabled : Bool := false
  /-- The global interrupt flag of `SREG`. -/
  interrupts : Bool
  next : Statement := .idle
  /-- The bytes put into the data register so far. -/
  sent : List UInt8 := []
  /-- The bytes `Write` was called with so far. -/
  written : List UInt8 := []

namespace Usart

variable (u : Usart)

/-- The transmitter ignores what is written while the data register is not empty. -/
def putDataRegister (c : UInt8) : Usart :=
  if u.dataRegisterEmpty then { u with dataRegisterEmpty := false, sent := u.sent ++ [c] }
  else u

/-- Without a byte to extract the handler sends the zero its variable starts with. -/
def isrUdre : Usart :=
  let popped := u.txBuf.pop
  let u := { u with txBuf := popped.2 }.putDataRegister (popped.1.getD 0)
  if u.txBuf.empty then { u with interruptEnabled := false } else u

/-- The handler can run. -/
def interruptPending : Bool := u.interrupts && u.interruptEnabled && u.dataRegisterEmpty

def writeStatement : Usart :=
  match u.next with
  | .idle => u
  | .testEmpty c =>
      { u with next := if u.txBuf.empty then .testDataRegister c else .testFull c }
  | .testDataRegister c =>
      { u with next := if u.dataRegisterEmpty then .writeDataRegister c else .testFull c }
  | .writeDataRegister c => { u.putDataRegister c with next := .idle }
  | .testFull c =>
      { u with next := if u.txBuf.full then .testInterrupts c else .storeElement c }
  | .storeElement c => { u with txBuf := u.txBuf.store c, next := .advanceHead c }
  | .advanceHead _ => { u with txBuf := u.txBuf.advance, next := .enableInterrupt }
  | .testInterrupts c =>
      { u with next := if u.interrupts then .testFull c else .poll c }
  | .poll c =>
      { (if u.dataRegisterEmpty then u.isrUdre else u) with next := .testFull c }
  | .enableInterrupt => { u with interruptEnabled := true, next := .idle }

inductive Action where
  /-- The main program calls `Write`. -/
  | write (c : UInt8)
  /-- The main program switches interrupts on or off, between two calls. -/
  | setInterrupts (on : Bool)
  /-- The next statement of the call under way. -/
  | proceed
  /-- The interrupt is served. -/
  | interrupt
  /-- The byte in the data register moves on to the line. -/
  | shift
  deriving DecidableEq

/-- What cannot happen in a state leaves it as it is. -/
def step (a : Action) : Usart × Unit :=
  match a with
  | .write c =>
      (if u.next = .idle then { u with next := .testEmpty c, written := u.written ++ [c] }
        else u, ())
  | .setInterrupts on => (if u.next = .idle then { u with interrupts := on } else u, ())
  | .proceed => (u.writeStatement, ())
  | .interrupt => (if u.interruptPending then u.isrUdre else u, ())
  | .shift => ({ u with dataRegisterEmpty := true }, ())

/-- The handler is served with nothing to send. -/
def ServedInVain (u : Usart) (a : Action) : Prop :=
  a = .interrupt ∧ u.interruptPending = true ∧ u.txBuf.empty = true

instance (u : Usart) (a : Action) : Decidable (u.ServedInVain a) :=
  inferInstanceAs (Decidable (_ ∧ _))

/-- What went into the data register is the beginning of what was written, all of it once the
transmitter has nothing left to do. -/
def Faithful : Prop :=
  u.sent <+: u.written ∧
    (u.next = .idle → u.interruptEnabled = false → u.sent = u.written)

/-- The byte of the call under way that is not yet in the buffer or the data register. -/
def Statement.pending : Statement → List UInt8
  | .idle | .enableInterrupt => []
  | .testEmpty c | .testDataRegister c | .writeDataRegister c | .testFull c
  | .storeElement c | .advanceHead c | .testInterrupts c | .poll c => [c]

/-- What the statements taken so far have found out. -/
def Located (elems : List UInt8) : Prop :=
  match u.next with
  | .testDataRegister _ => elems = []
  | .writeDataRegister _ => elems = [] ∧ u.dataRegisterEmpty = true
  | .storeElement _ => elems.length < txTemplate.size
  | .advanceHead c => elems.length < txTemplate.size ∧ u.txBuf.slot = c
  | .testInterrupts _ => u.interrupts = false → elems.length = txTemplate.size
  | .poll _ => u.interrupts = false ∧ elems.length = txTemplate.size
  | .idle | .testEmpty _ | .testFull _ | .enableInterrupt => True

/-- The bytes written are those sent, those in the buffer and the one on its way there, and
the handler is enabled for what is in the buffer unless `Write` is about to enable it. -/
structure Accounts (elems : List UInt8) : Prop where
  queues : u.txBuf.Queues elems
  account : u.written = u.sent ++ elems ++ u.next.pending
  enabled : u.next ≠ .enableInterrupt → elems ≠ [] → u.interruptEnabled = true
  located : u.Located elems

/-- The handler took the oldest byte to the data register. -/
structure Serves (u' : Usart) (c : UInt8) (rest : List UInt8) : Prop where
  queues : u'.txBuf.Queues rest
  slot : u'.txBuf.slot = u.txBuf.slot
  enabled : rest ≠ [] → u'.interruptEnabled = u.interruptEnabled
  sent : u'.sent = u.sent ++ [c]
  written : u'.written = u.written
  next : u'.next = u.next
  interrupts : u'.interrupts = u.interrupts

variable {u} {elems : List UInt8}

theorem isrUdre_serves {c : UInt8} {rest : List UInt8} (h : u.txBuf.Queues (c :: rest))
    (hready : u.dataRegisterEmpty = true) : u.Serves u.isrUdre c rest := by
  obtain ⟨hpopped, hrest⟩ := h.pop
  have hempty : u.txBuf.empty = false := by
    rw [Bool.eq_false_iff, ne_eq, h.empty_iff]
    exact Nat.succ_ne_zero _
  have hslot : u.txBuf.pop.2.slot = u.txBuf.slot := by
    rw [CircularBuffer.pop, if_neg (by simp [hempty])]
    rfl
  have hput : u.isrUdre =
      (let u' : Usart :=
        { u with
          txBuf := u.txBuf.pop.2
          dataRegisterEmpty := false
          sent := u.sent ++ [c] }
       if u'.txBuf.empty then { u' with interruptEnabled := false } else u') := by
    simp only [isrUdre, putDataRegister, hready, hpopped, List.head?_cons, Option.getD_some,
      if_true]
  rw [hput]
  dsimp only
  split
  · next hnone =>
    refine ⟨hrest, hslot, fun hsome => ?_, rfl, rfl, rfl, rfl⟩
    exact absurd (List.eq_nil_of_length_eq_zero (hrest.empty_iff.mp hnone)) hsome
  · exact ⟨hrest, hslot, fun _ => rfl, rfl, rfl, rfl, rfl⟩

theorem Serves.located {u' : Usart} {c : UInt8} {rest : List UInt8} (h : u.Serves u' c rest)
    (hinterrupts : u.interrupts = true) (hlocated : u.Located (c :: rest)) :
    u'.Located rest := by
  unfold Located at hlocated ⊢
  rw [h.next, h.slot, h.interrupts, hinterrupts]
  cases hnext : u.next with
  | testDataRegister _ =>
      rw [hnext] at hlocated
      cases hlocated
  | writeDataRegister _ =>
      rw [hnext] at hlocated
      cases hlocated.1
  | storeElement _ =>
      rw [hnext] at hlocated
      exact (Nat.lt_succ_self rest.length).trans hlocated
  | advanceHead _ =>
      rw [hnext] at hlocated
      exact ⟨(Nat.lt_succ_self rest.length).trans hlocated.1, hlocated.2⟩
  | testInterrupts _ => nofun
  | poll _ =>
      rw [hnext, hinterrupts] at hlocated
      cases hlocated.1
  | idle | testEmpty _ | testFull _ | enableInterrupt => trivial

theorem Accounts.faithful (h : u.Accounts elems) : u.Faithful := by
  refine ⟨?_, fun hidle hdisabled => ?_⟩
  · rw [h.account, List.append_assoc]
    exact List.prefix_append _ _
  · have haccount := h.account
    have hnone : elems = [] := by
      by_contra hsome
      have henabled := h.enabled (by rw [hidle]; nofun) hsome
      rw [hdisabled] at henabled
      cases henabled
    rw [hidle, hnone] at haccount
    simpa [Statement.pending] using haccount.symm

theorem Accounts.interrupt (h : u.Accounts elems) (hpending : u.interruptPending = true)
    (hsome : u.txBuf.empty = false) : ∃ rest, u.isrUdre.Accounts rest := by
  have hready : u.dataRegisterEmpty = true := by
    simp only [interruptPending, Bool.and_eq_true] at hpending
    exact hpending.2
  have hinterrupts : u.interrupts = true := by
    simp only [interruptPending, Bool.and_eq_true] at hpending
    exact hpending.1.1
  cases elems with
  | nil =>
      rw [h.queues.empty_iff.mpr rfl] at hsome
      cases hsome
  | cons c rest =>
      have hserves := isrUdre_serves h.queues hready
      refine ⟨rest, hserves.queues, ?_, ?_, ?_⟩
      · rw [hserves.written, h.account, hserves.sent, hserves.next]
        simp
      · rw [hserves.next]
        intro hnext hrest
        rw [hserves.enabled hrest]
        exact h.enabled hnext (List.cons_ne_nil c rest)
      · exact hserves.located hinterrupts h.located

theorem Accounts.writeStatement (h : u.Accounts elems) :
    ∃ elems', u.writeStatement.Accounts elems' := by
  obtain ⟨hqueues, haccount, henabled, hlocated⟩ := h
  unfold Located at hlocated
  rw [Usart.writeStatement]
  cases hnext : u.next with
  | idle =>
      refine ⟨elems, hqueues, haccount, henabled, ?_⟩
      unfold Located
      rw [hnext]
      trivial
  | testEmpty c =>
      rw [hnext] at haccount
      have hsome := henabled (by rw [hnext]; nofun)
      dsimp only
      split
      · next hempty =>
        refine ⟨elems, hqueues, haccount, fun _ => hsome, ?_⟩
        exact List.eq_nil_of_length_eq_zero (hqueues.empty_iff.mp hempty)
      · exact ⟨elems, hqueues, haccount, fun _ => hsome, trivial⟩
  | testDataRegister c =>
      rw [hnext] at haccount hlocated
      have hsome := henabled (by rw [hnext]; nofun)
      dsimp only
      split
      · next hready => exact ⟨elems, hqueues, haccount, fun _ => hsome, hlocated, hready⟩
      · exact ⟨elems, hqueues, haccount, fun _ => hsome, trivial⟩
  | writeDataRegister c =>
      rw [hnext] at haccount hlocated
      obtain ⟨rfl, hready⟩ := hlocated
      dsimp only
      rw [putDataRegister, if_pos hready]
      refine ⟨[], hqueues, ?_, fun _ hne => absurd rfl hne, trivial⟩
      simpa [Statement.pending] using haccount
  | testFull c =>
      rw [hnext] at haccount
      have hsome := henabled (by rw [hnext]; nofun)
      dsimp only
      split
      · next hfull =>
        exact ⟨elems, hqueues, haccount, fun _ => hsome, fun _ => hqueues.full_iff.mp hfull⟩
      · next hroom =>
        refine ⟨elems, hqueues, haccount, fun _ => hsome, ?_⟩
        exact hqueues.bounded.lt_of_ne fun heq => hroom (hqueues.full_iff.mpr heq)
  | storeElement c =>
      rw [hnext] at haccount hlocated
      have hsome := henabled (by rw [hnext]; nofun)
      exact ⟨elems, hqueues.store hlocated c, haccount, fun _ => hsome, hlocated,
        u.txBuf.slot_store c⟩
  | advanceHead c =>
      rw [hnext] at haccount hlocated
      refine ⟨elems ++ [c], hqueues.advance hlocated.1 hlocated.2, ?_,
        fun hne => absurd rfl hne, trivial⟩
      simpa [Statement.pending] using haccount
  | testInterrupts c =>
      rw [hnext] at haccount hlocated
      have hsome := henabled (by rw [hnext]; nofun)
      dsimp only
      split
      · exact ⟨elems, hqueues, haccount, fun _ => hsome, trivial⟩
      · next hoff =>
        have hoff : u.interrupts = false := Bool.eq_false_iff.mpr hoff
        exact ⟨elems, hqueues, haccount, fun _ => hsome, hoff, hlocated hoff⟩
  | poll c =>
      rw [hnext] at haccount hlocated
      have hsome := henabled (by rw [hnext]; nofun)
      dsimp only
      split
      · next hready =>
        cases elems with
        | nil => cases hlocated.2
        | cons x rest =>
            have hserves := isrUdre_serves hqueues hready
            refine ⟨rest, hserves.queues, ?_, fun _ hrest => ?_, trivial⟩
            · rw [hserves.written, hserves.sent, haccount]
              simp [Statement.pending]
            · rw [hserves.enabled hrest]
              exact hsome (List.cons_ne_nil x rest)
      · exact ⟨elems, hqueues, haccount, fun _ => hsome, trivial⟩
  | enableInterrupt =>
      rw [hnext] at haccount
      exact ⟨elems, hqueues, haccount, fun _ _ => rfl, trivial⟩

theorem Accounts.step (h : u.Accounts elems) {a : Action} (hserved : ¬ u.ServedInVain a) :
    ∃ elems', (u.step a).1.Accounts elems' := by
  cases a with
  | write c =>
      dsimp only [Usart.step]
      split
      · next hnext =>
        have haccount := h.account
        have hsome := h.enabled (by rw [hnext]; nofun)
        rw [hnext] at haccount
        refine ⟨elems, h.queues, ?_, fun _ => hsome, trivial⟩
        simp [haccount, Statement.pending]
      · exact ⟨elems, h⟩
  | setInterrupts on =>
      dsimp only [Usart.step]
      split
      · next hnext =>
        refine ⟨elems, h.queues, h.account, h.enabled, ?_⟩
        unfold Located
        rw [hnext]
        trivial
      · exact ⟨elems, h⟩
  | proceed => exact h.writeStatement
  | interrupt =>
      show ∃ elems', (if u.interruptPending then u.isrUdre else u).Accounts elems'
      split
      · next hpending =>
        refine h.interrupt hpending (Bool.eq_false_iff.mpr fun hempty => ?_)
        exact hserved ⟨rfl, hpending, hempty⟩
      · exact ⟨elems, h⟩
  | shift =>
      refine ⟨elems, h.queues, h.account, h.enabled, ?_⟩
      have hlocated := h.located
      dsimp only [Usart.step]
      unfold Located at hlocated ⊢
      dsimp only
      cases hnext : u.next with
      | writeDataRegister _ =>
          rw [hnext] at hlocated
          exact ⟨hlocated.1, rfl⟩
      | _ =>
          rw [hnext] at hlocated
          exact hlocated

/-- After a reset and the initialisation. -/
def start (data : Vector UInt8 txTemplate.size) (interrupts : Bool) : Usart :=
  { txBuf := { data := data }, interrupts := interrupts }

theorem accounts_start (data : Vector UInt8 txTemplate.size) (interrupts : Bool) :
    (start data interrupts).Accounts [] :=
  ⟨.fresh data, rfl, fun _ h => absurd rfl h, trivial⟩

theorem accounts_run (data : Vector UInt8 txTemplate.size) (interrupts : Bool)
    (actions : List Action)
    (hserved : ∀ p ∈ Transducer.steps step (start data interrupts) actions,
      ¬ p.1.ServedInVain p.2) :
    ∃ elems, (Transducer.run step (start data interrupts) actions).Accounts elems :=
  (Transducer.steps_guarantee step (fun u => ∃ elems, u.Accounts elems)
    (fun u a => ¬ u.ServedInVain a) (fun _ _ => True)
    (fun _ _ ⟨_, h⟩ hserved => ⟨h.step hserved, trivial⟩) _ ⟨[], accounts_start data interrupts⟩
    actions hserved).1

/-- While the handler is only served with a byte to send, every byte written is sent in its
turn. -/
theorem transmits_what_was_written (data : Vector UInt8 txTemplate.size) (interrupts : Bool)
    (actions : List Action)
    (hserved : ∀ p ∈ Transducer.steps step (start data interrupts) actions,
      ¬ p.1.ServedInVain p.2) :
    (Transducer.run step (start data interrupts) actions).Faithful := by
  obtain ⟨elems, h⟩ := accounts_run data interrupts actions hserved
  exact h.faithful

/-- The other way around: the first time the handler is served in vain the zero it sends shows,
unless a call to write a zero has not yet got as far as the buffer. -/
theorem served_in_vain_shows (h : u.Accounts elems) {a : Action} (hvain : u.ServedInVain a)
    (hpending : u.next.pending ≠ [0]) : ¬ (u.step a).1.Faithful := by
  obtain ⟨rfl, hinterrupt, hempty⟩ := hvain
  have hready : u.dataRegisterEmpty = true := by
    simp only [interruptPending, Bool.and_eq_true] at hinterrupt
    exact hinterrupt.2
  have hnone : elems = [] := List.eq_nil_of_length_eq_zero (h.queues.empty_iff.mp hempty)
  have hpop : u.txBuf.pop = (none, u.txBuf) := by rw [CircularBuffer.pop, if_pos hempty]
  have hsent : (u.step .interrupt).1.sent = u.sent ++ [0] := by
    simp [Usart.step, hinterrupt, isrUdre, putDataRegister, hready, hpop, hempty]
  have hwritten : (u.step .interrupt).1.written = u.sent ++ u.next.pending := by
    simp [Usart.step, hinterrupt, isrUdre, putDataRegister, hready, hpop, hempty, h.account,
      hnone]
  intro hfaithful
  have hprefix := hfaithful.1
  rw [hsent, hwritten, List.prefix_append_right_inj] at hprefix
  apply hpending
  cases hnext : u.next <;> rw [hnext] at hprefix <;>
    simp [Statement.pending] at hprefix ⊢ <;> exact hprefix.symm

/-- A byte is on its way through the buffer when another one is written. -/
def secondWrite : List Action :=
  [.write 1, .proceed, .proceed, .proceed,
   .write 2, .proceed, .proceed, .proceed, .proceed, .proceed, .proceed,
   .write 3, .proceed, .proceed, .proceed, .proceed]

theorem transmits_what_was_written_two :
    (Transducer.run step (start (Vector.replicate 32 0) true)
      (secondWrite ++ [.proceed, .shift, .interrupt, .shift, .interrupt])).Faithful :=
  transmits_what_was_written _ _ _ (by decide +kernel)

/-- The handler empties the buffer between the push and the enabling of the interrupt, and is
then served once more: it sends a zero that nobody wrote. -/
theorem not_transmits_what_was_written :
    ¬ ∀ (data : Vector UInt8 txTemplate.size) (interrupts : Bool) (actions : List Action),
      (Transducer.run step (start data interrupts) actions).Faithful := by
  intro h
  have hsent := (h (Vector.replicate 32 0) true (secondWrite ++
    [.shift, .interrupt, .shift, .interrupt, .proceed, .shift, .interrupt])).1
  revert hsent
  decide +kernel

end Usart

end MmuFirmware
