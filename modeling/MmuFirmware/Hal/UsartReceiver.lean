import MmuFirmware.Hal.Usart
import MmuFirmware.Protocol.RoundTrip

/-!
The receiving side of the serial line. The handler of the receive interrupt fills a buffer that
`CheckMsgs` empties into the decoder, one statement at a time; a byte may come in between any two
of them. A byte that finds the buffer full is dropped, and so is one with a frame error.
-/
namespace MmuFirmware
open Transducer

/-- The index type and the size of `rx_buf`, the same as those of `tx_buf`. -/
def rxTemplate : IndexTemplate := txTemplate

namespace UsartReceiver

/-- The statement of `CheckMsgs`, and of the functions it calls, that is taken next. -/
inductive Statement where
  | available
  | testEmpty
  | readElement
  | advanceTail (c : UInt8)
  | decodeRequest (c : UInt8)
  deriving DecidableEq

end UsartReceiver

open UsartReceiver in
structure UsartReceiver where
  rxBuf : CircularBuffer UInt8 rxTemplate
  next : Statement := .available
  protocol : Protocol
  /-- The bytes given to the decoder. -/
  consumed : List UInt8 := []
  /-- The messages `CheckMsgs` returned with. -/
  requests : List (RequestMsgCodes × UInt8 × UInt16) := []

namespace UsartReceiver

variable (u : UsartReceiver)

def isrRx (frameError : Bool) (c : UInt8) : UsartReceiver :=
  if frameError then u else { u with rxBuf := (u.rxBuf.push c).2 }

/-- A call that found nothing, or a message, is followed by the next call. -/
def statement : UsartReceiver :=
  match u.next with
  | .available => { u with next := if u.rxBuf.empty then .available else .testEmpty }
  | .testEmpty => { u with next := if u.rxBuf.empty then .decodeRequest 0 else .readElement }
  | .readElement => { u with next := .advanceTail u.rxBuf.front }
  | .advanceTail c => { u with rxBuf := u.rxBuf.retire, next := .decodeRequest c }
  | .decodeRequest c =>
      let decoded := MmuFirmware.decodeRequest u.protocol c
      { u with
        next := .available
        protocol := decoded.1
        consumed := u.consumed ++ [c]
        requests := u.requests ++
          if decoded.2 = .messageCompleted then [decoded.1.requestMsg.fields] else [] }

inductive Action where
  | statement
  | receive (frameError : Bool) (c : UInt8)
  deriving DecidableEq

def step : Action → UsartReceiver × Unit
  | .statement => (u.statement, ())
  | .receive frameError c => (u.isrRx frameError c, ())

/-- The byte that is kept of what comes in. -/
def kept : Action → List UInt8
  | .receive frameError c => if frameError || u.rxBuf.full then [] else [c]
  | .statement => []

/-- A byte that comes in is not kept. -/
def Loses : Action → Prop
  | .receive frameError _ => frameError = true ∨ u.rxBuf.full = true
  | .statement => False

instance (a : Action) : Decidable (u.Loses a) :=
  match a with
  | .receive _ _ => inferInstanceAs (Decidable (_ ∨ _))
  | .statement => inferInstanceAs (Decidable False)

def received : Action → List UInt8
  | .receive _ c => [c]
  | .statement => []

/-- The byte on its way from the buffer to the decoder. -/
def Statement.inHand : Statement → List UInt8
  | .decodeRequest c => [c]
  | _ => []

/-- The messages that a decoder completes along some bytes. -/
def completed (p : Protocol) (bytes : List UInt8) : List (RequestMsgCodes × UInt8 × UInt16) :=
  (trace MmuFirmware.decodeRequest p bytes).filterMap fun o => (requestView o).2

theorem completed_append (p : Protocol) (bytes bytes' : List UInt8) :
    completed p (bytes ++ bytes') =
      completed p bytes ++ completed (run MmuFirmware.decodeRequest p bytes) bytes' := by
  rw [completed, trace_append, List.filterMap_append]
  rfl

theorem completed_singleton (p : Protocol) (c : UInt8) :
    completed p [c] =
      if (MmuFirmware.decodeRequest p c).2 = .messageCompleted then
        [(MmuFirmware.decodeRequest p c).1.requestMsg.fields]
      else [] := by
  rw [completed, trace_cons, trace_nil, List.filterMap_cons, List.filterMap_nil, requestView]
  split <;> simp_all

/-- What the statements so far have found out. -/
def Located (waiting : List UInt8) : Prop :=
  match u.next with
  | .testEmpty | .readElement => waiting ≠ []
  | .advanceTail c => waiting.head? = some c
  | .available | .decodeRequest _ => True

/-- Of the bytes that were kept some went to the decoder, one may be on its way and the others
wait. -/
structure Accounts (p : Protocol) (u : UsartReceiver) (kept waiting : List UInt8) : Prop where
  queues : u.rxBuf.Queues waiting
  located : u.Located waiting
  account : kept = u.consumed ++ u.next.inHand ++ waiting
  protocol : u.protocol = run MmuFirmware.decodeRequest p u.consumed
  requests : u.requests = completed p u.consumed

namespace Accounts

variable {u} {p : Protocol} {kept waiting : List UInt8}

theorem isrRx (h : Accounts p u kept waiting) (frameError : Bool) (c : UInt8) :
    ∃ waiting',
      Accounts p (u.isrRx frameError c) (kept ++ u.kept (.receive frameError c)) waiting' := by
  obtain ⟨hqueues, hlocated, haccount, hprotocol, hrequests⟩ := h
  rw [UsartReceiver.isrRx, UsartReceiver.kept]
  cases frameError with
  | true => exact ⟨waiting, hqueues, hlocated, by simpa using haccount, hprotocol, hrequests⟩
  | false =>
      by_cases hlt : waiting.length < rxTemplate.size
      · have hroom : u.rxBuf.full = false := by
          rw [Bool.eq_false_iff, ne_eq, hqueues.full_iff]
          exact hlt.ne
        refine ⟨waiting ++ [c], (hqueues.push hlt c).2, ?_, ?_, hprotocol, hrequests⟩
        · unfold Located at hlocated ⊢
          cases hnext : u.next with
          | available | decodeRequest _ => trivial
          | testEmpty | readElement => exact List.append_ne_nil_of_right_ne_nil _ (by simp)
          | advanceTail c' =>
              rw [hnext] at hlocated
              obtain ⟨rest, rfl⟩ := List.head?_eq_some_iff.mp hlocated
              rfl
        · rw [haccount, hroom]
          simp
      · have hfull : waiting.length = rxTemplate.size :=
          Nat.le_antisymm hqueues.bounded (Nat.not_lt.mp hlt)
        have hkeeps : (u.rxBuf.push c).2 = u.rxBuf := by rw [hqueues.push_full hfull]
        refine ⟨waiting, ?_, hlocated, ?_, hprotocol, hrequests⟩
        · exact hkeeps.symm ▸ hqueues
        · rw [hqueues.full_iff.mpr hfull]
          simpa using haccount

theorem statement (h : Accounts p u kept waiting) :
    ∃ waiting', Accounts p u.statement kept waiting' := by
  obtain ⟨hqueues, hlocated, haccount, hprotocol, hrequests⟩ := h
  rw [UsartReceiver.statement]
  unfold Located at hlocated
  cases hnext : u.next with
  | available =>
      rw [hnext] at haccount
      dsimp only
      split
      · exact ⟨waiting, hqueues, trivial, haccount, hprotocol, hrequests⟩
      · next hsome =>
          refine ⟨waiting, hqueues, fun hnone => hsome ?_, haccount, hprotocol, hrequests⟩
          rw [hqueues.empty_iff, hnone]
          rfl
  | testEmpty =>
      rw [hnext] at haccount hlocated
      have hsome : ¬ u.rxBuf.empty = true := fun hempty =>
        hlocated (List.eq_nil_of_length_eq_zero (hqueues.empty_iff.mp hempty))
      dsimp only
      rw [if_neg hsome]
      exact ⟨waiting, hqueues, hlocated, haccount, hprotocol, hrequests⟩
  | readElement =>
      rw [hnext] at haccount hlocated
      obtain ⟨c, rest, rfl⟩ := List.exists_cons_of_ne_nil hlocated
      refine ⟨c :: rest, hqueues, ?_, haccount, hprotocol, hrequests⟩
      exact congrArg some (hqueues.front rfl).symm
  | advanceTail c =>
      rw [hnext] at haccount hlocated
      obtain ⟨rest, rfl⟩ := List.head?_eq_some_iff.mp hlocated
      refine ⟨rest, hqueues.retire, trivial, ?_, hprotocol, hrequests⟩
      rw [haccount]
      simp [Statement.inHand]
  | decodeRequest c =>
      rw [hnext] at haccount
      refine ⟨waiting, hqueues, trivial, ?_, ?_, ?_⟩
      · rw [haccount]
        simp [Statement.inHand]
      · rw [hprotocol, run_append]
        rfl
      · rw [hrequests, hprotocol, completed_append, completed_singleton]

theorem step (h : Accounts p u kept waiting) (a : Action) :
    ∃ waiting', Accounts p (u.step a).1 (kept ++ u.kept a) waiting' := by
  cases a with
  | statement =>
      rw [UsartReceiver.kept, List.append_nil]
      exact h.statement
  | receive frameError c => exact h.isrRx frameError c

theorem run (h : Accounts p u kept waiting) (actions : List Action) :
    ∃ waiting', Accounts p (Transducer.run UsartReceiver.step u actions)
      (kept ++ (steps UsartReceiver.step u actions).flatMap fun q => q.1.kept q.2) waiting' := by
  induction actions generalizing u kept waiting with
  | nil =>
      rw [steps_nil, List.flatMap_nil, List.append_nil]
      exact ⟨waiting, h⟩
  | cons a actions ih =>
      obtain ⟨waiting', hafter⟩ := h.step a
      rw [steps_cons, List.flatMap_cons, ← List.append_assoc]
      exact ih hafter

end Accounts

/-- The receiver as it is constructed. -/
def start (data : Vector UInt8 rxTemplate.size) (p : Protocol) : UsartReceiver :=
  { rxBuf := { data := data }, protocol := p }

theorem accounts_start (data : Vector UInt8 rxTemplate.size) (p : Protocol) :
    Accounts p (start data p) [] [] :=
  ⟨.fresh data, trivial, rfl, rfl, rfl⟩

/-- Wherever bytes come in, the decoder gets those that came in intact and found room, in order and
each of them once, and returns the messages they make. -/
theorem kept_decoded (data : Vector UInt8 rxTemplate.size) (p : Protocol)
    (actions : List Action) :
    let u := run step (start data p) actions
    let kept := (steps step (start data p) actions).flatMap fun q => q.1.kept q.2
    u.requests = completed p u.consumed ∧ u.consumed <+: kept ∧
      (u.next = .available → kept.length = u.consumed.length + u.rxBuf.count.toNat) := by
  intro u kept
  obtain ⟨waiting, haccounts⟩ := (accounts_start data p).run actions
  have haccount : kept = u.consumed ++ u.next.inHand ++ waiting := haccounts.account
  refine ⟨haccounts.requests, ?_, fun hnext => ?_⟩
  · rw [haccount, List.append_assoc]
    exact List.prefix_append _ _
  · have hcount : u.rxBuf.count.toNat = waiting.length := haccounts.queues.count
    rw [haccount, hnext, hcount]
    simp [Statement.inHand]

theorem completed_requests {p : Protocol} (hs : p.rqState = .code) (rs : List OutgoingRequest) :
    completed p (rs.flatMap OutgoingRequest.encode) = rs.map fun r => r.message.fields := by
  have htrace := trace_flatMap MmuFirmware.decodeRequest (·.rqState = .code)
    OutgoingRequest.encode requestView
    (fun r => completesAt r.encode.length r.message.fields) rs
    (fun r _ q hq => (requestLine_trace hq r.encode_valid).1)
    (fun r _ q hq => (requestLine_trace hq r.encode_valid).2) p hs
  have hviews : completed p (rs.flatMap OutgoingRequest.encode) =
      ((trace MmuFirmware.decodeRequest p (rs.flatMap OutgoingRequest.encode)).map
        requestView).filterMap Prod.snd := by
    rw [List.filterMap_map]
    rfl
  have hmessage : ∀ r : OutgoingRequest,
      (completesAt r.encode.length r.message.fields).filterMap Prod.snd = [r.message.fields] := by
    intro r
    simp [completesAt, List.filterMap_append, List.filterMap_replicate_of_none]
  rw [hviews, htrace, List.filterMap_flatMap, List.map_eq_flatMap]
  exact congrArg (List.flatMap · rs) (funext hmessage)

theorem kept_eq_received {s : UsartReceiver} (actions : List Action)
    (h : ∀ q ∈ steps step s actions, ¬ q.1.Loses q.2) :
    ((steps step s actions).flatMap fun q => q.1.kept q.2) = actions.flatMap received := by
  induction actions generalizing s with
  | nil => rfl
  | cons a actions ih =>
      rw [steps_cons, List.forall_mem_cons] at h
      rw [steps_cons, List.flatMap_cons, List.flatMap_cons, ih h.2]
      congr 1
      cases a with
      | statement => rfl
      | receive frameError c => exact if_neg (by simpa [Loses] using h.1)

/-- Requests of the printer that come in one after another are returned in order and each of them
once, the last one when nothing waits any more. -/
theorem requests_returned (data : Vector UInt8 rxTemplate.size) (p : Protocol)
    (hs : p.rqState = .code) (rs : List OutgoingRequest) (actions : List Action)
    (hline : actions.flatMap received <+: rs.flatMap OutgoingRequest.encode)
    (hkept : ∀ q ∈ steps step (start data p) actions, ¬ q.1.Loses q.2) :
    let u := run step (start data p) actions
    u.requests <+: rs.map (fun r => r.message.fields) ∧
      (actions.flatMap received = rs.flatMap OutgoingRequest.encode → u.next = .available →
        u.rxBuf.empty = true → u.requests = rs.map fun r => r.message.fields) := by
  intro u
  obtain ⟨waiting, haccounts⟩ := (accounts_start data p).run actions
  have haccount : actions.flatMap received = u.consumed ++ u.next.inHand ++ waiting := by
    rw [← kept_eq_received actions hkept]
    exact haccounts.account
  have hrequests : u.requests = completed p u.consumed := haccounts.requests
  refine ⟨?_, fun hall hnext hempty => ?_⟩
  · obtain ⟨rest, hrest⟩ := hline
    rw [hrequests, ← completed_requests hs, ← hrest, haccount, List.append_assoc, List.append_assoc,
      completed_append]
    exact List.prefix_append _ _
  · have hnone : waiting = [] :=
      List.eq_nil_of_length_eq_zero (haccounts.queues.empty_iff.mp hempty)
    rw [hnext, hnone] at haccount
    rw [hrequests, ← completed_requests hs, ← hall, haccount]
    simp [Statement.inHand]

theorem requests_returned_write :
    let r := OutgoingRequest.write 0x1b 0x0300
    let bytes := r.encode
    let actions := (bytes.take 4).map (.receive false) ++ List.replicate 7 .statement ++
      (bytes.drop 4).map (.receive false) ++ List.replicate 60 .statement
    (run step (start (Vector.replicate _ 0) .fresh) actions).requests = [r.message.fields] := by
  intro r bytes actions
  exact (requests_returned (Vector.replicate _ 0) .fresh rfl [r] actions (by decide +kernel)
    (by decide +kernel)).2 (by decide +kernel) (by decide +kernel) (by decide +kernel)

end UsartReceiver

end MmuFirmware
