import MmuFirmware.Lib.Ledger
import MmuFirmware.Lib.Transducer
import MmuFirmware.Modules.UserInput

/-!
Where the events of the buttons go. The calls of `UserInput` in any order are followed by a
ledger of the events that came in and of what became of each: which consumer it was given to,
or what it was lost by.
-/
namespace MmuFirmware

/-- Where an event comes from. -/
inductive Source where
  | button (index : UInt8)
  | printer (ev : UInt8)
  deriving DecidableEq, Repr

namespace Source

/-- The event a consumer is told. -/
def event : Source → Event
  | button index => index
  | printer ev => ev

/-- The event as it is queued. -/
def queued : Source → Event
  | button index => index
  | printer ev => ev ||| Event.fromPrinter

/-- A button of the unit, or an event the printer may send. -/
def Proper : Source → Prop
  | button index => index < 3
  | printer ev => ev ≤ 126

/-- What is queued keeps the event and its origin apart. -/
theorem queued_spec {s : Source} (h : s.Proper) :
    s.queued.stripFromPrinterBit = s.event ∧ s.event ≠ .noEvent ∧
      (s.queued.isFromPrinter = true ↔ ∃ ev, s = .printer ev) := by
  cases s with
  | button index =>
      have hbytes : ∀ n : Fin 3, (UInt8.ofNat n &&& ~~~Event.fromPrinter) = UInt8.ofNat n ∧
          UInt8.ofNat n ≠ Event.noEvent ∧ Event.isFromPrinter (UInt8.ofNat n) = false := by
        decide
      have hbyte := hbytes ⟨index.toNat, UInt8.lt_iff_toNat_lt.mp h⟩
      simp only [UInt8.ofNat_toNat] at hbyte
      exact ⟨hbyte.1, hbyte.2.1, by simp [queued, hbyte.2.2]⟩
  | printer ev =>
      have hbytes : ∀ n : Fin 127,
          ((UInt8.ofNat n ||| Event.fromPrinter) &&& ~~~Event.fromPrinter) = UInt8.ofNat n ∧
          UInt8.ofNat n ≠ Event.noEvent ∧
          Event.isFromPrinter (UInt8.ofNat n ||| Event.fromPrinter) = true := by
        decide +kernel
      have hbyte := hbytes ⟨ev.toNat, Nat.lt_succ_of_le (UInt8.le_iff_toNat_le.mp h)⟩
      simp only [UInt8.ofNat_toNat] at hbyte
      exact ⟨hbyte.1, hbyte.2.1, by simp [queued, hbyte.2.2]⟩

end Source

namespace UserInput

/-! One step of the unit, button by button. -/

/-- A full queue takes no more events. -/
def pushAll (queue es : List Event) : List Event := queue ++ es.take (4 - queue.length)

theorem pushAll_append (queue es es' : List Event) :
    pushAll (pushAll queue es) es' = pushAll queue (es ++ es') := by
  have hroom : 4 - (pushAll queue es).length = 4 - queue.length - es.length := by
    rw [pushAll, List.length_append, List.length_take]
    omega
  rw [pushAll, hroom, pushAll, pushAll, List.take_append, List.append_assoc]

theorem eventQueue_push (u : UserInput) (e : Event) :
    (u.push e).eventQueue = pushAll u.eventQueue [e] := by
  rw [push, pushAll]
  split
  · next hroom =>
      rw [List.take_of_length_le]
      rw [List.length_singleton]
      omega
  · next hfull =>
      rw [Nat.sub_eq_zero_of_le (Nat.le_of_not_lt hfull), List.take_zero, List.append_nil]

theorem lastButtonState_flip {i j : UInt8} (hi : i ∈ [2, 1, 0]) (hj : j ∈ [2, 1, 0])
    (u : UserInput) :
    (u.flipLastButtonState i).lastButtonState j =
      if i = j then !u.lastButtonState j else u.lastButtonState j := by
  have hbits : ∀ (n : Fin 256) (i j : Fin 3),
      (((UInt8.ofNat n ^^^ (1 <<< UInt8.ofNat i)) &&& (1 <<< UInt8.ofNat j)) != 0) =
        if i = j then !((UInt8.ofNat n &&& (1 <<< UInt8.ofNat j)) != 0)
        else (UInt8.ofNat n &&& (1 <<< UInt8.ofNat j)) != 0 := by
    decide +kernel
  have hbits := hbits ⟨u.lastButtonStates.toNat, u.lastButtonStates.toNat_lt⟩
  simp only [UInt8.ofNat_toNat] at hbits
  simp only [List.mem_cons, List.not_mem_nil, or_false] at hi hj
  rcases hi with rfl | rfl | rfl <;> rcases hj with rfl | rfl | rfl
  · exact hbits 2 2
  · exact hbits 2 1
  · exact hbits 2 0
  · exact hbits 1 2
  · exact hbits 1 1
  · exact hbits 1 0
  · exact hbits 0 2
  · exact hbits 0 1
  · exact hbits 0 0

/-- A button that was released and is pressed now. -/
def newlyPressed (u : UserInput) (buttons : Buttons) (button : UInt8) : Bool :=
  buttons.buttonPressed button.toNat && !u.lastButtonState button

theorem eventQueue_stepOneButton (u : UserInput) (buttons : Buttons) (button : UInt8) :
    (u.stepOneButton buttons button).eventQueue =
      pushAll u.eventQueue ([button].filter (u.newlyPressed buttons)) := by
  rw [stepOneButton, List.filter_singleton, newlyPressed]
  cases buttons.buttonPressed button.toNat <;> cases u.lastButtonState button
  · simp [pushAll]
  · simp [pushAll, flipLastButtonState]
  · simp [flipLastButtonState, eventQueue_push]
  · simp [pushAll]

theorem lastButtonState_stepOneButton {i j : UInt8} (hi : i ∈ [2, 1, 0]) (hj : j ∈ [2, 1, 0])
    (u : UserInput) (buttons : Buttons) :
    (u.stepOneButton buttons i).lastButtonState j =
      if i = j then buttons.buttonPressed i.toNat else u.lastButtonState j := by
  have hpush : ∀ u' : UserInput, (u'.push i).lastButtonState = u'.lastButtonState := fun u' => by
    rw [push]
    split <;> rfl
  rw [stepOneButton]
  by_cases hij : i = j
  · subst hij
    cases hpress : buttons.buttonPressed i.toNat <;> cases hlast : u.lastButtonState i
    · simp [hlast]
    · simp [hlast, lastButtonState_flip hi hi]
    · simp [hlast, hpush, lastButtonState_flip hi hi]
    · simp [hlast]
  · cases hpress : buttons.buttonPressed i.toNat <;> cases hlast : u.lastButtonState i
    · simp [hij]
    · simp [hij, lastButtonState_flip hi hj]
    · simp [hij, hpush, lastButtonState_flip hi hj]
    · simp [hij]

/-- The buttons of a list, stepped one after another. -/
theorem foldl_stepOneButton (buttons : Buttons) (visited : List UInt8) (hnodup : visited.Nodup)
    (hsubset : ∀ button ∈ visited, button ∈ [(2 : UInt8), 1, 0]) (u : UserInput) :
    (visited.foldl (fun u button => u.stepOneButton buttons button) u).eventQueue =
        pushAll u.eventQueue (visited.filter (u.newlyPressed buttons)) ∧
      ∀ j ∈ [(2 : UInt8), 1, 0],
        (visited.foldl (fun u button => u.stepOneButton buttons button) u).lastButtonState j =
          if j ∈ visited then buttons.buttonPressed j.toNat else u.lastButtonState j := by
  induction visited generalizing u with
  | nil => simp [pushAll]
  | cons i visited ih =>
      rw [List.nodup_cons] at hnodup
      have hi := hsubset i List.mem_cons_self
      have hlast := fun j hj => @lastButtonState_stepOneButton i j hi hj u buttons
      obtain ⟨hqueue, hlevels⟩ := ih hnodup.2
        (fun j hj => hsubset j (List.mem_cons_of_mem i hj)) (u.stepOneButton buttons i)
      have hfilter : visited.filter ((u.stepOneButton buttons i).newlyPressed buttons) =
          visited.filter (u.newlyPressed buttons) := List.filter_congr fun j hj => by
        have hij : i ≠ j := fun heq => hnodup.1 (heq ▸ hj)
        rw [newlyPressed, hlast j (hsubset j (List.mem_cons_of_mem i hj)), if_neg hij, newlyPressed]
      refine ⟨?_, fun j hj => ?_⟩
      · rw [List.foldl_cons, hqueue, hfilter, eventQueue_stepOneButton, pushAll_append,
          ← List.filter_append, List.singleton_append]
      · rw [List.foldl_cons, hlevels j hj, hlast j hj]
        by_cases hij : i = j
        · subst hij
          rw [if_neg hnodup.1, if_pos rfl, if_pos List.mem_cons_self]
        · have hmem : j ∈ i :: visited ↔ j ∈ visited := by simp [Ne.symm hij]
          simp only [hij, if_false, hmem]

/-- A step queues the buttons that are newly pressed and takes over all levels. -/
theorem step_spec (u : UserInput) (buttons : Buttons) :
    (u.step buttons).eventQueue =
        pushAll u.eventQueue ([2, 1, 0].filter (u.newlyPressed buttons)) ∧
      ∀ j ∈ [(2 : UInt8), 1, 0],
        (u.step buttons).lastButtonState j = buttons.buttonPressed j.toNat := by
  obtain ⟨hqueue, hlevels⟩ := foldl_stepOneButton buttons [2, 1, 0] (by decide) (fun _ h => h) u
  refine ⟨hqueue, fun j hj => ?_⟩
  rw [step, hlevels j hj, if_pos hj]

inductive Call where
  | step (buttons : Buttons)
  | processMessage (ev : UInt8)
  | consumeEvent
  | consumeEventForPrinter
  | clear
  | setPrinterInCharge (pc : Bool)
  deriving DecidableEq, Repr

/-- A call and the event it returns; the calls that return none are given `noEvent`. -/
def call (u : UserInput) : Call → UserInput × Event
  | .step buttons => (u.step buttons, .noEvent)
  | .processMessage ev => (u.processMessage ev, .noEvent)
  | .consumeEvent => (u.consumeEvent.2, u.consumeEvent.1)
  | .consumeEventForPrinter => (u.consumeEventForPrinter.2, u.consumeEventForPrinter.1)
  | .clear => (u.clear, .noEvent)
  | .setPrinterInCharge pc => (u.setPrinterInCharge pc, .noEvent)

/-- The unit together with the levels its buttons had in the last step. -/
structure Observed where
  input : UserInput := {}
  levels : UInt8 → Bool := fun _ => false

namespace Observed

def call (o : Observed) (c : Call) : Observed × Event :=
  ({ input := (o.input.call c).1
     levels :=
      match c with
      | .step buttons => fun button => buttons.buttonPressed button.toNat
      | _ => o.levels },
    (o.input.call c).2)

/-- The events that come in by a call: a button that has been pressed since the last step, the
message of the printer. -/
def arrivals (o : Observed) : Call → List Source
  | .step buttons =>
      ([2, 1, 0].filter fun button =>
        buttons.buttonPressed button.toNat && !o.levels button).map .button
  | .processMessage ev => [.printer ev]
  | _ => []

/-- The places left in the queue. -/
def room (o : Observed) : Nat := 4 - o.input.eventQueue.length

/-- The event a consumer returns. -/
def consumed (o : Observed) (c : Call) : Option (Event × Observed × Call) :=
  if (o.call c).2 = .noEvent then none else some ((o.call c).2, o, c)

end Observed

/-- What a sequence of calls leads to. -/
def observed (calls : List Call) : Observed := Transducer.run Observed.call {} calls

/-- The calls, each with the state it is made in. -/
def history (calls : List Call) : List (Observed × Call) :=
  Transducer.steps Observed.call {} calls

/-- The ledger of a history: who was given what, what is lost, and what is in the queue. -/
structure Routed (calls : List Call) (entries : List (Source × Fate (Observed × Call)))
    (discards queue : List Source) (takings : List (Source × Observed × Call)) : Prop where
  accounts : Ledger.Accounts entries
    ((history calls).flatMap fun p => p.1.arrivals p.2)
    ((history calls).flatMap fun p => (p.1.arrivals p.2).drop p.1.room) discards takings queue
  cleared : discards.map Source.queued =
    (history calls).flatMap fun p => if p.2 = .clear then p.1.input.eventQueue else []
  returned : (takings.map fun t => (t.1.event, t.2)) =
    (history calls).filterMap fun p => p.1.consumed p.2
  waiting : queue.map Source.queued = (observed calls).input.eventQueue
  /-- The printer is not sent its own events. -/
  toPrinter : ∀ t ∈ takings, t.2.2 = .consumeEventForPrinter → ∃ index, t.1 = .button index
  /-- The unit's own buttons are not acted upon while the printer is in charge. -/
  toUnit : ∀ t ∈ takings, t.2.2 = .consumeEvent → t.2.1.input.printerInCharge = true →
    ∃ ev, t.1 = .printer ev

section Routing

variable {calls : List Call} {entries : List (Source × Fate (Observed × Call))}
  {discards queue : List Source} {takings : List (Source × Observed × Call)}

theorem history_concat (calls : List Call) (c : Call) :
    history (calls ++ [c]) = history calls ++ [(observed calls, c)] := by
  rw [history, Transducer.steps_append, history, Transducer.steps_cons, Transducer.steps_nil,
    observed]

theorem observed_concat (calls : List Call) (c : Call) :
    observed (calls ++ [c]) = ((observed calls).call c).1 := by
  rw [observed, Transducer.run_append, Transducer.run_cons, Transducer.run_nil, observed]

/-- A call that returns no event and queues what comes in by it. -/
theorem Routed.arrive (h : Routed calls entries discards queue takings) {c : Call}
    (hc : c ≠ .clear) (hreturns : ((observed calls).call c).2 = .noEvent)
    (hqueue : ((observed calls).call c).1.input.eventQueue =
      pushAll (observed calls).input.eventQueue
        (((observed calls).arrivals c).map Source.queued)) :
    ∃ entries', Routed (calls ++ [c]) entries' discards
      (queue ++ ((observed calls).arrivals c).take (observed calls).room) takings := by
  obtain ⟨haccounts, hcleared, hreturned, hwaiting, hprinter, hunit⟩ := h
  obtain ⟨entries', hoffered⟩ :=
    haccounts.offer (((observed calls).arrivals c).take (observed calls).room)
      (((observed calls).arrivals c).drop (observed calls).room)
  rw [List.take_append_drop] at hoffered
  refine ⟨entries', ?_, ?_, ?_, ?_, hprinter, hunit⟩
  · simpa only [history_concat, List.flatMap_append, List.flatMap_cons, List.flatMap_nil,
      List.append_nil] using hoffered
  · rw [hcleared, history_concat, List.flatMap_append, List.flatMap_singleton, if_neg hc,
      List.append_nil]
  · have hnone : (observed calls).consumed c = none := by rw [Observed.consumed, if_pos hreturns]
    rw [hreturned, history_concat, List.filterMap_append, List.filterMap_cons, hnone,
      List.filterMap_nil, List.append_nil]
  · rw [List.map_append, List.map_take, hwaiting, observed_concat, hqueue, pushAll, Observed.room]

/-- The first event in the queue is returned to a consumer that may have it. -/
theorem Routed.take {s : Source} (h : Routed calls entries discards (s :: queue) takings)
    {c : Call} (hc : c ≠ .clear) (harrivals : (observed calls).arrivals c = [])
    (hevent : s.event ≠ .noEvent) (hreturns : ((observed calls).call c).2 = s.event)
    (hqueue : ((observed calls).call c).1.input.eventQueue = queue.map Source.queued)
    (hprinter : c = .consumeEventForPrinter → ∃ index, s = .button index)
    (hunit : c = .consumeEvent → (observed calls).input.printerInCharge = true →
      ∃ ev, s = .printer ev) :
    ∃ entries', Routed (calls ++ [c]) entries' discards queue
      (takings ++ [(s, observed calls, c)]) := by
  obtain ⟨entries', htaken⟩ := h.accounts.take (observed calls, c)
  refine ⟨entries', ?_, ?_, ?_, ?_, fun t ht => ?_, fun t ht => ?_⟩
  · simpa only [history_concat, List.flatMap_append, List.flatMap_cons, List.flatMap_nil,
      List.append_nil, harrivals, List.drop_nil] using htaken
  · rw [h.cleared, history_concat, List.flatMap_append, List.flatMap_singleton, if_neg hc,
      List.append_nil]
  · have hsome : (observed calls).consumed c = some (s.event, observed calls, c) := by
      rw [Observed.consumed, hreturns, if_neg hevent]
    rw [List.map_append, h.returned, history_concat, List.filterMap_append, List.filterMap_cons,
      hsome, List.filterMap_nil, List.map_singleton]
  · rw [observed_concat, hqueue]
  · rcases List.mem_append.mp ht with hold | hnew
    · exact h.toPrinter t hold
    · rw [List.mem_singleton.mp hnew]
      exact hprinter
  · rcases List.mem_append.mp ht with hold | hnew
    · exact h.toUnit t hold
    · rw [List.mem_singleton.mp hnew]
      exact hunit

theorem Routed.clear (h : Routed calls entries discards queue takings) :
    ∃ entries', Routed (calls ++ [.clear]) entries' (discards ++ queue) [] takings := by
  obtain ⟨entries', hdiscarded⟩ := h.accounts.discard
  refine ⟨entries', ?_, ?_, ?_, ?_, h.toPrinter, h.toUnit⟩
  · simpa only [history_concat, List.flatMap_append, List.flatMap_cons, List.flatMap_nil,
      List.append_nil, Observed.arrivals, List.drop_nil] using hdiscarded
  · rw [List.map_append, h.cleared, h.waiting, history_concat, List.flatMap_append,
      List.flatMap_singleton, if_pos rfl]
  · have hnone : (observed calls).consumed .clear = none := rfl
    rw [h.returned, history_concat, List.filterMap_append, List.filterMap_cons, hnone,
      List.filterMap_nil, List.append_nil]
  · rw [observed_concat]
    rfl

/-- What is in the queue is proper, and the unit remembers the levels of the last step. -/
structure Sound (calls : List Call) (queue : List Source) : Prop where
  proper : ∀ s ∈ queue, s.Proper
  levels : ∀ j ∈ [(2 : UInt8), 1, 0],
    (observed calls).input.lastButtonState j = (observed calls).levels j

theorem Observed.proper_arrivals (o : Observed) {c : Call}
    (hc : ∀ ev, c = .processMessage ev → ev ≤ 126) : ∀ s ∈ o.arrivals c, s.Proper := by
  intro s hs
  cases c with
  | step buttons =>
      obtain ⟨j, hj, rfl⟩ := List.mem_map.mp hs
      have hj := (List.mem_filter.mp hj).1
      simp only [List.mem_cons, List.not_mem_nil, or_false] at hj
      rcases hj with rfl | rfl | rfl
      · exact (by decide : (2 : UInt8) < 3)
      · exact (by decide : (1 : UInt8) < 3)
      · exact (by decide : (0 : UInt8) < 3)
  | processMessage ev =>
      rw [List.mem_singleton.mp hs]
      exact hc ev rfl
  | consumeEvent | consumeEventForPrinter | clear | setPrinterInCharge => simp [arrivals] at hs

theorem Sound.arrive (h : Sound calls queue) {c : Call}
    (hc : ∀ ev, c = .processMessage ev → ev ≤ 126)
    (hlevels : ∀ j ∈ [(2 : UInt8), 1, 0],
      (observed (calls ++ [c])).input.lastButtonState j = (observed (calls ++ [c])).levels j)
    (n : Nat) : Sound (calls ++ [c]) (queue ++ ((observed calls).arrivals c).take n) where
  proper s hs := by
    rcases List.mem_append.mp hs with hold | hnew
    · exact h.proper s hold
    · exact (observed calls).proper_arrivals hc s (List.mem_of_mem_take hnew)
  levels := hlevels

/-- Only a step looks at the buttons. -/
theorem Sound.levels_concat (h : Sound calls queue) {c : Call}
    (hstates : ((observed calls).input.call c).1.lastButtonStates =
      (observed calls).input.lastButtonStates)
    (hc : ∀ buttons, c ≠ .step buttons) : ∀ j ∈ [(2 : UInt8), 1, 0],
      (observed (calls ++ [c])).input.lastButtonState j = (observed (calls ++ [c])).levels j := by
  intro j hj
  have hlevels : ((observed calls).call c).1.levels = (observed calls).levels := by
    cases c with
    | step buttons => exact absurd rfl (hc buttons)
    | _ => rfl
  rw [observed_concat, hlevels, ← h.levels j hj, lastButtonState, lastButtonState]
  exact congrArg (fun states => states &&& (1 <<< j) != 0) hstates

theorem routed_step (h : Routed calls entries discards queue takings) (hsound : Sound calls queue)
    (buttons : Buttons) :
    ∃ entries' queue', Routed (calls ++ [.step buttons]) entries' discards queue' takings ∧
      Sound (calls ++ [.step buttons]) queue' := by
  obtain ⟨hqueue, hlevels⟩ := (observed calls).input.step_spec buttons
  have hpressed : [2, 1, 0].filter ((observed calls).input.newlyPressed buttons) =
      ((observed calls).arrivals (.step buttons)).map Source.queued := by
    have hsame : [2, 1, 0].filter ((observed calls).input.newlyPressed buttons) =
        [2, 1, 0].filter fun button =>
          buttons.buttonPressed button.toNat && !(observed calls).levels button :=
      List.filter_congr fun j hj => by rw [newlyPressed, hsound.levels j hj]
    rw [hsame, Observed.arrivals, List.map_map]
    exact (List.map_id _).symm
  rw [hpressed] at hqueue
  obtain ⟨entries', hrouted⟩ := h.arrive (c := .step buttons) (by simp) rfl hqueue
  refine ⟨entries', _, hrouted, hsound.arrive (by simp) (fun j hj => ?_) _⟩
  rw [observed_concat]
  exact hlevels j hj

/-- A call that leaves the queue as it is and returns no event. -/
theorem routed_idle (h : Routed calls entries discards queue takings) (hsound : Sound calls queue)
    {c : Call} (hclear : c ≠ .clear) (hstep : ∀ buttons, c ≠ .step buttons)
    (harrivals : (observed calls).arrivals c = [])
    (hreturns : ((observed calls).input.call c).2 = .noEvent)
    (hqueue : ((observed calls).input.call c).1.eventQueue = (observed calls).input.eventQueue)
    (hstates : ((observed calls).input.call c).1.lastButtonStates =
      (observed calls).input.lastButtonStates) :
    ∃ entries', Routed (calls ++ [c]) entries' discards queue takings ∧
      Sound (calls ++ [c]) queue := by
  have hnone : pushAll (observed calls).input.eventQueue [] = (observed calls).input.eventQueue := by
    simp [pushAll]
  obtain ⟨entries', hrouted⟩ := h.arrive hclear hreturns
    (by rw [harrivals, List.map_nil, hnone]; exact hqueue)
  rw [harrivals, List.take_nil, List.append_nil] at hrouted
  exact ⟨entries', hrouted, hsound.proper, hsound.levels_concat hstates hstep⟩

theorem routed_consumeEvent (h : Routed calls entries discards queue takings)
    (hsound : Sound calls queue) :
    ∃ entries' queue' takings',
      Routed (calls ++ [.consumeEvent]) entries' discards queue' takings' ∧
        Sound (calls ++ [.consumeEvent]) queue' := by
  have hwaiting := h.waiting
  cases queue with
  | nil =>
      have hempty : (observed calls).input.consumeEvent = (.noEvent, (observed calls).input) := by
        rw [consumeEvent, ← hwaiting]
        rfl
      obtain ⟨entries', hidle⟩ := routed_idle h hsound (c := .consumeEvent) (by simp) (by simp) rfl
        (by rw [call, hempty]) (by rw [call, hempty]) (by rw [call, hempty])
      exact ⟨entries', _, _, hidle⟩
  | cons s queue =>
      obtain ⟨hstrip, hevent, horigin⟩ := Source.queued_spec (hsound.proper s List.mem_cons_self)
      by_cases hkept :
          (observed calls).input.printerInCharge = true ∧ s.queued.isFromPrinter = false
      · have hleft : (observed calls).input.consumeEvent = (.noEvent, (observed calls).input) := by
          rw [consumeEvent, ← hwaiting]
          simp [hkept]
        obtain ⟨entries', hidle⟩ := routed_idle h hsound (c := .consumeEvent) (by simp)
          (by simp) rfl (by rw [call, hleft]) (by rw [call, hleft]) (by rw [call, hleft])
        exact ⟨entries', _, _, hidle⟩
      · have hgiven : (observed calls).input.consumeEvent =
            (s.event, { (observed calls).input with eventQueue := queue.map Source.queued }) := by
          rw [consumeEvent, ← hwaiting, List.map_cons]
          simp only [hstrip]
          rw [if_neg]
          rw [Bool.and_eq_true, Bool.not_eq_true']
          exact hkept
        obtain ⟨entries', htaken⟩ := h.take (c := .consumeEvent) (by simp) rfl hevent
          (congrArg Prod.fst hgiven) (congrArg (fun r => r.2.eventQueue) hgiven) (by simp)
          (fun _ hcharge => horigin.mp (by simpa [hcharge] using hkept))
        exact ⟨entries', _, _, htaken, fun s' hs' => hsound.proper s' (List.mem_cons_of_mem s hs'),
          hsound.levels_concat (congrArg (fun r => r.2.lastButtonStates) hgiven) (by simp)⟩

theorem routed_consumeEventForPrinter (h : Routed calls entries discards queue takings)
    (hsound : Sound calls queue) :
    ∃ entries' queue' takings',
      Routed (calls ++ [.consumeEventForPrinter]) entries' discards queue' takings' ∧
        Sound (calls ++ [.consumeEventForPrinter]) queue' := by
  have hwaiting := h.waiting
  cases queue with
  | nil =>
      have hempty : (observed calls).input.consumeEventForPrinter =
          (.noEvent, (observed calls).input) := by
        rw [consumeEventForPrinter, ← hwaiting]
        rfl
      obtain ⟨entries', hidle⟩ := routed_idle h hsound (c := .consumeEventForPrinter) (by simp)
        (by simp) rfl (by rw [call, hempty]) (by rw [call, hempty]) (by rw [call, hempty])
      exact ⟨entries', _, _, hidle⟩
  | cons s queue =>
      obtain ⟨hstrip, hevent, horigin⟩ := Source.queued_spec (hsound.proper s List.mem_cons_self)
      cases s with
      | printer ev =>
          have hleft : (observed calls).input.consumeEventForPrinter =
              (.noEvent, (observed calls).input) := by
            rw [consumeEventForPrinter, ← hwaiting]
            simp only [List.map_cons]
            rw [if_pos (horigin.mpr ⟨ev, rfl⟩)]
          obtain ⟨entries', hidle⟩ := routed_idle h hsound (c := .consumeEventForPrinter) (by simp)
            (by simp) rfl (by rw [call, hleft]) (by rw [call, hleft]) (by rw [call, hleft])
          exact ⟨entries', _, _, hidle⟩
      | button index =>
          have hgiven : (observed calls).input.consumeEventForPrinter =
              (index, { (observed calls).input with eventQueue := queue.map Source.queued }) := by
            rw [consumeEventForPrinter, ← hwaiting, List.map_cons]
            simp only [hstrip]
            rw [if_neg fun hprinter => by simp at horigin; simp [horigin] at hprinter]
            rfl
          obtain ⟨entries', htaken⟩ := h.take (c := .consumeEventForPrinter) (by simp) rfl hevent
            (congrArg Prod.fst hgiven) (congrArg (fun r => r.2.eventQueue) hgiven)
            (fun _ => ⟨index, rfl⟩) (by simp)
          exact ⟨entries', _, _, htaken,
            fun s' hs' => hsound.proper s' (List.mem_cons_of_mem _ hs'),
            hsound.levels_concat (congrArg (fun r => r.2.lastButtonStates) hgiven) (by simp)⟩

/-- Every call carries the ledger on. -/
theorem routed_concat (h : Routed calls entries discards queue takings)
    (hsound : Sound calls queue) (c : Call) (hc : ∀ ev, c = .processMessage ev → ev ≤ 126) :
    ∃ entries' discards' queue' takings',
      Routed (calls ++ [c]) entries' discards' queue' takings' ∧ Sound (calls ++ [c]) queue' := by
  cases c with
  | step buttons =>
      obtain ⟨entries', queue', hrouted⟩ := routed_step h hsound buttons
      exact ⟨entries', _, queue', _, hrouted⟩
  | processMessage ev =>
      obtain ⟨entries', hrouted⟩ := h.arrive (c := .processMessage ev) (by simp) rfl
        (eventQueue_push _ _)
      have hstates : ((observed calls).input.processMessage ev).lastButtonStates =
          (observed calls).input.lastButtonStates := by
        rw [processMessage, push]
        split <;> rfl
      exact ⟨entries', _, _, _, hrouted,
        hsound.arrive hc (hsound.levels_concat hstates (by simp)) _⟩
  | consumeEvent =>
      obtain ⟨entries', queue', takings', hrouted⟩ := routed_consumeEvent h hsound
      exact ⟨entries', _, queue', takings', hrouted⟩
  | consumeEventForPrinter =>
      obtain ⟨entries', queue', takings', hrouted⟩ := routed_consumeEventForPrinter h hsound
      exact ⟨entries', _, queue', takings', hrouted⟩
  | clear =>
      obtain ⟨entries', hrouted⟩ := h.clear
      exact ⟨entries', _, [], _, hrouted, by simp, hsound.levels_concat rfl (by simp)⟩
  | setPrinterInCharge pc =>
      obtain ⟨entries', hrouted⟩ :=
        routed_idle h hsound (c := .setPrinterInCharge pc) (by simp) (by simp) rfl rfl rfl rfl
      exact ⟨entries', _, _, _, hrouted⟩

end Routing

/-- In any order of calls every event goes to one consumer at most, in the order the events came
in, or is lost by a clear or for want of room; and each consumer is given what is meant for
it. -/
theorem events_routed (calls : List Call)
    (hevents : ∀ ev, Call.processMessage ev ∈ calls → ev ≤ 126) :
    ∃ entries discards queue takings, Routed calls entries discards queue takings := by
  have hrouted : ∃ entries discards queue takings,
      Routed calls entries discards queue takings ∧ Sound calls queue := by
    induction calls using List.reverseRecOn with
    | nil =>
        refine ⟨[], [], [], [], ⟨.nil, rfl, rfl, rfl, by simp, by simp⟩, by simp, ?_⟩
        intro j hj
        simp only [List.mem_cons, List.not_mem_nil, or_false] at hj
        rcases hj with rfl | rfl | rfl <;> rfl
    | append_singleton calls c ih =>
        obtain ⟨entries, discards, queue, takings, h, hsound⟩ :=
          ih fun ev hev => hevents ev (List.mem_append_left [c] hev)
        exact routed_concat h hsound c fun ev hev =>
          hevents ev (List.mem_append_right calls (hev ▸ List.mem_singleton_self _))
  obtain ⟨entries, discards, queue, takings, h, -⟩ := hrouted
  exact ⟨entries, discards, queue, takings, h⟩

theorem events_routed_mixed :
    ∃ entries discards queue takings,
      Routed
        [.step [{ debounceTimeout := 100 }, { state := .waitForRelease, debounceTimeout := 100 }],
          .setPrinterInCharge true, .processMessage 1, .consumeEvent, .consumeEventForPrinter,
          .consumeEvent, .clear] entries discards queue takings :=
  events_routed _ (by simp)

end UserInput

end MmuFirmware
