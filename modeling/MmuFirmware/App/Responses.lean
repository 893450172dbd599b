import MmuFirmware.App.Runs
import MmuFirmware.Protocol.RoundTrip

/-!
Requests and responses in pairs. Whatever the decoder completes with a known code is a valid
line, so every encoder echoes it in a valid line; each iteration of the main loop processes
at most one request and answers it. `ProcessRequestMsg` has no case for the filament type,
which the decoder knows.
-/
namespace MmuFirmware
open Transducer

section Echo

/-- One response line that names the code and the value of the request. -/
def EchoesRequest (line : List UInt8) (rq : RequestMsg) : Prop :=
  ∃ m, ValidResponseLine line m ∧ m.request.code = rq.code ∧ m.request.value = rq.value

/-- A request that every encoder can echo: only a register write carries a second value,
and it is answered by the encoder that drops it. -/
structure RequestMsg.Echoable (rq : RequestMsg) : Prop where
  known : rq.code ≠ .unknown
  value2_zero : rq.code ≠ .write → rq.value2 = 0

theorem ValidRequestLine.echoable {line : List UInt8} {rq : RequestMsg}
    (h : ValidRequestLine line rq) : rq.Echoable := by
  obtain ⟨⟨hbody, -, -⟩, -⟩ := h
  cases hbody with
  | plain hknown _ _ => exact ⟨hknown, fun _ => rfl⟩
  | write _ _ => exact ⟨by simp, fun h => absurd rfl h⟩

/-- A response whose request part is the given one, as the encoders spell it. -/
structure Response (rq : RequestMsg) (line : List UInt8) : Prop where
  echoes : EchoesRequest line rq
  length_le : line.length ≤ maxResponseSize

theorem response_of_encodable {rq : RequestMsg} {p : ResponseMsgParamCodes} {value : UInt16}
    {digits : List UInt8}
    (h : OutgoingResponse.Encodable (.init rq p value) digits) :
    Response rq (OutgoingResponse.spell (.init rq p value) digits) :=
  ⟨⟨_, OutgoingResponse.spell_valid h, rfl, rfl⟩, OutgoingResponse.length_spell_le h⟩

theorem response_cmdAR {rq : RequestMsg} (h : rq.Echoable) {ar : ResponseMsgParamCodes}
    (har : ar = .accepted ∨ ar = .rejected) : Response rq (encodeResponseCmdAR rq ar) :=
  let r := OutgoingResponse.cmdAR rq ar h.known har
  ⟨⟨_, r.encode_valid, rfl, rfl⟩, r.length_encode_le⟩

theorem response_read {rq : RequestMsg} (h : rq.Echoable) (hcode : rq.code ≠ .write)
    (accepted : Bool) (value2 : UInt16) :
    Response rq (encodeResponseRead rq accepted value2) := by
  have hspell : encodeResponseRead rq accepted value2 =
      OutgoingResponse.spell
        (.init rq (if accepted then .accepted else .rejected) (if accepted then value2 else 0))
        (if accepted then uint16ToHex value2 else []) := by
    simp [encodeResponseRead, OutgoingResponse.spell, beginEncodeRequest]
  obtain ⟨hdigits, hnumber, hlength⟩ := uint16ToHex_spec value2
  rw [hspell]
  refine response_of_encodable
    { code_known := h.known, value2_zero := h.value2_zero hcode, paramCode_known := ?_
      crc_eq := ResponseMsg.init_crc8 _ _ _, digits_hex := ?_, digits_value := ?_
      digits_length := ?_ }
  · cases accepted <;> simp
  · cases accepted <;> simp [hdigits]
  · cases accepted <;> simp [hnumber]
  · cases accepted <;> simp [hlength]

theorem response_readFINDA {rq : RequestMsg} (h : rq.Echoable) (hcode : rq.code ≠ .write)
    (findaValue : UInt8) : Response rq (encodeResponseReadFINDA rq findaValue) :=
  response_read h hcode true findaValue.toUInt16

theorem response_queryOperation {rq : RequestMsg} (h : rq.Echoable) (hcode : rq.code ≠ .write)
    {rcs : ResponseCommandStatus} (hrcs : rcs.code ≠ .unknown) :
    Response rq (encodeResponseQueryOperation rq rcs) := by
  have hspell : encodeResponseQueryOperation rq rcs =
      OutgoingResponse.spell (.init rq rcs.code rcs.value) (uint16ToHex rcs.value) := by
    simp [encodeResponseQueryOperation, OutgoingResponse.spell, beginEncodeRequest]
  obtain ⟨hdigits, hnumber, hlength⟩ := uint16ToHex_spec rcs.value
  rw [hspell]
  exact response_of_encodable
    { code_known := h.known, value2_zero := h.value2_zero hcode, paramCode_known := hrcs
      crc_eq := ResponseMsg.init_crc8 _ _ _, digits_hex := hdigits, digits_value := hnumber
      digits_length := hlength }

end Echo

section Decoding

/-- Decoding stops behind the first message that is complete. What was decoded together
with what had been read before is then one line, valid if its code is known. -/
theorem decodeMsgs_spec {p : Protocol} {s : List UInt8}
    (h : ReadingRequest p.rqState s p.requestMsg) (bytes : List UInt8) :
    ((World.decodeMsgs p bytes).1 = false ∧ (World.decodeMsgs p bytes).2.2 = [] ∧
      ReadingRequest (World.decodeMsgs p bytes).2.1.rqState (s ++ bytes)
        (World.decodeMsgs p bytes).2.1.requestMsg) ∨
    ((World.decodeMsgs p bytes).1 = true ∧ (World.decodeMsgs p bytes).2.1.rqState = .code ∧
      ∃ line, s ++ bytes = line ++ (World.decodeMsgs p bytes).2.2 ∧
        ((World.decodeMsgs p bytes).2.1.requestMsg.code ≠ .unknown →
          ValidRequestLine line (World.decodeMsgs p bytes).2.1.requestMsg)) := by
  induction bytes generalizing p s with
  | nil => exact .inl ⟨rfl, rfl, by simpa [World.decodeMsgs] using h⟩
  | cons c bytes ih =>
      obtain ⟨p', status, heq⟩ : ∃ p' status, decodeRequest p c = (p', status) := ⟨_, _, rfl⟩
      have hstep := readingRequest_step c h
      rw [heq] at hstep
      rcases hstep with ⟨hstatus, hreading⟩ | ⟨rfl, hstate, hvalid⟩
      · have hrest : World.decodeMsgs p (c :: bytes) = World.decodeMsgs p' bytes := by
          cases status <;> simp_all [World.decodeMsgs]
        rw [hrest]
        simpa using ih hreading
      · have hdone : World.decodeMsgs p (c :: bytes) = (true, p', bytes) := by
          simp [World.decodeMsgs, heq]
        rw [hdone]
        exact .inr ⟨rfl, hstate, s ++ [c], by simp, hvalid⟩

end Decoding

namespace World

variable (w : World)

/-- What the link keeps between two iterations: the decoder has read part of a line, and the
request echoed to queries can be echoed. -/
structure LinkReady : Prop where
  reading : ∃ s, ReadingRequest w.protocol.rqState s w.protocol.requestMsg
  echoable : w.currentCommandRq.Echoable
  not_write : w.currentCommandRq.code ≠ .write

variable {w} in
theorem LinkReady.congr {w' : World} (h : w.LinkReady) (hprotocol : w'.protocol = w.protocol)
    (hrq : w'.currentCommandRq = w.currentCommandRq) : w'.LinkReady := by
  obtain ⟨hreading, hechoable, hwrite⟩ := h
  exact ⟨by rwa [hprotocol], by rwa [hrq], by rwa [hrq]⟩

/-- A complete message of a known code is a valid request line. -/
theorem checkMsgs_spec (h : w.LinkReady) :
    w.checkMsgs.2.LinkReady ∧
      (w.checkMsgs.1 = true → w.checkMsgs.2.protocol.requestMsg.code ≠ .unknown →
        w.checkMsgs.2.protocol.requestMsg.Echoable) := by
  obtain ⟨⟨s, hreading⟩, hechoable, hwrite⟩ := h
  have hspec := decodeMsgs_spec hreading w.rx
  refine ⟨⟨?_, hechoable, hwrite⟩, ?_⟩
  · rcases hspec with ⟨-, -, hreading⟩ | ⟨-, hstate, -⟩
    · exact ⟨_, hreading⟩
    · refine ⟨[], ?_⟩
      show ReadingRequest (decodeMsgs w.protocol w.rx).2.1.rqState [] _
      rw [hstate]
      exact .code
  · intro hdone hknown
    rcases hspec with ⟨hpending, -⟩ | ⟨-, -, line, -, hvalid⟩
    · exact absurd (hdone.symm.trans hpending) (by decide)
    · exact (hvalid hknown).echoable

theorem commandStatus_code_known : w.commandStatus.code ≠ .unknown := by
  rw [commandStatus]
  split
  · simp
  · split <;> simp

theorem runningCommandStatus_code_known : w.runningCommandStatus.1.code ≠ .unknown := by
  rcases w.runningCommandStatus_cases.2 with h | h
  · rw [h]
    exact w.commandStatus_code_known
  · simp [h]

/-- The codes that are not answered. -/
theorem processRequestMsg_line_eq_none (rq : RequestMsg) :
    (w.processRequestMsg rq).line = none ↔
      rq.code = .unknown ∨ rq.code = .reset ∨ rq.code = .filamentType := by
  rw [processRequestMsg]
  cases rq.code <;> simp [planCommand, reportWriteRegister]
  all_goals split <;> simp

/-- Every path that answers echoes the request; a query echoes the one planned last. -/
theorem processRequestMsg_response (h : w.LinkReady) {rq : RequestMsg} (hrq : rq.Echoable)
    {line : List UInt8} (hline : (w.processRequestMsg rq).line = some line) :
    Response (if rq.code = .query then w.currentCommandRq else rq) line := by
  have har (accepted : Bool) :
      Response rq (encodeResponseCmdAR rq (if accepted then .accepted else .rejected)) :=
    response_cmdAR hrq (by cases accepted <;> simp)
  have hplan (hline : (w.planCommand rq).line = some line) : Response rq line := by
    rw [planCommand] at hline
    split at hline
    · cases hline
      exact har _
    · cases hline
      exact har false
  rw [processRequestMsg] at hline
  cases hcode : rq.code with
  | query =>
      simp only [hcode] at hline
      cases hline
      simpa using response_queryOperation h.echoable h.not_write w.runningCommandStatus_code_known
  | finda =>
      simp only [hcode] at hline
      cases hline
      simpa [hcode] using response_readFINDA hrq (by simp [hcode]) _
  | version | read =>
      simp only [hcode, reportReadRegister] at hline
      cases hline
      simpa [hcode] using response_read hrq (by simp [hcode]) _ _
  | write =>
      simp only [hcode] at hline
      cases hline
      simpa [hcode] using har _
  | button | filamentSensor =>
      simp only [hcode] at hline
      cases hline
      simpa [hcode] using har true
  | cut | eject | home | load | mode | tool | unload =>
      simp only [hcode] at hline
      simpa [hcode] using hplan hline
  | unknown | reset | filamentType =>
      simp [hcode] at hline

theorem linkReady_stages : StagesPreserve (fun _ => True) LinkReady where
  interrupt _ _ h := h.congr rfl rfl
  stepModules _ _ h := h.congr (by simp) (by simp)
  runtimeHWChecks _ _ h := h.congr (by simp) (by simp)
  checkManualOperation w h :=
    h.congr w.checksManually.protocol w.checksManually.currentCommandRq
  receive _ _ h := h.congr rfl rfl
  checkMsgs w h := (w.checkMsgs_spec h).1
  processRequestMsg w h _ _ := by
    have hserves := w.checkMsgs.2.serves w.checkMsgs.2.protocol.requestMsg
    obtain ⟨hready, hvalid⟩ := w.checkMsgs_spec h
    obtain ⟨hreading, hechoable, hwrite⟩ := hready
    refine ⟨by rwa [hserves.protocol], ?_, ?_⟩
    all_goals
      rw [hserves.currentCommandRq]
      split
      · next hstarted =>
          have hplans := hserves.plans hstarted
          grind [plansCommand]
      · assumption
  stepCommand _ h := h.congr (by simp) (by simp)

end World

namespace LoopReport

variable (r : LoopReport)

/-- The request to be answered: one of a known code other than a reset. -/
def pending : Option RequestMsg :=
  r.request.filter fun rq => rq.code != .unknown && rq.code != .reset

/-- The request that has planned a command. -/
def plannedRequest : Option RequestMsg := if r.plannedStart.isSome then r.request else none

/-- What the answer has to echo, `last` being the request that planned the last command. -/
def echoed (last : RequestMsg) : Option RequestMsg :=
  r.pending.map fun rq => if rq.code = .query then last else rq

/-- The pending request is answered by one line, and nothing else is answered. -/
def Answers (last : RequestMsg) : Prop := Option.Rel EchoesRequest r.line (r.echoed last)

def Answerable : Prop := ∀ rq, r.pending = some rq → rq.code ≠ .filamentType

variable {r}

theorem answers_of_not_pending (h : r.pending = none) {last : RequestMsg} :
    r.Answers last ↔ r.line = none := by
  rw [Answers, echoed, h]
  constructor
  · intro hrel
    cases hline : r.line with
    | none => rfl
    | some line =>
        rw [hline] at hrel
        cases hrel
  · intro hline
    rw [hline]
    exact .none

theorem answers_of_pending {rq : RequestMsg} (h : r.pending = some rq) {last : RequestMsg} :
    r.Answers last ↔
      ∃ line, r.line = some line ∧ EchoesRequest line (if rq.code = .query then last else rq) := by
  rw [Answers, echoed, h]
  constructor
  · intro hrel
    cases hline : r.line with
    | none =>
        rw [hline] at hrel
        cases hrel
    | some line =>
        rw [hline] at hrel
        cases hrel with
        | some hechoes => exact ⟨line, rfl, hechoes⟩
  · rintro ⟨line, hline, hechoes⟩
    rw [hline]
    exact .some hechoes

theorem pending_eq {rq : RequestMsg} (h : r.request = some rq) :
    r.pending = if rq.code = .unknown ∨ rq.code = .reset then none else some rq := by
  rw [pending, h, Option.filter_some]
  by_cases hcode : rq.code = .unknown ∨ rq.code = .reset
  · rcases hcode with hcode | hcode <;> simp [hcode]
  · simp [not_or.mp hcode]

/-- Each report with the request that planned the last command before it. -/
def plannedBefore : RequestMsg → List LoopReport → List (RequestMsg × LoopReport)
  | _, [] => []
  | last, r :: rs => (last, r) :: plannedBefore (r.plannedRequest.getD last) rs

@[simp] theorem map_snd_plannedBefore (last : RequestMsg) (rs : List LoopReport) :
    (plannedBefore last rs).map Prod.snd = rs := by
  induction rs generalizing last with
  | nil => rfl
  | cons r rs ih => simp [plannedBefore, ih]

end LoopReport

namespace World

variable {w : World} (h : w.LinkReady) (i : LoopInput)
include h

theorem readMessages_spec :
    (w.readMessages i).2.LinkReady ∧
      (w.readMessages i).2.currentCommandRq = w.currentCommandRq ∧
      ((w.readMessages i).1 = true →
        (w.readMessages i).2.protocol.requestMsg.code ≠ .unknown →
        (w.readMessages i).2.protocol.requestMsg.Echoable) := by
  obtain ⟨hready, hvalid⟩ := checkMsgs_spec _ (linkReady_stages.received h i)
  refine ⟨hready, ?_, hvalid⟩
  calc (w.readMessages i).2.currentCommandRq
      = (w.startManually i).2.currentCommandRq := rfl
    _ = (w.beforeMessages i).currentCommandRq := (w.startManually_checks i).currentCommandRq
    _ = w.currentCommandRq := by simp [beforeMessages, interrupt]

theorem loop_currentCommandRq :
    (w.loop i).1.currentCommandRq =
      if w.boardReset then w.currentCommandRq
      else (w.report i).plannedRequest.getD w.currentCommandRq := by
  obtain ⟨-, hrq, -⟩ := readMessages_spec h i
  have hserve : (w.serve i).world.currentCommandRq =
      (w.report i).plannedRequest.getD w.currentCommandRq := by
    simp only [(w.serve_serves i).currentCommandRq, LoopReport.plannedRequest, report, hrq]
    split
    · next hstarted =>
        have hcompleted : (w.readMessages i).1 = true := by
          by_contra hpending
          simp [serve, hpending] at hstarted
        simp [hcompleted, hstarted]
    · next hstarted => simp [hstarted]
  rw [loop]
  split
  · rfl
  · dsimp only
    split
    · exact hserve
    · exact (stepCommand_currentCommandRq _).trans hserve

omit h in
theorem processRequestMsg_answers (h : w.LinkReady) {rq : RequestMsg}
    (hvalid : rq.code ≠ .unknown → rq.Echoable) {r : LoopReport} (hrequest : r.request = some rq)
    (hline : r.line = (w.processRequestMsg rq).line) :
    (r.Answers w.currentCommandRq ↔ r.Answerable) ∧
      (r.line.getD []).length ≤ maxResponseSize := by
  have hnone := w.processRequestMsg_line_eq_none rq
  have hpending := LoopReport.pending_eq hrequest
  by_cases hquiet : rq.code = .unknown ∨ rq.code = .reset
  · have hsilent : r.line = none := by
      rw [hline, hnone]
      tauto
    rw [if_pos hquiet] at hpending
    simp [LoopReport.answers_of_not_pending hpending, LoopReport.Answerable, hsilent, hpending]
  rw [if_neg hquiet] at hpending
  rw [LoopReport.answers_of_pending hpending]
  by_cases hfilamentType : rq.code = .filamentType
  · have hsilent : r.line = none := by
      rw [hline, hnone]
      tauto
    simp [LoopReport.Answerable, hsilent, hpending, hfilamentType]
  · obtain ⟨line, hsome⟩ := Option.ne_none_iff_exists'.mp (hnone.not.mpr (by tauto))
    obtain ⟨hechoes, hlength⟩ := w.processRequestMsg_response h (hvalid (by tauto)) hsome
    rw [hline, hsome]
    simpa [LoopReport.Answerable, hpending, hfilamentType, hlength] using hechoes

/-- One iteration answers its request unless that is of the code without an answer; every
line fits the buffer of a response. -/
theorem report_answers :
    ((w.report i).Answers w.currentCommandRq ↔ (w.report i).Answerable) ∧
      ((w.report i).line.getD []).length ≤ maxResponseSize := by
  obtain ⟨hready, hrq, hvalid⟩ := readMessages_spec h i
  cases hcompleted : (w.readMessages i).1 with
  | false =>
      have hline : (w.report i).line = none := by simp [report, serve, hcompleted]
      have hpending : (w.report i).pending = none := by
        simp [report, LoopReport.pending, hcompleted]
      simp [LoopReport.Answers, LoopReport.Answerable, LoopReport.echoed, hline, hpending]
  | true =>
      rw [← hrq]
      exact processRequestMsg_answers hready (hvalid hcompleted) (by simp [report, hcompleted])
        (by simp [report, serve, hcompleted])

end World

theorem reports_answered {w : World} (h : w.LinkReady) (inputs : List LoopInput) :
    ∀ p ∈ LoopReport.plannedBefore w.currentCommandRq (w.reports inputs),
      (p.2.Answers p.1 ↔ p.2.Answerable) ∧ (p.2.line.getD []).length ≤ maxResponseSize ∧
        p.2.written = (p.2.line.getD []).take p.2.txRoom := by
  induction inputs generalizing w with
  | nil => simp [World.reports, LoopReport.plannedBefore]
  | cons i inputs ih =>
      cases hreset : w.boardReset with
      | true =>
          rw [w.reports_of_boardReset hreset]
          exact ih h
      | false =>
          have hrest := ih (World.linkReady_stages.loop h i fun _ _ => trivial)
          rw [World.loop_currentCommandRq h i, hreset] at hrest
          rw [w.reports_of_goes hreset, LoopReport.plannedBefore, List.forall_mem_cons]
          obtain ⟨hanswers, hlength⟩ := World.report_answers h i
          exact ⟨⟨hanswers, hlength, rfl⟩, hrest⟩

section Runs

variable (b : BootInput)

theorem BootInput.world_protocol : b.world.protocol = .fresh := by
  rw [world]
  split
  · simp
  · rfl

theorem BootInput.world_currentCommandRq : b.world.currentCommandRq = .init .reset 0 := by
  rw [world]
  split
  · simp
  · rfl

theorem BootInput.linkReady : b.world.LinkReady where
  reading := by
    rw [b.world_protocol]
    exact ⟨[], .code⟩
  echoable := by
    rw [b.world_currentCommandRq]
    exact ⟨by simp, fun _ => rfl⟩
  not_write := by
    rw [b.world_currentCommandRq]
    simp

/-- In every run an iteration answers its request, with one line that echoes it, exactly if
the request is not of the code `ProcessRequestMsg` leaves without an answer; a run without
such requests answers all of them in order. What the transmit buffer has no room for is
skipped, which concerns no line while there is room for a response. -/
theorem requests_answered_iff (inputs : List LoopInput) :
    (∀ p ∈ LoopReport.plannedBefore (.init .reset 0) (b.reports inputs),
      (p.2.Answers p.1 ↔ p.2.Answerable)) ∧
    ((∀ r ∈ b.reports inputs, r.Answerable) →
      List.Forall₂ EchoesRequest ((b.reports inputs).filterMap LoopReport.line)
        ((LoopReport.plannedBefore (.init .reset 0) (b.reports inputs)).filterMap
          fun p => p.2.echoed p.1)) ∧
    ∀ r ∈ b.reports inputs, r.written <+: r.line.getD [] ∧
      (maxResponseSize ≤ r.txRoom → r.written = r.line.getD []) := by
  have hall := reports_answered b.linkReady inputs
  rw [b.world_currentCommandRq] at hall
  have hreports := LoopReport.map_snd_plannedBefore (.init .reset 0) (b.reports inputs)
  refine ⟨fun p hp => (hall p hp).1, ?_, ?_⟩
  · intro hanswerable
    rw [← hreports] at hanswerable
    rw [← hreports, List.filterMap_map, hreports]
    refine List.rel_filterMap
      (R := fun p q : RequestMsg × LoopReport => Option.Rel EchoesRequest p.2.line (q.2.echoed q.1))
      (fun _ _ h => h) (List.forall₂_same.mpr ?_)
    intro p hp
    exact (hall p hp).1.mpr (hanswerable _ (List.mem_map_of_mem hp))
  · intro r hr
    rw [← hreports] at hr
    obtain ⟨p, hp, rfl⟩ := List.mem_map.mp hr
    obtain ⟨-, hlength, hwritten⟩ := hall p hp
    rw [hwritten]
    exact ⟨List.take_prefix _ _, fun hroom => List.take_of_length_le (hlength.trans hroom)⟩

/-- The filament type of a slot is a request the decoder knows; nothing is answered. -/
theorem filamentType_not_answered :
    ¬ ∀ p ∈ LoopReport.plannedBefore (.init .reset 0)
        (BootInput.reports {} [{ rx := encodeRequest (.init .filamentType 0) }]),
      p.2.Answers p.1 := by
  have hsilent : ∃ p ∈ LoopReport.plannedBefore (.init .reset 0)
      (BootInput.reports {} [{ rx := encodeRequest (.init .filamentType 0) }]),
      p.2.line = none ∧ p.2.pending ≠ none := by
    decide +kernel
  obtain ⟨p, hp, hline, hpending⟩ := hsilent
  intro hanswers
  obtain ⟨rq, hrq⟩ := Option.ne_none_iff_exists'.mp hpending
  obtain ⟨line, hsome, -⟩ := (LoopReport.answers_of_pending hrq).mp (hanswers p hp)
  simp [hline] at hsome

end Runs

end MmuFirmware
