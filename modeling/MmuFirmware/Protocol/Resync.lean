import MmuFirmware.Protocol.RequestDecoder
import MmuFirmware.Protocol.ResponseAcceptance

/-!
What a newline does in each state of the two automata. It restarts the automaton where the
line could end, and where a field was still being read it is itself the offending byte: the
automaton is then in the error state and swallows the next line up to its newline.
-/
namespace MmuFirmware
open Transducer

/-- Every valid line fed next is accepted with its own fields. -/
def ResyncsRequest (p : Protocol) : Prop :=
  ∀ s m, ValidRequestLine s m → AcceptsRequest p s m

def ResyncsResponse (p : Protocol) : Prop :=
  ∀ s m, ValidResponseLine s m → AcceptsResponse p s m

/-- The states in which a newline ends the line of a request. -/
def RequestLineEnds (p : Protocol) : Prop :=
  p.rqState = .error ∨ p.rqState = .crc ∧ p.requestMsg.crc8 = p.requestMsg.computeCRC8

def ResponseLineEnds (p : Protocol) : Prop :=
  p.rspState = .requestCode ∨ p.rspState = .error ∨
    p.rspState = .crc ∧ p.responseMsg.request.crc8 = p.responseMsg.computeCRC8

section Request

theorem decodeRequest_newLine_of_ends {p : Protocol} {nl : UInt8} (hnl : isNewLine nl)
    (h : RequestLineEnds p) :
    decodeRequest p nl = ({ p with rqState := .code }, .messageCompleted) := by
  rcases h with hs | ⟨hs, hcrc⟩
  · simp [decodeRequest, decodeRequestDefault, hs, hnl]
  · exact decodeRequest_newLine_crc p hs hnl hcrc

theorem decodeRequest_newLine_of_not_ends {p : Protocol} {nl : UInt8} (hnl : isNewLine nl)
    (h : ¬ RequestLineEnds p) : decodeRequest p nl = requestError p := by
  obtain ⟨hstar, hspace, hletter, -⟩ := (separates nl).newLine hnl
  rw [RequestLineEnds] at h
  cases hs : p.rqState with
  | error => exact absurd (.inl hs) h
  | crc =>
      have hcrc : p.requestMsg.crc8 ≠ p.requestMsg.computeCRC8 := fun hcrc =>
        h (.inr ⟨hs, hcrc⟩)
      simp [decodeRequest, hs, isHexDigit_newLine hnl, hnl, hcrc]
  | code => simp [decodeRequest, hs, hletter]
  | value | address | writeValue =>
      simp [decodeRequest, hs, isHexDigit_newLine hnl, hstar, hspace]

theorem requestError_passes {p : Protocol} (hs : p.rqState = .error)
    (hunknown : p.requestMsg.code = .unknown) {s : List UInt8}
    (hs' : ∀ c ∈ s, isNewLine c = false) : Passes decodeRequest .error p s p := by
  have hstep : ∀ c ∈ s, decodeRequest p c = (p, .error) := by
    intro c hc
    obtain ⟨rqState, ⟨code, value, value2, crc8⟩, rspState, responseMsg⟩ := p
    simp only at hs hunknown
    simp [decodeRequest, decodeRequestDefault, requestError, hs, hunknown, hs' c hc]
  exact Passes.loop (fun _ => p) s (fun _ => hstep) []

/-- A valid line is read to the end in the error state and completes no known request. -/
theorem not_resyncsRequest_of_error {p : Protocol} (hs : p.rqState = .error)
    (hunknown : p.requestMsg.code = .unknown) : ¬ ResyncsRequest p := by
  intro h
  obtain ⟨s, m, hvalid, hknown⟩ := exists_validRequestLine
  obtain ⟨pre, nl, rfl, hnl, hpre⟩ := hvalid.1.newLine_last
  obtain ⟨-, -, -, -, -, hm⟩ := h _ _ hvalid
  rw [run_append, (requestError_passes hs hunknown hpre).run_eq, run_cons, run_nil,
    decodeRequest_newLine_of_ends hnl (.inl hs)] at hm
  exact hknown (hm ▸ hunknown)

end Request

section Response

theorem decodeResponse_newLine_of_ends {p : Protocol} {nl : UInt8} (hnl : isNewLine nl)
    (h : ResponseLineEnds p) : (decodeResponse p nl).1.rspState = .requestCode := by
  obtain ⟨-, -, hletter, -⟩ := (separates nl).newLine hnl
  rcases h with hs | hs | ⟨hs, hcrc⟩
  · simp [decodeResponse, hs, hletter, hnl]
  · simp [decodeResponse, hs, hnl]
  · rw [decodeResponse_newLine_crc p hs hnl hcrc]

theorem decodeResponse_newLine_of_not_ends {p : Protocol} {nl : UInt8} (hnl : isNewLine nl)
    (h : ¬ ResponseLineEnds p) : (decodeResponse p nl).1.rspState = .error := by
  obtain ⟨hstar, hspace, -, hparam⟩ := (separates nl).newLine hnl
  rw [ResponseLineEnds] at h
  cases hs : p.rspState with
  | requestCode => exact absurd (.inl hs) h
  | error => exact absurd (.inr (.inl hs)) h
  | crc =>
      have hcrc : p.responseMsg.request.crc8 ≠ p.responseMsg.computeCRC8 := fun hcrc =>
        h (.inr (.inr ⟨hs, hcrc⟩))
      simp [decodeResponse, hs, isHexDigit_newLine hnl, hnl, hcrc, responseErrorClear]
  | paramCode => simp [decodeResponse, hs, hparam, responseErrorClear]
  | requestValue =>
      simp [decodeResponse, hs, isHexDigit_newLine hnl, hspace, responseErrorKeep]
  | paramValue =>
      simp [decodeResponse, hs, isHexDigit_newLine hnl, hstar, responseErrorClear]

theorem decodeResponse_error {p : Protocol} (hs : p.rspState = .error) {c : UInt8}
    (hc : isNewLine c = false) : decodeResponse p c = responseErrorClear p := by
  simp [decodeResponse, hs, hc]

theorem responseError_passes {p : Protocol} (hs : p.rspState = .error)
    (hunknown : p.responseMsg.paramCode = .unknown) {s : List UInt8}
    (hs' : ∀ c ∈ s, isNewLine c = false) : Passes decodeResponse .error p s p := by
  have hstep : ∀ c ∈ s, decodeResponse p c = (p, .error) := by
    intro c hc
    obtain ⟨rqState, requestMsg, rspState, ⟨request, paramCode, paramValue⟩⟩ := p
    simp only at hs hunknown
    simp [decodeResponse, responseErrorClear, hs, hunknown, hs' c hc]
  exact Passes.loop (fun _ => p) s (fun _ => hstep) []

theorem not_resyncsResponse_of_error {p : Protocol} (hs : p.rspState = .error) :
    ¬ ResyncsResponse p := by
  intro h
  obtain ⟨s, m, hvalid, hknown⟩ := exists_validResponseLine
  obtain ⟨pre, nl, rfl, hnl, hpre⟩ := hvalid.1.newLine_last
  obtain ⟨-, -, -, -, -, hm⟩ := h _ _ hvalid
  cases pre with
  | nil => simpa using hvalid.1.length_ge
  | cons c pre =>
      -- the first byte of the line is already offending and clears the parameter code
      have hpass := responseError_passes (p := (responseErrorClear p).1) rfl rfl
        fun d hd => hpre d (List.mem_cons_of_mem c hd)
      rw [List.cons_append, run_cons, decodeResponse_error hs (hpre c List.mem_cons_self),
        run_append, hpass.run_eq, run_cons, run_nil] at hm
      simp only [decodeResponse, responseErrorClear, hnl, if_true] at hm
      exact hknown (hm ▸ rfl)

end Response

/-- After a newline the next valid line is accepted exactly if the newline could end the
line it was read in; both decoders, every earlier input. -/
theorem resync_iff (p : Protocol) (s : List UInt8) (nl : UInt8) (hnl : isNewLine nl) :
    (ResyncsRequest (run decodeRequest p (s ++ [nl])) ↔
      RequestLineEnds (run decodeRequest p s)) ∧
    (ResyncsResponse (run decodeResponse p (s ++ [nl])) ↔
      ResponseLineEnds (run decodeResponse p s)) := by
  simp only [run_append, run_cons, run_nil]
  refine ⟨⟨fun h => ?_, fun h => ?_⟩, ⟨fun h => ?_, fun h => ?_⟩⟩
  · by_contra hends
    rw [decodeRequest_newLine_of_not_ends hnl hends] at h
    exact not_resyncsRequest_of_error (p := (requestError _).1) rfl rfl h
  · intro line m hvalid
    rw [decodeRequest_newLine_of_ends hnl h]
    exact acceptsRequest_of_valid rfl hvalid
  · by_contra hends
    exact not_resyncsResponse_of_error (decodeResponse_newLine_of_not_ends hnl hends) h
  · intro line m hvalid
    exact acceptsResponse_of_valid (decodeResponse_newLine_of_ends hnl h) hvalid

theorem resync_iff_empty :
    (ResyncsRequest (run decodeRequest .fresh ([] ++ ['\n'.toUInt8])) ↔
      RequestLineEnds (run decodeRequest .fresh [])) ∧
    (ResyncsResponse (run decodeResponse .fresh ([] ++ ['\n'.toUInt8])) ↔
      ResponseLineEnds (run decodeResponse .fresh [])) :=
  resync_iff .fresh [] '\n'.toUInt8 (by decide)

/-- A line cut off inside its value: the newline does not end it in either decoder. -/
theorem truncatedLine_not_resyncs :
    ¬ ResyncsRequest (run decodeRequest .fresh (['T', '0', '\n'].map Char.toUInt8)) ∧
      ¬ ResyncsResponse (run decodeResponse .fresh (['T', '0', '\n'].map Char.toUInt8)) :=
  ⟨not_resyncsRequest_of_error (by decide) (by decide),
    not_resyncsResponse_of_error (by decide)⟩

end MmuFirmware
