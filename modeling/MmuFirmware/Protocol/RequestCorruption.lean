import MmuFirmware.Protocol.Distance
import MmuFirmware.Protocol.Resync
import MmuFirmware.Protocol.RoundTrip

/-!
One damaged byte in an encoded line. If the byte is not turned into a newline inside the
line, the damaged line can only be accepted as a whole and is then one byte away from the
original. A newline inside the line cuts it in two: a first part that is accepted already
spells the fields, and what follows it is too short to be a line.
-/
namespace MmuFirmware
open Transducer ListDistance Crc

section Splitting

/-- A byte of a kind that does not occur in `as` lies behind `as`. -/
theorem behind_of_free {P : UInt8 → Bool} {as bs pre post : List UInt8} {c : UInt8}
    (has : ∀ a ∈ as, P a = false) (hc : P c) (heq : pre ++ c :: post = as ++ bs) :
    ∃ t, pre = as ++ t ∧ t ++ c :: post = bs := by
  induction as generalizing pre with
  | nil => exact ⟨pre, rfl, heq⟩
  | cons a as ih =>
      cases pre with
      | nil =>
          have hhead := has a List.mem_cons_self
          rw [← (List.cons.inj heq).1, hc] at hhead
          cases hhead
      | cons b pre =>
          obtain ⟨rfl, htail⟩ := List.cons.inj heq
          obtain ⟨t, rfl, ht⟩ := ih (fun d hd => has d (List.mem_cons_of_mem _ hd)) htail
          exact ⟨t, rfl, ht⟩

/-- Damage leaves one newline at the end, or cuts the line at a new newline inside it. -/
theorem set_line {line : List UInt8} (hline : ∀ c ∈ line, isNewLine c = false) (nl : UInt8)
    (i : Nat) (b : UInt8) :
    (∃ line' y, (line ++ [nl]).set i b = line' ++ [y] ∧ ∀ c ∈ line', isNewLine c = false) ∨
    (∃ a x rest, line = a ++ x :: rest ∧ (line ++ [nl]).set i b = a ++ b :: (rest ++ [nl]) ∧
      isNewLine b) := by
  rcases Nat.lt_or_ge i line.length with hi | hi
  · have hset : (line ++ [nl]).set i b = line.set i b ++ [nl] := List.set_append_left i b hi
    by_cases hb : isNewLine b
    · right
      refine ⟨line.take i, line.get ⟨i, hi⟩, line.drop (i + 1), ?_, ?_, hb⟩
      · rw [List.get_eq_getElem, List.getElem_cons_drop, List.take_append_drop]
      · rw [hset, List.set_eq_take_append_cons_drop, if_pos hi, List.append_assoc,
          List.cons_append]
    · left
      refine ⟨line.set i b, nl, hset, ?_⟩
      intro c hc
      rcases List.mem_or_eq_of_mem_set hc with hc | rfl
      · exact hline c hc
      · simpa using hb
  · left
    have hset := List.set_append_right i b hi (t := [nl])
    rcases Nat.eq_or_lt_of_le hi with rfl | hlt
    · exact ⟨line, b, by simp, hline⟩
    · refine ⟨line, nl, ?_, hline⟩
      apply List.set_eq_of_length_le
      rw [List.length_append, List.length_singleton]
      exact hlt

/-- In a line whose last byte alone is a newline, a newline is that last byte. -/
theorem split_at_end {line pre post : List UInt8} {c nl : UInt8}
    (hline : ∀ d ∈ line, isNewLine d = false) (hc : isNewLine c)
    (heq : pre ++ c :: post = line ++ [nl]) : pre = line ∧ c = nl ∧ post = [] := by
  obtain ⟨t, rfl, ht⟩ := behind_of_free hline hc heq
  cases t with
  | nil => simpa using ht
  | cons d t => simpa using congrArg List.length ht

theorem star_free {ds : List UInt8} (hds : '*'.toUInt8 ∉ ds) :
    ∀ c ∈ ds, (c == '*'.toUInt8) = false := by
  intro c hc
  rw [beq_eq_false_iff_ne]
  rintro rfl
  exact hds hc

theorem body_eq_of_star {body body' s s' : List UInt8} (hbody : '*'.toUInt8 ∉ body)
    (hbody' : '*'.toUInt8 ∉ body')
    (heq : body ++ '*'.toUInt8 :: s = body' ++ '*'.toUInt8 :: s') : body = body' := by
  obtain ⟨u, hu, -⟩ := behind_of_free (P := (· == '*'.toUInt8)) (star_free hbody') (by decide) heq
  obtain ⟨v, hv, -⟩ :=
    behind_of_free (P := (· == '*'.toUInt8)) (star_free hbody) (by decide) heq.symm
  have hlen := congrArg List.length hu
  have hlen' := congrArg List.length hv
  rw [List.length_append] at hlen hlen'
  obtain rfl : u = [] := List.length_eq_zero_iff.mp (by omega)
  rw [hu, List.append_nil]

/-- Behind the separator of a line there are only digits up to the newline. -/
theorem hexDigits_behind_star {body crc a rest : List UInt8} {x nl nl' : UInt8}
    (hbody : '*'.toUInt8 ∉ body) (hcrc : HexDigits crc) (hnl : isNewLine nl)
    (ha : '*'.toUInt8 ∈ a)
    (heq : a ++ x :: (rest ++ [nl']) = body ++ '*'.toUInt8 :: (crc ++ [nl])) :
    HexDigits rest := by
  obtain ⟨u, v, rfl⟩ := List.append_of_mem ha
  rw [List.append_assoc, List.cons_append] at heq
  obtain ⟨t, -, ht⟩ := behind_of_free (P := (· == '*'.toUInt8)) (star_free hbody) (by decide) heq
  cases t with
  | nil =>
      have htail : (v ++ x :: rest) ++ [nl'] = crc ++ [nl] := by
        simpa using (List.cons.inj ht).2
      rw [← List.append_inj_left' htail rfl] at hcrc
      exact fun c hc => hcrc c (by simp [hc])
  | cons d t =>
      have hmem : '*'.toUInt8 ∈ crc ++ [nl] := by
        rw [← (List.cons.inj ht).2]
        simp
      exact absurd hmem (not_mem_crc hcrc hnl (by decide))

end Splitting

section Request

/-- Some prefix of `s` ends by completing the known request `m`. -/
def ReportsRequest (p : Protocol) (s : List UInt8) (m : RequestMsg) : Prop :=
  ∃ pre c post, s = pre ++ c :: post ∧
    (decodeRequest (run decodeRequest p pre) c).2 = .messageCompleted ∧
    (run decodeRequest p (pre ++ [c])).requestMsg = m ∧ m.code ≠ .unknown

theorem decodeRequest_completed {p : Protocol} {c : UInt8}
    (h : (decodeRequest p c).2 = .messageCompleted) : isNewLine c ∧ RequestLineEnds p := by
  have hnl : isNewLine c := by
    by_contra hnl
    revert h
    simp only [decodeRequest, decodeRequestDefault, requestError, hnl, if_false]
    repeat' split
    all_goals simp
  refine ⟨hnl, ?_⟩
  by_contra hends
  rw [decodeRequest_newLine_of_not_ends hnl hends] at h
  cases h

theorem silent_of_newLine_free {p : Protocol} {s : List UInt8}
    (hs : ∀ c ∈ s, isNewLine c = false) :
    ∀ o ∈ trace decodeRequest p s, o.1 ≠ .messageCompleted := by
  intro o ho hdone
  obtain ⟨pre, c, post, rfl, rfl⟩ := (mem_trace_iff decodeRequest p s o).mp ho
  have hnl := (decodeRequest_completed hdone).1
  rw [hs c (by simp)] at hnl
  cases hnl

/-- Without an earlier completion a report is the whole input, read as one valid line. -/
theorem validRequestLine_of_report {p : Protocol} (hs : p.rqState = .code) {pre : List UInt8}
    {c : UInt8} (hsilent : ∀ o ∈ trace decodeRequest p pre, o.1 ≠ .messageCompleted)
    (hdone : (decodeRequest (run decodeRequest p pre) c).2 = .messageCompleted)
    (hknown : (run decodeRequest p (pre ++ [c])).requestMsg.code ≠ .unknown) :
    ValidRequestLine (pre ++ [c]) (run decodeRequest p (pre ++ [c])).requestMsg := by
  rw [run_append, run_cons, run_nil] at hknown ⊢
  rcases readingRequest_step c (readingRequest_run hs pre hsilent) with h | h
  · exact absurd hdone h.1
  · exact h.2.2 hknown

/-- A proper prefix of a line never brings the automaton into the error state. -/
theorem requestLine_onTrack {p : Protocol} (hs : p.rqState = .code) {a rest : List UInt8}
    {x nl : UInt8} {m : RequestMsg} (hx : isNewLine x = false)
    (h : RequestLine (a ++ x :: (rest ++ [nl])) m) : (run decodeRequest p a).rqState ≠ .error := by
  intro herr
  obtain ⟨pre, last, heq, -, hpass⟩ := requestLine_passes p hs h
  have hpre : pre = a ++ x :: rest := by
    have heq' : (a ++ x :: rest) ++ [nl] = pre ++ [last] := by simpa using heq
    exact (List.append_inj_left' heq' rfl).symm
  have hquiet := hpass.quiet_of_mem _ ((mem_trace_iff decodeRequest p pre _).mpr
    ⟨a, x, rest, hpre, rfl⟩)
  rw [show decodeRequest (run decodeRequest p a) x = requestError (run decodeRequest p a) by
    simp [decodeRequest, decodeRequestDefault, herr, hx]] at hquiet
  cases hquiet

theorem RequestLine.star_mem {s : List UInt8} {m : RequestMsg} (h : RequestLine s m) :
    '*'.toUInt8 ∈ s := by
  cases h
  simp

/-- Cut off right behind the separator or later, a line still spells its fields. -/
theorem RequestLine.fields_of_cut {a t : List UInt8} {b : UInt8} {m m' : RequestMsg}
    (h : RequestLine (a ++ t) m) (h' : RequestLine (a ++ [b]) m') : m'.fields = m.fields := by
  generalize hs : a ++ t = s at h
  generalize hs' : a ++ [b] = s' at h'
  obtain ⟨hbody, hcrc, hnl⟩ := h
  obtain ⟨hbody', hcrc', hnl'⟩ := h'
  rename_i body crc m nl body' crc' m' nl'
  have ha : a = body' ++ '*'.toUInt8 :: crc' := by
    have heq : a ++ [b] = (body' ++ '*'.toUInt8 :: crc') ++ [nl'] := by simpa using hs'
    exact List.append_inj_left' heq rfl
  rw [ha, List.append_assoc, List.cons_append] at hs
  obtain rfl := body_eq_of_star hbody'.star_not_mem hbody.star_not_mem hs
  rw [hbody.unique hbody']
  rfl

/-- A newline inside a line is accepted only behind the separator. -/
theorem request_cut {p : Protocol} (hs : p.rqState = .code) {a rest : List UInt8}
    {x b nl : UInt8} {m : RequestMsg} (hline : RequestLine (a ++ x :: (rest ++ [nl])) m)
    (ha : ∀ d ∈ a, isNewLine d = false) (hx : isNewLine x = false) (hb : isNewLine b)
    (hrest : ∀ d ∈ rest, isNewLine d = false) {m' : RequestMsg}
    (hdone : (decodeRequest (run decodeRequest p (a ++ b :: rest)) nl).2 = .messageCompleted)
    (hm : (run decodeRequest p ((a ++ b :: rest) ++ [nl])).requestMsg = m') :
    m'.code = .unknown := by
  subst hm
  by_contra hknown
  have hread := readingRequest_run hs a (silent_of_newLine_free ha)
  rcases readingRequest_step b hread with ⟨hopen, -⟩ | ⟨hcut, hcode, -⟩
  · -- the new newline ended nothing, so the line read to the end has two newlines
    have hsilent : ∀ o ∈ trace decodeRequest p (a ++ b :: rest), o.1 ≠ .messageCompleted := by
      intro o ho
      rw [trace_append, trace_cons, List.mem_append, List.mem_cons] at ho
      rcases ho with ho | rfl | ho
      · exact silent_of_newLine_free ha o ho
      · exact hopen
      · exact silent_of_newLine_free hrest o ho
    have hvalid := validRequestLine_of_report hs hsilent hdone hknown
    obtain ⟨pre, nl', hpre, -, hfree⟩ := hvalid.1.newLine_last
    have hmem : b ∈ pre := by
      rw [← List.append_inj_left' hpre rfl]
      simp
    rw [hfree b hmem] at hb
    cases hb
  · -- the new newline ended a line, so the separator is before it and none is left
    have hstar : '*'.toUInt8 ∈ a := by
      rcases (decodeRequest_completed hcut).2 with herr | ⟨hcrc, -⟩
      · exact absurd herr (requestLine_onTrack hs hx hline)
      · rw [hcrc] at hread
        generalize (run decodeRequest p a).requestMsg = record at hread
        cases hread
        simp
    rw [run_append, run_cons] at hdone
    rw [List.append_assoc, List.cons_append, run_append, run_cons] at hknown
    obtain ⟨hvalid, -⟩ :=
      validRequestLine_of_report hcode (silent_of_newLine_free hrest) hdone hknown
    generalize hbytes : a ++ x :: (rest ++ [nl]) = bytes at hline
    obtain ⟨hbody, hcrc, hnl⟩ := hline
    have hdigits := hexDigits_behind_star hbody.star_not_mem hcrc hnl hstar hbytes
    have hend := (decodeRequest_completed hdone).1
    exact not_mem_crc hdigits hend (x := '*'.toUInt8) (by decide) hvalid.star_mem

theorem request_corruption {p : Protocol} (hs : p.rqState = .code) {s : List UInt8}
    {m m' : RequestMsg} (h : ValidRequestLine s m) (i : Nat) (b : UInt8)
    (hreport : ReportsRequest p (s.set i b) m') : m'.fields = m.fields := by
  obtain ⟨line, nl, rfl, hnl, hline⟩ := h.1.newLine_last
  obtain ⟨pre, c, post, heq, hdone, rfl, hknown⟩ := hreport
  have hc := (decodeRequest_completed hdone).1
  rcases set_line hline nl i b with ⟨line', y, hset, hline'⟩ | ⟨a, x, rest, rfl, hset, hb⟩
  · -- the only newline is the last byte, so the damaged line is accepted as a whole
    obtain ⟨rfl, rfl, rfl⟩ := split_at_end hline' hc (heq.symm.trans hset)
    have hvalid := validRequestLine_of_report hs (silent_of_newLine_free hline') hdone hknown
    rw [← heq] at hvalid
    refine (h.eq_of_distance ?_ (by simp) (mismatches_set_le _ i b)).symm
    rwa [← heq]
  · have hx : isNewLine x = false := hline x (by simp)
    have ha : ∀ d ∈ a, isNewLine d = false := fun d hd => hline d (by simp [hd])
    have hrest : ∀ d ∈ rest, isNewLine d = false := fun d hd => hline d (by simp [hd])
    have htrack := h.1
    rw [List.append_assoc, List.cons_append] at htrack
    obtain ⟨t, rfl, ht⟩ := behind_of_free ha hc (heq.symm.trans hset)
    cases t with
    | nil =>
        -- reported at the new newline: the part before it spells the fields
        rw [List.append_nil] at hdone hknown ⊢
        have hvalid := validRequestLine_of_report hs (silent_of_newLine_free ha) hdone hknown
        exact RequestLine.fields_of_cut htrack hvalid.1
    | cons d t =>
        obtain ⟨rfl, htail⟩ := List.cons.inj ht
        obtain ⟨rfl, rfl, rfl⟩ := split_at_end hrest hc htail
        exact absurd (request_cut hs htrack ha hx hb hrest hdone rfl) hknown

end Request

end MmuFirmware
