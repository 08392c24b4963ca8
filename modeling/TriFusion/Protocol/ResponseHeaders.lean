import TriFusion.Foundation.Scalars
import TriFusion.Library.EndedLines
import TriFusion.Protocol.RtspSession

namespace TriFusion.Protocol.RtspServer

open Foundation Library

def NamesCSeq (line : Text) : Prop :=
  ∃ key value, line = key ++ ':' :: value ∧ ':' ∉ key ∧ lower (trim key) = "cseq".toList

/-- The sequence number of a request: the value of its first `CSeq` line, or 1. -/
inductive CSeqOf (request : Text) : Text → Prop
  | given {before after : List Text} {key value : Text} :
    getlines request = before ++ (key ++ ':' :: value) :: after →
      (∀ line ∈ before, ¬NamesCSeq line) → ':' ∉ key → lower (trim key) = "cseq".toList →
        trim value ≠ [] → CSeqOf request (trim value)
  | blank {before after : List Text} {key value : Text} :
    getlines request = before ++ (key ++ ':' :: value) :: after →
      (∀ line ∈ before, ¬NamesCSeq line) → ':' ∉ key → lower (trim key) = "cseq".toList →
        trim value = [] → CSeqOf request "1"
  | absent : (∀ line ∈ getlines request, ¬NamesCSeq line) → CSeqOf request "1"

def headerLines (config : RtspServerConfig) (request cseq : Text) : List Text :=
  let method := getMethod request
  let sequence := "CSeq: ".toList ++ cseq
  if method = "OPTIONS" then
    ["RTSP/1.0 200 OK", sequence, "Public: OPTIONS, DESCRIBE, SETUP, PLAY, TEARDOWN"]
  else if method = "DESCRIBE" then
    ["RTSP/1.0 200 OK", sequence,
      "Content-Base: ".toList ++ baseUrl config request ++ "/".toList,
      "Content-Type: application/sdp",
      "Content-Length: ".toList ++ decimal sessionDescription.length]
  else if method = "SETUP" then
    ["RTSP/1.0 200 OK", sequence, "Transport: RTP/AVP/TCP;unicast;interleaved=0-1",
      "Session: tri-fusion-rtsp"]
  else if method = "PLAY" then
    ["RTSP/1.0 200 OK", sequence, "Session: tri-fusion-rtsp",
      "RTP-Info: url=".toList ++ config.path ++ "/trackID=0;seq=0;rtptime=0".toList]
  else if method = "TEARDOWN" then ["RTSP/1.0 200 OK", sequence, "Session: tri-fusion-rtsp"]
  else ["RTSP/1.0 405 Method Not Allowed", sequence]

def headerBlock (text : Text) : List Text :=
  EndedLines.split '\r' '\n' (EndedLines.head '\r' '\n' text)

variable {config : RtspServerConfig} {request line : Text} {c : Char}

theorem mem_of_mem_trim {s : Text} (h : c ∈ trim s) : c ∈ s := by
  have hr := (List.dropWhile_sublist _).subset h
  rw [List.mem_reverse] at hr
  have hs := (List.dropWhile_sublist _).subset hr
  rwa [List.mem_reverse] at hs

theorem mem_getHeader {name : Text} (h : c ∈ getHeader request name) :
    ∃ line ∈ getlines request, c ∈ line := by
  unfold getHeader at h
  dsimp only at h
  split at h
  · cases h
  · rename_i line hf
    have hd := List.mem_of_mem_drop (mem_of_mem_trim h)
    exact ⟨line, List.mem_of_find?_eq_some hf, (List.dropWhile_sublist _).subset hd⟩

theorem newline_not_mem_getHeader (request name : Text) : '\n' ∉ getHeader request name := by
  intro h
  obtain ⟨line, hl, hm⟩ := mem_getHeader h
  exact not_mem_of_mem_getlines hl hm

theorem newline_not_mem_getCSeq (request : Text) : '\n' ∉ getCSeq request := by
  unfold getCSeq
  dsimp only
  split
  · decide
  · exact newline_not_mem_getHeader request "CSeq"

theorem newline_not_mem_decimal (n : ℕ) : '\n' ∉ decimal n := by
  intro h
  exact absurd (isDigit_of_mem_decimal h) (by decide)

theorem newline_not_mem_baseUrl (hpath : '\n' ∉ config.path) (request : Text) :
    '\n' ∉ baseUrl config request := by
  have hhost := newline_not_mem_getHeader request "Host"
  have hport := newline_not_mem_decimal config.port.toNat
  unfold baseUrl
  dsimp only
  split <;> simp_all

section Named

variable {key value : Text}

theorem takeWhile_key (hk : ':' ∉ key) :
    (key ++ ':' :: value).takeWhile (· != ':') = key ∧
      (key ++ ':' :: value).dropWhile (· != ':') = ':' :: value := by
  have hall : ∀ c ∈ key, (c != ':') = true := by
    intro c hc
    rw [bne_iff_ne]
    intro he
    exact hk (he ▸ hc)
  rw [List.takeWhile_append_of_pos hall, List.dropWhile_append_of_pos hall]
  simp

theorem eq_key_value (h : ':' ∈ line) :
    ∃ key value, line = key ++ ':' :: value ∧ ':' ∉ key := by
  obtain ⟨key, value, he, hk⟩ := List.eq_append_cons_of_mem h
  exact ⟨key, value, he, hk⟩

theorem namesCSeq_iff : NamesCSeq line ↔
    (line.contains ':' && lower (trim (line.takeWhile (· != ':'))) == lower "CSeq") = true := by
  have hname : lower "CSeq" = "cseq".toList := by decide
  rw [Bool.and_eq_true, beq_iff_eq, List.contains_iff_mem, hname]
  constructor
  · intro h
    obtain ⟨key, value, rfl, hk, hn⟩ := h
    rw [(takeWhile_key hk).1]
    exact ⟨by simp, hn⟩
  · intro h
    obtain ⟨hm, hn⟩ := h
    obtain ⟨key, value, rfl, hk⟩ := eq_key_value hm
    rw [(takeWhile_key hk).1] at hn
    exact ⟨key, value, rfl, hk, hn⟩

end Named

theorem getCSeq_spec (request : Text) : CSeqOf request (getCSeq request) := by
  unfold getCSeq getHeader
  dsimp only
  split
  · rename_i hf
    refine .absent fun line hl hn ↦ ?_
    exact absurd (namesCSeq_iff.mp hn) (List.find?_eq_none.mp hf line hl)
  · rename_i line hf
    obtain ⟨hp, before, after, he, hbefore⟩ := List.find?_eq_some_iff_append.mp hf
    obtain ⟨key, value, rfl, hk, hn⟩ := namesCSeq_iff.mpr hp
    have hfirst : ∀ line ∈ before, ¬NamesCSeq line := by
      intro line hl hnames
      have hnot := hbefore line hl
      rw [namesCSeq_iff.mp hnames] at hnot
      cases hnot
    rw [(takeWhile_key hk).2, List.drop_one, List.tail_cons]
    split
    · rename_i hv
      exact .blank he hfirst hk hn hv
    · rename_i hv
      exact .given he hfirst hk hn hv

/-- An answer is its header lines, an empty line and, for DESCRIBE, the description. -/
theorem response_eq (config : RtspServerConfig) (request : Text) :
    ∃ body, response config request =
      EndedLines.ended '\r' '\n' (headerLines config request (getCSeq request)) ++
        '\r' :: '\n' :: body := by
  unfold response headerLines EndedLines.ended
  dsimp only
  split_ifs
  · refine ⟨[], ?_⟩
    unfold makeOptionsResponse
    simp only [List.flatMap_cons, List.flatMap_nil]
    repeat rw [String.toList_ofList]
    simp only [List.cons_append, List.nil_append, List.append_assoc]
  · refine ⟨sessionDescription, ?_⟩
    unfold makeDescribeResponse
    simp only [List.flatMap_cons, List.flatMap_nil]
    repeat rw [String.toList_ofList]
    simp only [List.cons_append, List.nil_append, List.append_assoc]
  · refine ⟨[], ?_⟩
    unfold makeSetupResponse
    simp only [List.flatMap_cons, List.flatMap_nil]
    repeat rw [String.toList_ofList]
    simp only [List.cons_append, List.nil_append, List.append_assoc]
  · refine ⟨[], ?_⟩
    unfold makePlayResponse
    simp only [List.flatMap_cons, List.flatMap_nil]
    repeat rw [String.toList_ofList]
    simp only [List.cons_append, List.nil_append, List.append_assoc]
  · refine ⟨[], ?_⟩
    unfold makeTeardownResponse
    simp only [List.flatMap_cons, List.flatMap_nil]
    repeat rw [String.toList_ofList]
    simp only [List.cons_append, List.nil_append, List.append_assoc]
  · refine ⟨[], ?_⟩
    unfold makeErrorResponse
    have hcode : decimal 405 = "405".toList := by decide
    simp only [hcode, List.flatMap_cons, List.flatMap_nil]
    repeat rw [String.toList_ofList]
    simp only [List.cons_append, List.nil_append, List.append_assoc]

theorem headerLines_ne_nil (config : RtspServerConfig) (request cseq : Text) :
    headerLines config request cseq ≠ [] := by
  unfold headerLines
  dsimp only
  split_ifs <;> exact List.cons_ne_nil _ _

theorem headerLines_plain (hpath : '\n' ∉ config.path) (request : Text) :
    ∀ line ∈ headerLines config request (getCSeq request), line ≠ [] ∧ '\n' ∉ line := by
  have hcseq := newline_not_mem_getCSeq request
  have hurl := newline_not_mem_baseUrl hpath request
  have hlength := newline_not_mem_decimal sessionDescription.length
  unfold headerLines
  dsimp only
  split_ifs <;> simp [hcseq, hurl, hlength, hpath]

/-- The header block of an answer is cut into the lines of its builder, whatever the
client put into its headers. -/
theorem headerBlock_response (hpath : '\n' ∉ config.path) (request : Text) :
    headerBlock (response config request) = headerLines config request (getCSeq request) := by
  obtain ⟨body, he⟩ := response_eq config request
  rw [headerBlock, he]
  exact EndedLines.split_head (by decide) (headerLines_ne_nil config request _)
    (headerLines_plain hpath request) body

end TriFusion.Protocol.RtspServer
