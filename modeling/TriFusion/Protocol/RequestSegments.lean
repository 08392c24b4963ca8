import TriFusion.Protocol.ControlOutcomes

namespace TriFusion.Protocol

open Foundation PrivateControlServer

variable {σ : Type}

namespace ControlCallbacks

def logging (callbacks : ControlCallbacks σ) : ControlCallbacks (σ × List ControlCallback) where
  mode := callbacks.mode.map fun callback targetMode y ↦
    ((callback targetMode y.1).1, (callback targetMode y.1).2, y.2 ++ [.mode targetMode])
  composite := callbacks.composite.map fun callback req y ↦
    ((callback req y.1).1, (callback req y.1).2, y.2 ++ [.composite req])
  configQuery := callbacks.configQuery.map fun callback y ↦
    ((callback y.1).1, (callback y.1).2, y.2 ++ [.configQuery])

end ControlCallbacks

namespace PrivateControlServer

def kRecvBufferSize : ℕ := 4096

/-- The one `recv` takes what has arrived first; without any data there is no answer. -/
def handleClient (callbacks : ControlCallbacks σ) (chunks : List Text) (s : PrivateControlServer)
    (x : σ) : Option Text × PrivateControlServer × σ :=
  let request := (chunks.headD []).take (kRecvBufferSize - 1)
  if request = [] then (none, s, x)
  else
    let (response, s, x) := handleHttpRequest callbacks request s x
    (some response, s, x)

structure Splits (request : Text) (chunks : List Text) : Prop where
  whole : chunks.flatten = request
  nonempty : ∀ chunk ∈ chunks, chunk ≠ []

/-- The response is the same, and so are the invocations of the callbacks. -/
def SameAnswer (r r' : Option Text × PrivateControlServer × σ × List ControlCallback) : Prop :=
  r.1 = r'.1 ∧ r.2.2.2 = r'.2.2.2

section Parsing

variable {text method path rest : Text}

theorem parsePath_cons (hm : ' ' ∉ method) :
    parsePath (method ++ ' ' :: rest) = if ' ' ∈ rest then rest.takeWhile (· ≠ ' ') else [] := by
  have hspace : ' ' ∈ method ++ ' ' :: rest := List.mem_append_right _ List.mem_cons_self
  simp only [parsePath, takeWhile_before hm, drop_before, hspace, true_and]

theorem parse_spaces (hm : ' ' ∉ method) (hp : ' ' ∉ path) :
    parseMethod (method ++ ' ' :: (path ++ ' ' :: rest)) = method ∧
      parsePath (method ++ ' ' :: (path ++ ' ' :: rest)) = path := by
  refine ⟨?_, ?_⟩
  · rw [parseMethod, if_pos (by simp), takeWhile_before hm]
  · rw [parsePath_cons hm, if_pos (by simp), takeWhile_before hp]

theorem exists_spaces (h : 2 ≤ text.count ' ') :
    ∃ method path rest, text = method ++ ' ' :: (path ++ ' ' :: rest) ∧ ' ' ∉ method ∧
      ' ' ∉ path := by
  have hfirst : ' ' ∈ text := List.count_pos_iff.mp (by omega)
  obtain ⟨method, more, rfl, hm⟩ := List.eq_append_cons_of_mem hfirst
  rw [List.count_append, List.count_eq_zero_of_not_mem hm, List.count_cons_self] at h
  have hsecond : ' ' ∈ more := List.count_pos_iff.mp (by omega)
  obtain ⟨path, rest, rfl, hp⟩ := List.eq_append_cons_of_mem hsecond
  exact ⟨method, path, rest, rfl, hm, hp⟩

theorem parse_append (h : 2 ≤ text.count ' ') (more : Text) :
    parseMethod (text ++ more) = parseMethod text ∧ parsePath (text ++ more) = parsePath text := by
  obtain ⟨method, path, rest, rfl, hm, hp⟩ := exists_spaces h
  obtain ⟨hmethod, hpath⟩ := @parse_spaces method path rest hm hp
  rw [hmethod, hpath]
  simpa using @parse_spaces method path (rest ++ more) hm hp

theorem parsePath_of_count (h : ¬2 ≤ text.count ' ') : parsePath text = [] := by
  by_cases hfirst : ' ' ∈ text
  · obtain ⟨method, rest, rfl, hm⟩ := List.eq_append_cons_of_mem hfirst
    rw [List.count_append, List.count_eq_zero_of_not_mem hm, List.count_cons_self] at h
    have hsecond : ' ' ∉ rest := by
      intro hr
      have hpos := List.count_pos_iff.mpr hr
      omega
    rw [parsePath_cons hm, if_neg hsecond]
  · exact if_neg fun hs ↦ hfirst hs.1

end Parsing

section Segments

variable (callbacks : ControlCallbacks σ) (s : PrivateControlServer) (x : σ) {request : Text}
  {chunks : List Text}

theorem handleHttpRequest_congr {request request' : Text}
    (hm : parseMethod request = parseMethod request')
    (hp : parsePath request = parsePath request') :
    handleHttpRequest callbacks request s x = handleHttpRequest callbacks request' s x := by
  unfold handleHttpRequest
  rw [hm, hp]

theorem handleClient_of_fits {first : Text} {rest : List Text} (hf : first ≠ [])
    (hl : first.length ≤ kRecvBufferSize - 1) :
    handleClient callbacks (first :: rest) s x =
      let (response, s, x) := handleHttpRequest callbacks first s x
      (some response, s, x) := by
  simp only [handleClient, List.headD_cons, List.take_of_length_le hl, hf, if_false]

/-- The answer to a request that fits the buffer does not depend on how it is split exactly when
its first chunk holds the first two spaces, or its path has no handler. -/
theorem segmentation_free_iff (hfits : request.length ≤ kRecvBufferSize - 1)
    (hsplit : Splits request chunks) :
    SameAnswer (handleClient callbacks.logging chunks s (x, []))
        (handleClient callbacks.logging [request] s (x, [])) ↔
      2 ≤ (chunks.headD []).count ' ' ∨ isRoute (parsePath request) = false := by
  obtain ⟨rfl, hn⟩ := hsplit
  cases chunks with
  | nil => exact iff_of_true ⟨rfl, rfl⟩ (.inr (by decide))
  | cons first rest =>
    have hf : first ≠ [] := hn first List.mem_cons_self
    rw [List.flatten_cons] at hfits ⊢
    have hl : first.length ≤ kRecvBufferSize - 1 := by
      rw [List.length_append] at hfits
      omega
    have hr : first ++ rest.flatten ≠ [] := List.append_ne_nil_of_left_ne_nil hf _
    rw [handleClient_of_fits callbacks.logging s (x, []) hf hl,
      handleClient_of_fits callbacks.logging s (x, []) hr hfits, List.headD_cons]
    by_cases hspaces : 2 ≤ first.count ' '
    · obtain ⟨hm, hp⟩ := parse_append hspaces rest.flatten
      rw [handleHttpRequest_congr callbacks.logging s (x, []) hm hp]
      exact iff_of_true ⟨rfl, rfl⟩ (.inl hspaces)
    have hfirst : isRoute (parsePath first) = false := by
      rw [parsePath_of_count hspaces]
      decide
    rw [handleHttpRequest_unrouted callbacks.logging hfirst]
    cases hroute : isRoute (parsePath (first ++ rest.flatten)) with
    | false =>
      rw [handleHttpRequest_unrouted callbacks.logging hroute]
      exact iff_of_true ⟨rfl, rfl⟩ (.inr rfl)
    | true =>
      refine iff_of_false ?_ (by simp [hspaces])
      intro h
      have hfound := handleHttpRequest_routed (s := s) (x := (x, [])) callbacks.logging hroute
      rw [← Option.some.inj h.1] at hfound
      exact not_found_of_404 _ _ hfound

theorem segmentation_free_in_headers :
    let request := "POST /api/v1/mode/visible HTTP/1.1\r\nHost: cam\r\n\r\n".toList
    let chunks := ["POST /api/v1/mode/visible HT".toList, "TP/1.1\r\nHost: cam\r\n\r\n".toList]
    let callbacks : ControlCallbacks Unit := { mode := some fun _ x ↦ ({ ok := true }, x) }
    SameAnswer (handleClient callbacks.logging chunks {} ((), []))
      (handleClient callbacks.logging [request] {} ((), [])) := by
  intro request chunks callbacks
  have hsplit : Splits request chunks := ⟨by decide, by decide⟩
  exact (segmentation_free_iff callbacks {} () (by decide) hsplit).mpr (.inl (by decide))

/-- A request whose path is cut is not found, and its callback is not invoked. -/
theorem split_path_not_found :
    ¬∀ (callbacks : ControlCallbacks Unit) (s : PrivateControlServer) (request : Text)
      (chunks : List Text), "\r\n\r\n".toList <:+ request →
      request.length ≤ kRecvBufferSize - 1 → Splits request chunks →
        SameAnswer (handleClient callbacks.logging chunks s ((), []))
          (handleClient callbacks.logging [request] s ((), [])) := by
  intro h
  have hsame := h { mode := some fun _ x ↦ ({ ok := true }, x) } {}
    "POST /api/v1/mode/visible HTTP/1.1\r\n\r\n".toList
    ["POST /api/v1/mo".toList, "de/visible HTTP/1.1\r\n\r\n".toList]
    (by decide) (by decide) ⟨by decide, by decide⟩
  exact absurd hsame.2 (by decide)

end Segments

end PrivateControlServer

end TriFusion.Protocol
