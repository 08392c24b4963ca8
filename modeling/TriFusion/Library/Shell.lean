import Mathlib.Data.List.Basic

namespace TriFusion.Library.Shell

/-- A character of a word: as it stands, quoted, or one of those that quote. -/
inductive Piece
  | bare (c : Char)
  | quoted (c : Char)
  | quoting (c : Char)
  deriving DecidableEq, Repr

inductive Token
  | word (pieces : List Piece)
  | operator (text : List Char)
  deriving DecidableEq, Repr

/-- What ends the reading of a line: a quotation that is not closed, or the start of a
text that does not follow the rules for tokens. -/
inductive Fault
  | unterminated
  | substitution
  | hereDocument
  deriving DecidableEq, Repr

inductive Mode
  | bare
  | escaped
  | single
  | double
  | doubleEscaped
  | comment
  deriving DecidableEq, Repr

structure Scanner where
  done : List Token := []
  current : Option Token := none
  mode : Mode := .bare
  deriving DecidableEq, Repr

def operators : List (List Char) :=
  [['&'], ['|'], [';'], ['<'], ['>'], ['('], [')'], ['\n'], ['&', '&'], ['|', '|'], [';', ';'],
    ['<', '<'], ['>', '>'], ['<', '&'], ['>', '&'], ['<', '>'], ['>', '|']]

def blanks : List Char := [' ', '\t']

namespace Scanner

def pieces (s : Scanner) : List Piece :=
  match s.current with
  | some (.word pieces) => pieces
  | _ => []

def operator (s : Scanner) : Option (List Char) :=
  match s.current with
  | some (.operator text) => some text
  | _ => none

def delimit (s : Scanner) : Scanner :=
  { s with done := s.done ++ s.current.toList, current := none }

def closeOperator (s : Scanner) : Scanner := if s.operator.isSome then s.delimit else s

def put (piece : Piece) (s : Scanner) : Scanner :=
  { s.closeOperator with current := some (.word (s.pieces ++ [piece])) }

/-- A character that nothing quotes and that does not extend an operator. -/
def stepBare (c : Char) (s : Scanner) : Except Fault Scanner :=
  if c = '\\' then .ok { s with mode := .escaped }
  else if c = '\'' then .ok { s.put (.quoting c) with mode := .single }
  else if c = '"' then .ok { s.put (.quoting c) with mode := .double }
  else if c = '$' ∨ c = '\x60' then .error .substitution
  else if operators.contains [c] then .ok { s.delimit with current := some (.operator [c]) }
  else if c ∈ blanks then .ok s.delimit
  else if c = '#' ∧ s.closeOperator.current = none then
    .ok { s.closeOperator with mode := .comment }
  else .ok (s.put (.bare c))

def stepOperator (c : Char) (s : Scanner) : Except Fault Scanner :=
  match s.operator with
  | none => s.stepBare c
  | some text =>
    if text ++ [c] = ['<', '<'] then .error .hereDocument
    else if operators.contains (text ++ [c]) then
      .ok { s with current := some (.operator (text ++ [c])) }
    else s.stepBare c

/-- The token recognition of the POSIX shell; a backslash and a newline after it vanish. -/
def step (s : Scanner) (c : Char) : Except Fault Scanner :=
  match s.mode with
  | .bare => s.stepOperator c
  | .escaped =>
    if c = '\n' then .ok { s with mode := .bare }
    else .ok { (s.put (.quoting '\\')).put (.quoted c) with mode := .bare }
  | .single =>
    if c = '\'' then .ok { s.put (.quoting c) with mode := .bare }
    else .ok (s.put (.quoted c))
  | .double =>
    if c = '"' then .ok { s.put (.quoting c) with mode := .bare }
    else if c = '\\' then .ok { s with mode := .doubleEscaped }
    else if c = '$' ∨ c = '\x60' then .error .substitution
    else .ok (s.put (.quoted c))
  | .doubleEscaped =>
    if c = '\n' then .ok { s with mode := .double }
    else if c ∈ ['$', '\x60', '"', '\\'] then
      .ok { (s.put (.quoting '\\')).put (.quoted c) with mode := .double }
    else .ok { (s.put (.quoted '\\')).put (.quoted c) with mode := .double }
  | .comment => if c = '\n' then { s with mode := .bare }.stepOperator c else .ok s

def scan (s : Scanner) : List Char → Except Fault Scanner
  | [] => .ok s
  | c :: rest =>
    match s.step c with
    | .error fault => .error fault
    | .ok s => scan s rest

def finish (s : Scanner) : Except Fault (List Token) :=
  if s.mode = .bare ∨ s.mode = .comment then .ok s.delimit.done else .error .unterminated

theorem scan_append {s s' : Scanner} {first : List Char} (h : s.scan first = .ok s')
    (second : List Char) : s.scan (first ++ second) = s'.scan second := by
  induction first generalizing s with
  | nil =>
    obtain rfl := Except.ok.inj h
    rfl
  | cons c rest ih =>
    rw [scan] at h
    rw [List.cons_append, scan]
    cases hs : s.step c with
    | error fault =>
      rw [hs] at h
      cases h
    | ok s₁ =>
      rw [hs] at h
      exact ih h

end Scanner

def tokenize (input : List Char) : Except Fault (List Token) :=
  match Scanner.scan {} input with
  | .error fault => .error fault
  | .ok s => s.finish

def removeQuotes (pieces : List Piece) : List Char :=
  pieces.filterMap fun
    | .bare c => some c
    | .quoted c => some c
    | .quoting _ => none

def expanded : List Char := ['~', '*', '?', '[', '$', '\x60']

def Inert (pieces : List Piece) : Prop := ∀ c ∈ expanded, .bare c ∉ pieces

/-- A text that is read, whatever came before it, as one word that stands for `word` and
in which nothing is expanded. -/
def Spells (text word : List Char) : Prop :=
  ∀ done, ∃ pieces,
    Scanner.scan { done := done } text = .ok { done := done, current := some (.word pieces) } ∧
      removeQuotes pieces = word ∧ Inert pieces

def marks : List Char :=
  ['\\', '\'', '"', '$', '\x60', '&', '|', ';', '<', '>', '(', ')', '\n', ' ', '\t', '#', '~',
    '*', '?', '[']

section Scan

variable {c : Char} {s s' : Scanner} {done : List Token} {pieces : List Piece}

theorem step_ordinary (hm : s.mode = .bare) (ho : s.operator = none) (hc : c ∉ marks) :
    s.step c = .ok (s.put (.bare c)) := by
  have hne (mark : Char) (h : mark ∈ marks) : c ≠ mark := fun he ↦ hc (he ▸ h)
  have hop : ¬operators.contains [c] = true := by
    intro h
    have h := List.elem_iff.mp h
    simp only [operators, List.mem_cons, List.cons.injEq, and_true, List.not_mem_nil, or_false,
      reduceCtorEq, and_false] at h
    rcases h with h | h | h | h | h | h | h | h <;> exact hne _ (by decide) h
  have hblank : c ∉ blanks := by
    intro h
    simp only [blanks, List.mem_cons, List.not_mem_nil, or_false] at h
    rcases h with h | h <;> exact hne _ (by decide) h
  have hsubstitution : ¬(c = '$' ∨ c = '\x60') := by
    intro h
    rcases h with h | h <;> exact hne _ (by decide) h
  unfold Scanner.step
  rw [hm]
  unfold Scanner.stepOperator
  rw [ho]
  unfold Scanner.stepBare
  rw [if_neg (hne '\\' (by decide)), if_neg (hne '\'' (by decide)), if_neg (hne '"' (by decide)),
    if_neg hsubstitution, if_neg hop, if_neg hblank, if_neg fun h ↦ hne '#' (by decide) h.1]

def within (done : List Token) (pieces : List Piece) (mode : Mode) : Scanner :=
  { done := done, current := some (.word pieces), mode := mode }

theorem scan_ordinary {text : List Char} (h : ∀ c ∈ text, c ∉ marks) :
    (within done pieces .bare).scan text = .ok (within done (pieces ++ text.map .bare) .bare) := by
  induction text generalizing pieces with
  | nil =>
    rw [List.map_nil, List.append_nil]
    rfl
  | cons c rest ih =>
    have hc : c ∉ marks := h c List.mem_cons_self
    have hput : (within done pieces .bare).put (.bare c) =
        within done (pieces ++ [.bare c]) .bare := rfl
    rw [Scanner.scan, step_ordinary rfl rfl hc, hput]
    dsimp only
    rw [ih fun c hc ↦ h c (List.mem_cons_of_mem _ hc), List.append_assoc]
    rfl

theorem step_single (hc : c ≠ '\'') :
    (within done pieces .single).step c = .ok (within done (pieces ++ [.quoted c]) .single) :=
  if_neg hc

/-- A single quote between single quotes: the quotation is closed, the quote escaped and
the quotation opened again. -/
theorem scan_reopened : (within done pieces .single).scan ['\'', '\\', '\'', '\''] =
    .ok (within done (pieces ++ [.quoting '\'', .quoting '\\', .quoted '\'', .quoting '\''])
      .single) := by
  have h : (within done pieces .single).scan ['\'', '\\', '\'', '\''] =
      .ok (within done ((((pieces ++ [.quoting '\'']) ++ [.quoting '\\']) ++ [.quoted '\'']) ++
        [.quoting '\'']) .single) := rfl
  rw [h, List.append_assoc, List.append_assoc, List.append_assoc]
  rfl

end Scan

theorem removeQuotes_append (first second : List Piece) :
    removeQuotes (first ++ second) = removeQuotes first ++ removeQuotes second :=
  List.filterMap_append

theorem removeQuotes_bare (text : List Char) : removeQuotes (text.map .bare) = text := by
  unfold removeQuotes
  rw [List.filterMap_map]
  exact List.filterMap_some

theorem inert_bare {text : List Char} (h : ∀ c ∈ text, c ∉ marks) : Inert (text.map .bare) := by
  intro c hc hmem
  obtain ⟨c', hc', he⟩ := List.mem_map.mp hmem
  obtain rfl := Piece.bare.inj he
  have hexpanded : expanded.all (fun c ↦ c ∈ marks) = true := by decide
  exact h c' hc' (of_decide_eq_true (List.all_eq_true.mp hexpanded c' hc))

theorem spells_ordinary {text : List Char} (hne : text ≠ []) (h : ∀ c ∈ text, c ∉ marks) :
    Spells text text := by
  intro done
  refine ⟨text.map .bare, ?_, removeQuotes_bare text, inert_bare h⟩
  cases text with
  | nil => exact absurd rfl hne
  | cons c rest =>
    have hput : ({ done := done } : Scanner).put (.bare c) = within done [.bare c] .bare := rfl
    rw [Scanner.scan, step_ordinary rfl rfl (h c List.mem_cons_self), hput]
    dsimp only
    rw [scan_ordinary fun c hc ↦ h c (List.mem_cons_of_mem _ hc)]
    rfl

/-- Texts that spell words, with blanks between them, are read as those words. -/
theorem scan_spelled {texts words : List (List Char)} (h : List.Forall₂ Spells texts words)
    (done : List Token) : ∃ tokens : List (List Piece), tokens.map removeQuotes = words ∧
      (∀ token ∈ tokens, Inert token) ∧
      ∃ s, Scanner.scan { done := done } (List.intercalate [' '] texts) = .ok s ∧
        s.finish = .ok (done ++ tokens.map .word) := by
  induction h generalizing done with
  | nil => exact ⟨[], rfl, fun _ h ↦ absurd h List.not_mem_nil, _, rfl, rfl⟩
  | @cons text word texts words hspells hrest ih =>
    obtain ⟨pieces, hscan, hword, hinert⟩ := hspells done
    cases hrest with
    | nil =>
      refine ⟨[pieces], by rw [List.map_singleton, hword], ?_, within done pieces .bare, ?_, rfl⟩
      · intro token ht
        obtain rfl := List.mem_singleton.mp ht
        exact hinert
      · rw [List.intercalate_singleton]
        exact hscan
    | @cons text' word' texts words hspells' hrest =>
      obtain ⟨tokens, hwords, hall, s, hs, hfinish⟩ := ih (done ++ [.word pieces])
      refine ⟨pieces :: tokens, by rw [List.map_cons, hword, hwords], ?_, s, ?_, ?_⟩
      · intro token ht
        rcases List.mem_cons.mp ht with rfl | ht
        · exact hinert
        · exact hall token ht
      · rw [List.intercalate_cons_cons, List.append_assoc, Scanner.scan_append hscan]
        exact hs
      · rw [hfinish, List.append_assoc]
        rfl

theorem tokenize_spelled {texts words : List (List Char)} (h : List.Forall₂ Spells texts words) :
    ∃ tokens : List (List Piece),
      tokenize (List.intercalate [' '] texts) = .ok (tokens.map .word) ∧
        tokens.map removeQuotes = words ∧ ∀ token ∈ tokens, Inert token := by
  obtain ⟨tokens, hwords, hall, s, hs, hfinish⟩ := scan_spelled h []
  refine ⟨tokens, ?_, hwords, hall⟩
  unfold tokenize
  rw [hs]
  exact hfinish

example : tokenize "a'b c'\\d&& \"*\" # e".toList = .ok
    [.word [.bare 'a', .quoting '\'', .quoted 'b', .quoted ' ', .quoted 'c', .quoting '\'',
      .quoting '\\', .quoted 'd'], .operator ['&', '&'],
      .word [.quoting '"', .quoted '*', .quoting '"']] := by
  decide +kernel

end TriFusion.Library.Shell
