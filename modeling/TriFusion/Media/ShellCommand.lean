import TriFusion.Library.Shell
import TriFusion.Media.GStreamerPipeline

namespace TriFusion.Media

open Foundation Library

namespace GStreamerPipelineBuilder

/-- `std::isalnum` in the C locale, or one of the five characters that `shellQuote` leaves alone. -/
def isPlain (c : Char) : Bool := c.isAlphanum || ['_', '-', '/', '.', '='].contains c

def quotedChar (c : Char) : Text := if c = '\'' then "'\\''" else [c]

def shellQuote (value : Text) : Text :=
  if value = [] then "''"
  else if value.all isPlain then value
  else '\'' :: value.flatMap quotedChar ++ ['\'']

def toShellCommand (args : List Text) : Text := List.intercalate [' '] (args.map shellQuote)

theorem isPlain_not_mark {c : Char} (h : isPlain c = true) : c ∉ Shell.marks := by
  have hmarks : Shell.marks.all (fun mark ↦ !isPlain mark) = true := by decide
  intro hc
  have hplain := List.all_eq_true.mp hmarks c hc
  rw [h] at hplain
  cases hplain

def quotedPieces (c : Char) : List Shell.Piece :=
  if c = '\'' then [.quoting '\'', .quoting '\\', .quoted '\'', .quoting '\'']
  else [.quoted c]

theorem scan_quotedChar (done : List Shell.Token) (pieces : List Shell.Piece) (c : Char) :
    (Shell.within done pieces .single).scan (quotedChar c) =
      .ok (Shell.within done (pieces ++ quotedPieces c) .single) := by
  unfold quotedChar quotedPieces
  split
  · exact Shell.scan_reopened
  · rename_i hc
    rw [Shell.Scanner.scan, Shell.step_single hc]
    rfl

theorem scan_quoted (done : List Shell.Token) (pieces : List Shell.Piece) (value : Text) :
    (Shell.within done pieces .single).scan (value.flatMap quotedChar) =
      .ok (Shell.within done (pieces ++ value.flatMap quotedPieces) .single) := by
  induction value generalizing pieces with
  | nil =>
    rw [List.flatMap_nil, List.flatMap_nil, List.append_nil]
    rfl
  | cons c rest ih =>
    rw [List.flatMap_cons, List.flatMap_cons, Shell.Scanner.scan_append (scan_quotedChar _ _ c),
      ih, List.append_assoc]

theorem removeQuotes_quoted (value : Text) :
    Shell.removeQuotes (value.flatMap quotedPieces) = value := by
  induction value with
  | nil => rfl
  | cons c rest ih =>
    have hc : Shell.removeQuotes (quotedPieces c) = [c] := by
      unfold quotedPieces
      split
      · rename_i hc
        rw [hc]
        rfl
      · rfl
    rw [List.flatMap_cons, Shell.removeQuotes_append, ih, hc]
    rfl

theorem inert_quoted (value : Text) :
    Shell.Inert ([.quoting '\''] ++ value.flatMap quotedPieces ++ [.quoting '\'']) := by
  have hbare (c c' : Char) : Shell.Piece.bare c ∉ quotedPieces c' := by
    unfold quotedPieces
    split <;> simp
  intro c _ h
  simp only [List.mem_append, List.mem_singleton, List.mem_flatMap, reduceCtorEq, false_or,
    or_false] at h
  obtain ⟨c', -, h⟩ := h
  exact hbare c c' h

theorem shellQuote_spells (value : Text) : Shell.Spells (shellQuote value) value := by
  unfold shellQuote
  split
  · rename_i hv
    subst hv
    intro done
    exact ⟨[.quoting '\'', .quoting '\''], rfl, rfl, inert_quoted []⟩
  · rename_i hv
    split
    · rename_i hplain
      refine Shell.spells_ordinary hv fun c hc ↦ isPlain_not_mark ?_
      exact List.all_eq_true.mp hplain c hc
    · intro done
      refine ⟨[.quoting '\''] ++ value.flatMap quotedPieces ++ [.quoting '\''], ?_, ?_,
        inert_quoted value⟩
      · have hopen : Shell.Scanner.scan { done := done } ['\''] =
            .ok (Shell.within done [.quoting '\''] .single) := rfl
        have hclose (pieces : List Shell.Piece) :
            (Shell.within done pieces .single).scan ['\''] =
              .ok (Shell.within done (pieces ++ [.quoting '\'']) .bare) := rfl
        change Shell.Scanner.scan { done := done }
          ((['\''] ++ value.flatMap quotedChar) ++ ['\'']) = _
        rw [List.append_assoc, Shell.Scanner.scan_append hopen,
          Shell.Scanner.scan_append (scan_quoted _ _ value), hclose]
        rfl
      · rw [Shell.removeQuotes_append, Shell.removeQuotes_append, removeQuotes_quoted]
        exact List.append_nil value

/-- The shell reads the command as the arguments, whatever is in them, and expands nothing. -/
theorem toShellCommand_words (args : List Text) :
    ∃ words : List (List Shell.Piece),
      Shell.tokenize (toShellCommand args) = .ok (words.map .word) ∧
        words.map Shell.removeQuotes = args ∧ ∀ word ∈ words, Shell.Inert word := by
  have hspells : List.Forall₂ Shell.Spells (args.map shellQuote) args := by
    induction args with
    | nil => exact .nil
    | cons value rest ih => exact .cons (shellQuote_spells value) ih
  exact Shell.tokenize_spelled hspells

end GStreamerPipelineBuilder

end TriFusion.Media
