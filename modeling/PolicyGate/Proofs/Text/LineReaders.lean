import PolicyGate.Proofs.Text.Lines

/-!
Readers of single lines, run over a whole text. One that makes nothing of an empty line, and the
same of a line whether or not a return ends it, reads the pieces between line feeds. So it reads
each line on its own, however the last of them ends.
-/

namespace PolicyGate.Text

theorem map_trim_splitFrom_concat {isSeparator : Char → Bool} {c : Char}
    (blank : isBlank c = true) (joins : isSeparator c = false) (piece text : List Char) :
    (splitFrom isSeparator piece (text ++ [c])).map trim =
      (splitFrom isSeparator piece text).map trim := by
  induction text generalizing piece with
  | nil => simp [splitFrom, joins, trim_concat blank]
  | cons first text ih =>
      simp only [List.cons_append, splitFrom]
      split
      · rw [List.map_cons, List.map_cons, ih]
      · exact ih _

/-- A reader for which line ends are no part of a line. -/
structure SparesLineEnds {α : Type} (read : List Char → Option α) : Prop where
  empty : read [] = none
  returned (line : List Char) : read (line ++ ['\r']) = read line

namespace SparesLineEnds

variable {α : Type} {read : List Char → Option α}

theorem closeLine (spares : SparesLineEnds read) (piece : List Char) :
    read (closeLine piece) = read piece.reverse := by
  unfold Text.closeLine
  split
  · next line => rw [List.reverse_cons, spares.returned]
  · rfl

theorem filterMap_linesFrom (spares : SparesLineEnds read) (piece text : List Char) :
    (linesFrom piece text).filterMap read =
      (splitFrom (· = '\n') piece text).filterMap read := by
  induction text generalizing piece with
  | nil =>
      by_cases bare : piece = []
      · simp [linesFrom, splitFrom, bare, spares.empty]
      · simp [linesFrom, splitFrom, bare]
  | cons c text ih =>
      by_cases feed : c = '\n'
      · simp only [linesFrom, splitFrom, feed, decide_true, if_true, List.filterMap_cons,
          spares.closeLine, ih]
      · simp only [linesFrom, splitFrom, feed, decide_false, if_false, Bool.false_eq_true, ih]

theorem filterMap_lines (spares : SparesLineEnds read) (text : List Char) :
    (lines text).filterMap read = (split (· = '\n') text).filterMap read :=
  spares.filterMap_linesFrom [] text

/-- What stands before a line feed is read as if nothing followed, and what follows it as if
nothing stood before. -/
theorem filterMap_lines_append (spares : SparesLineEnds read) (front back : List Char) :
    (lines (front ++ '\n' :: back)).filterMap read =
      (lines front).filterMap read ++ (lines back).filterMap read := by
  simp only [spares.filterMap_lines, split]
  rw [splitFrom_append (by simp), List.filterMap_append]

theorem filterMap_lines_unbroken (spares : SparesLineEnds read) {row : List Char}
    (unbroken : '\n' ∉ row) : (lines row).filterMap read = [row].filterMap read := by
  have joins : ∀ c ∈ row, decide (c = '\n') = false := by
    intro c among
    exact decide_eq_false fun feed => unbroken (feed ▸ among)
  rw [spares.filterMap_lines, split_of_joins joins]

theorem filterMap_lines_joinLines (spares : SparesLineEnds read) (closed : Bool)
    {rows : List (List Char)} (unbroken : ∀ row ∈ rows, '\n' ∉ row) :
    (lines (joinLines closed rows)).filterMap read = rows.filterMap read := by
  induction rows with
  | nil => cases closed <;> rfl
  | cons row rows ih =>
      have here := spares.filterMap_lines_unbroken (unbroken row List.mem_cons_self)
      have later := ih fun other member => unbroken other (List.mem_cons_of_mem _ member)
      cases closed with
      | true =>
          simp only [joinLines, if_true] at later ⊢
          rw [unlines_cons, spares.filterMap_lines_append, here, later, ← List.filterMap_append,
            List.singleton_append]
      | false =>
          simp only [joinLines, Bool.false_eq_true, if_false] at later ⊢
          cases rows with
          | nil => rw [List.intercalate_singleton, here]
          | cons next rows =>
              rw [List.intercalate_cons_cons, List.append_assoc, List.singleton_append,
                spares.filterMap_lines_append, here, later, ← List.filterMap_append,
                List.singleton_append]

end SparesLineEnds

end PolicyGate.Text
