import PolicyGate.Text.Blank
import PolicyGate.Text.Lines

/-!
Texts whose characters are changed one by one. A change that keeps blanks, or line ends, what they
are goes through the readers: the words, lines and trimmed forms are those of the first text with
their characters changed.
-/

namespace PolicyGate.Text

variable {change : Char → Char}

theorem map_intercalate {α β : Type} (image : α → β) (separator : List α) (parts : List (List α)) :
    (separator.intercalate parts).map image =
      (separator.map image).intercalate (parts.map (List.map image)) := by
  induction parts with
  | nil => rfl
  | cons part parts ih =>
      cases parts with
      | nil => simp
      | cons next parts =>
          simp only [List.map_cons] at ih
          simp only [List.intercalate_cons_cons, List.map_append, List.map_cons, ih]

theorem splitFrom_map {isSeparator : Char → Bool}
    (kept : ∀ c, isSeparator (change c) = isSeparator c) (piece text : List Char) :
    splitFrom isSeparator (piece.map change) (text.map change) =
      (splitFrom isSeparator piece text).map (List.map change) := by
  induction text generalizing piece with
  | nil => simp [splitFrom]
  | cons c text ih =>
      have opened := ih []
      have longer := ih (c :: piece)
      simp only [List.map_nil, List.map_cons] at opened longer
      by_cases separates : isSeparator c = true
      · simp only [List.map_cons, splitFrom, kept, separates, if_true, opened, List.map_reverse]
      · simp only [List.map_cons, splitFrom, kept, separates, if_false, longer, Bool.false_eq_true]

theorem words_map (kept : ∀ c, isBlank (change c) = isBlank c) (text : List Char) :
    words (text.map change) = (words text).map (List.map change) := by
  have pieces := splitFrom_map kept [] text
  rw [List.map_nil] at pieces
  rw [words, words, split, split, pieces, List.filter_map]
  congr 1
  apply List.filter_congr
  intro word _
  simp

theorem trimStart_map (kept : ∀ c, isBlank (change c) = isBlank c) (text : List Char) :
    trimStart (text.map change) = (trimStart text).map change := by
  have same : isBlank ∘ change = isBlank := funext kept
  rw [trimStart, trimStart, List.dropWhile_map, same]

theorem trimEnd_map (kept : ∀ c, isBlank (change c) = isBlank c) (text : List Char) :
    trimEnd (text.map change) = (trimEnd text).map change := by
  have ends := trimStart_map kept text.reverse
  rw [List.map_reverse, trimStart, trimStart] at ends
  rw [trimEnd, trimEnd, ends, List.map_reverse]

theorem trim_map (kept : ∀ c, isBlank (change c) = isBlank c) (text : List Char) :
    trim (text.map change) = (trim text).map change := by
  rw [trim, trim, trimStart_map kept, trimEnd_map kept]

variable (feeds : ∀ c, change c = '\n' ↔ c = '\n') (returns : ∀ c, change c = '\r' ↔ c = '\r')

theorem closeLine_cons {c : Char} (other : c ≠ '\r') (piece : List Char) :
    closeLine (c :: piece) = (c :: piece).reverse := by
  unfold closeLine
  split
  · next ended => exact absurd (List.cons.inj ended).1 other
  · rfl

include returns in
theorem closeLine_map (piece : List Char) :
    closeLine (piece.map change) = (closeLine piece).map change := by
  cases piece with
  | nil => rfl
  | cons c piece =>
      by_cases ended : c = '\r'
      · have same := (returns c).mpr ended
        rw [List.map_cons, same, ended, closeLine, closeLine, List.map_reverse]
      · have other : change c ≠ '\r' := fun same => ended ((returns c).mp same)
        rw [List.map_cons, closeLine_cons other, closeLine_cons ended, List.map_reverse,
          List.map_cons]

include feeds returns in
theorem linesFrom_map (piece text : List Char) :
    linesFrom (piece.map change) (text.map change) =
      (linesFrom piece text).map (List.map change) := by
  induction text generalizing piece with
  | nil =>
      rw [List.map_nil, linesFrom, linesFrom]
      by_cases empty : piece = []
      · simp [empty]
      · simp [empty]
  | cons c text ih =>
      have opened := ih []
      have longer := ih (c :: piece)
      simp only [List.map_nil, List.map_cons] at opened longer
      by_cases feed : c = '\n'
      · simp only [List.map_cons, linesFrom, feeds, feed, if_true, opened, closeLine_map returns]
      · simp only [List.map_cons, linesFrom, feeds, feed, if_false, longer]

include feeds returns in
theorem lines_map (text : List Char) :
    lines (text.map change) = (lines text).map (List.map change) :=
  linesFrom_map feeds returns [] text

end PolicyGate.Text
