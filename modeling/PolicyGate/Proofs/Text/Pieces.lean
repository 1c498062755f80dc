import Mathlib.Data.List.TakeWhile
import PolicyGate.Text.Blank
import PolicyGate.Text.Lines
import PolicyGate.Text.Search

/-! What trimming leaves out, how the lines of a text lie in it, and what a search finds in it. -/

namespace PolicyGate.Text

theorem takeWhile_isBlank (text : List Char) : ∀ c ∈ text.takeWhile isBlank, isBlank c = true := by
  intro c member
  exact List.all_eq_true.mp List.all_takeWhile c member

theorem trimStart_split (text : List Char) :
    ∃ blanks, text = blanks ++ trimStart text ∧ ∀ c ∈ blanks, isBlank c = true :=
  ⟨text.takeWhile isBlank, List.takeWhile_append_dropWhile.symm, takeWhile_isBlank text⟩

theorem trimEnd_split (text : List Char) :
    ∃ blanks, text = trimEnd text ++ blanks ∧ ∀ c ∈ blanks, isBlank c = true := by
  obtain ⟨blanks, whole, allBlank⟩ := trimStart_split text.reverse
  refine ⟨blanks.reverse, ?_, ?_⟩
  · have reversed := congrArg List.reverse whole
    simpa [trimStart, trimEnd] using reversed
  · intro c member
    exact allBlank c (List.mem_reverse.mp member)

theorem trim_split (text : List Char) :
    ∃ front back, text = front ++ trim text ++ back ∧
      (∀ c ∈ front, isBlank c = true) ∧ ∀ c ∈ back, isBlank c = true := by
  obtain ⟨front, whole, frontBlank⟩ := trimStart_split text
  obtain ⟨back, rest, backBlank⟩ := trimEnd_split (trimStart text)
  refine ⟨front, back, ?_, frontBlank, backBlank⟩
  rw [List.append_assoc]
  exact whole.trans (congrArg (front ++ ·) rest)

theorem trimEnd_concat {c : Char} (blank : isBlank c = true) (text : List Char) :
    trimEnd (text ++ [c]) = trimEnd text := by
  simp [trimEnd, blank]

theorem trim_concat {c : Char} (blank : isBlank c = true) (text : List Char) :
    trim (text ++ [c]) = trim text := by
  cases opened : trimStart text with
  | nil =>
      have longer : trimStart (text ++ [c]) = [] := by
        rw [trimStart] at opened ⊢
        simp [List.dropWhile_append, opened, blank]
      rw [trim, longer, trim, opened]
  | cons first rest =>
      have longer : trimStart (text ++ [c]) = first :: rest ++ [c] := by
        rw [trimStart] at opened ⊢
        simp [List.dropWhile_append, opened]
      rw [trim, longer, trimEnd_concat blank, trim, opened]

theorem trim_eq_nil_iff (text : List Char) : trim text = [] ↔ text.all isBlank = true := by
  rw [List.all_eq_true]
  constructor
  · intro nothing
    obtain ⟨front, back, whole, frontBlank, backBlank⟩ := trim_split text
    rw [nothing, List.append_nil] at whole
    intro c member
    rw [whole] at member
    exact (List.mem_append.mp member).elim (frontBlank c) (backBlank c)
  · intro allBlank
    have opened : trimStart text = [] := List.dropWhile_eq_nil_iff.mpr allBlank
    rw [trim, opened]
    rfl

theorem contains_iff (needle text : List Char) : contains needle text = true ↔ needle <:+: text := by
  induction text with
  | nil => simp [contains]
  | cons c text ih =>
      rw [contains, Bool.or_eq_true, List.isPrefixOf_iff_prefix, ih, List.infix_cons_iff]

def unlines (lines : List (List Char)) : List Char := lines.flatMap (· ++ ['\n'])

@[simp] theorem unlines_nil : unlines [] = [] := rfl

@[simp] theorem unlines_cons (line : List Char) (rest : List (List Char)) :
    unlines (line :: rest) = line ++ '\n' :: unlines rest := by
  simp [unlines]

theorem intercalate_append_lineFeed (line : List Char) (rest : List (List Char)) :
    ['\n'].intercalate (line :: rest) ++ ['\n'] = unlines (line :: rest) := by
  induction rest generalizing line with
  | nil => simp
  | cons next rest ih =>
      rw [List.intercalate_cons_cons, List.append_assoc, ih next, unlines_cons, unlines_cons]
      simp

theorem mem_linesFrom {piece rest line : List Char} (member : line ∈ linesFrom piece rest) :
    ∃ before after, piece.reverse ++ rest = before ++ line ++ after ∧
      (∀ c ∈ before.getLast?, isBlank c = true) ∧ ∀ c ∈ after.head?, isBlank c = true := by
  induction rest generalizing piece with
  | nil =>
      rw [linesFrom] at member
      split at member
      · simp at member
      · exact ⟨[], [], by simp [List.mem_singleton.mp member], by simp, by simp⟩
  | cons c rest ih =>
      rw [linesFrom] at member
      split at member
      · next feed =>
          subst feed
          rcases List.mem_cons.mp member with rfl | later
          · unfold closeLine
            split
            · exact ⟨[], '\r' :: '\n' :: rest, by simp, by simp, fun _ same => by cases same; rfl⟩
            · exact ⟨[], '\n' :: rest, by simp, by simp, fun _ same => by cases same; rfl⟩
          · obtain ⟨before, after, whole, opens, closes⟩ := ih later
            refine ⟨piece.reverse ++ '\n' :: before, after, ?_, ?_, closes⟩
            · simp only [List.reverse_nil, List.nil_append] at whole
              simp [whole]
            · rw [List.getLast?_append, List.getLast?_cons]
              cases last : before.getLast? with
              | none => exact fun _ same => by cases same; rfl
              | some c => exact fun _ same => opens _ (by rw [last]; exact same)
      · simpa using ih member

theorem mem_lines {text line : List Char} (member : line ∈ lines text) :
    ∃ before after, text = before ++ line ++ after ∧
      (∀ c ∈ before.getLast?, isBlank c = true) ∧ ∀ c ∈ after.head?, isBlank c = true :=
  mem_linesFrom member

end PolicyGate.Text
