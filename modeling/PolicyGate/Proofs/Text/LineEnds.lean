import PolicyGate.Proofs.Text.Words
import PolicyGate.Text.Lines

/-!
Texts that end their lines differently: some line feeds of one have a carriage return in front of
them in the other. Both have the same words, and the same lines if the first text has no carriage
returns of its own.
-/

namespace PolicyGate.Text

/-- The second text is the first with carriage returns put in front of some of its line feeds. -/
inductive Returned : List Char → List Char → Prop
  | nil : Returned [] []
  | keep (c : Char) {text other : List Char} :
      Returned text other → Returned (c :: text) (c :: other)
  | insert {text other : List Char} :
      Returned text other → Returned ('\n' :: text) ('\r' :: '\n' :: other)

def isReturned : List Char → List Char → Bool
  | [], [] => true
  | '\n' :: text, '\r' :: '\n' :: other => isReturned text other
  | c :: text, d :: other => c = d && isReturned text other
  | _, _ => false

theorem isReturned_iff (text other : List Char) :
    isReturned text other = true ↔ Returned text other := by
  constructor
  · intro checked
    fun_induction isReturned text other with
    | case1 => exact .nil
    | case2 text other ih => exact .insert (ih checked)
    | case3 c text d other _ ih =>
        rw [Bool.and_eq_true, decide_eq_true_eq] at checked
        obtain ⟨rfl, rest⟩ := checked
        exact .keep c (ih rest)
    | case4 => contradiction
  · intro returned
    induction returned with
    | nil => rfl
    | keep c _ ih =>
        rw [isReturned]
        · simp [ih]
        · rintro _ rfl feed
          exact absurd feed (by decide)
    | insert _ ih => exact ih

instance (text other : List Char) : Decidable (Returned text other) :=
  decidable_of_iff _ (isReturned_iff text other)

theorem closeLine_of_not_mem {piece : List Char} (plain : '\r' ∉ piece) :
    closeLine piece = piece.reverse := by
  unfold closeLine
  split
  · exact absurd List.mem_cons_self plain
  · rfl

namespace Returned

variable {text other : List Char}

theorem linesFrom_eq (returned : Returned text other) {piece : List Char} (opened : '\r' ∉ piece)
    (plain : '\r' ∉ text) : linesFrom piece other = linesFrom piece text := by
  induction returned generalizing piece with
  | nil => rfl
  | keep c _ ih =>
      rw [List.mem_cons, not_or] at plain
      by_cases feed : c = '\n'
      · have rest := ih List.not_mem_nil plain.2
        simp only [linesFrom, feed, if_true, rest]
      · have longer : '\r' ∉ c :: piece := by simp [plain.1, opened]
        have rest := ih longer plain.2
        simp only [linesFrom, feed, if_false, rest]
  | @insert text other _ ih =>
      have rest := ih List.not_mem_nil fun member => plain (List.mem_cons_of_mem _ member)
      have ended : linesFrom piece ('\r' :: '\n' :: other) = piece.reverse :: linesFrom [] other :=
        rfl
      rw [ended, linesFrom, if_pos rfl, closeLine_of_not_mem opened, rest]

theorem lines_eq (returned : Returned text other) (plain : '\r' ∉ text) :
    lines other = lines text :=
  returned.linesFrom_eq List.not_mem_nil plain

theorem pieces_eq (returned : Returned text other) (piece : List Char) :
    (splitFrom isBlank piece other).filter (· ≠ []) =
      (splitFrom isBlank piece text).filter (· ≠ []) := by
  induction returned generalizing piece with
  | nil => rfl
  | keep c _ ih =>
      by_cases blank : isBlank c = true
      · simp only [splitFrom, blank, if_true, List.filter_cons, ih]
      · simp only [splitFrom, blank, if_false, Bool.false_eq_true, ih]
  | @insert text other _ ih =>
      have fed : splitFrom isBlank piece ('\n' :: text) =
          piece.reverse :: splitFrom isBlank [] text := rfl
      have both : splitFrom isBlank piece ('\r' :: '\n' :: other) =
          piece.reverse :: [] :: splitFrom isBlank [] other := rfl
      simp only [fed, both, List.filter_cons, ih]
      rfl

theorem words_eq (returned : Returned text other) : words other = words text :=
  returned.pieces_eq []

end Returned

end PolicyGate.Text
