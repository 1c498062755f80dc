import PolicyGate.Json.Values
import PolicyGate.Proofs.Json.Grammar

/-!
What a reader takes from the front of a text, wherever the text stands.
-/

namespace PolicyGate.Json

/-- From every place, the reader gives the value and leaves the rest of the text. -/
def Reads {α : Type} (reader : Reader α) (value : α) (text rest : List Char) : Prop :=
  ∀ line column, ∃ line' column',
    reader ⟨text, line, column⟩ = .ok (value, ⟨rest, line', column'⟩)

namespace Reads

variable {α β : Type} {reader : Reader α} {value : α} {text middle rest : List Char}

theorem pure (value : α) (text : List Char) : Reads (pure value) value text text :=
  fun line column => ⟨line, column, rfl⟩

theorem bind {next : α → Reader β} {result : β} (first : Reads reader value text middle)
    (second : Reads (next value) result middle rest) :
    Reads (reader >>= next) result text rest := by
  intro line column
  obtain ⟨line, column, read⟩ := first line column
  obtain ⟨line', column', followed⟩ := second line column
  refine ⟨line', column', ?_⟩
  rw [← followed]
  change (reader _ >>= fun taken => next taken.1 taken.2) = _
  rw [read]
  rfl

theorem map (change : α → β) (read : Reads reader value text rest) :
    Reads (change <$> reader) (change value) text rest := by
  intro line column
  obtain ⟨line, column, read⟩ := read line column
  refine ⟨line, column, ?_⟩
  change (reader _ >>= fun taken => Except.ok (change taken.1, taken.2)) = _
  rw [read]
  rfl

theorem discard (read : Reads reader value text rest) :
    Reads (Functor.discard reader) () text rest :=
  read.map fun _ => ()

theorem run (read : Reads reader value text rest) (line column : Nat) :
    Prod.fst <$> reader.run ⟨text, line, column⟩ = .ok value := by
  obtain ⟨line', column', run⟩ := read line column
  rw [StateT.run, run]
  rfl

end Reads

open Reader

theorem isGap_iff {c : Char} : Cursor.isGap c = true ↔ c ∈ [' ', '\n', '\t', '\r'] := by
  simp [Cursor.isGap, or_assoc]

theorem IsGap.nil : IsGap [] := by simp [IsGap]

theorem exists_skipGapFrom {gap : List Char} (allGap : IsGap gap) {text : List Char}
    (visible : ∀ c ∈ text.head?, Cursor.isGap c = false) (line column : Nat) :
    ∃ line' column', Cursor.skipGapFrom line column (gap ++ text) = ⟨text, line', column'⟩ := by
  induction gap generalizing line column with
  | nil =>
      cases text with
      | nil => exact ⟨line, column, rfl⟩
      | cons c text =>
          have shown := visible c rfl
          have noFeed : c ≠ '\n' := by
            rintro rfl
            contradiction
          exact ⟨line, column, by simp [Cursor.skipGapFrom, noFeed, shown]⟩
  | cons c gap ih =>
      obtain ⟨first, others⟩ := List.forall_mem_cons.mp allGap
      rw [List.cons_append, Cursor.skipGapFrom]
      split
      · exact ih others _ _
      · rw [if_pos (isGap_iff.mpr first)]
        exact ih others _ _

section Basic

variable {c : Char} {gap text rest : List Char}

theorem reads_peek (text : List Char) : Reads peek text.head? text text :=
  fun line column => ⟨line, column, rfl⟩

theorem reads_remaining (text : List Char) : Reads remaining text.length text text :=
  fun line column => ⟨line, column, rfl⟩

theorem reads_skip (c : Char) (rest : List Char) : Reads skip () (c :: rest) rest := by
  intro line column
  by_cases feed : c = '\n'
  · exact ⟨line + 1, 0, by simp [skip, Cursor.next, feed]⟩
  · exact ⟨line, column + c.utf8Size, by simp [skip, Cursor.next, feed]⟩

theorem reads_peekPastGap (allGap : IsGap gap)
    (visible : ∀ c ∈ text.head?, Cursor.isGap c = false) :
    Reads peekPastGap text.head? (gap ++ text) text := by
  intro line column
  obtain ⟨line', column', skipped⟩ := exists_skipGapFrom allGap visible line column
  refine ⟨line', column', ?_⟩
  simp only [peekPastGap, Cursor.skipGap, skipped]

theorem reads_sign (allGap : IsGap gap) (visible : Cursor.isGap c = false) (rest : List Char) :
    Reads peekPastGap (some c) (gap ++ c :: rest) (c :: rest) :=
  reads_peekPastGap allGap (by rintro _ ⟨rfl⟩; exact visible)

theorem reads_word (wanted rest : List Char) : Reads (word wanted) () (wanted ++ rest) rest := by
  induction wanted with
  | nil => exact .pure () rest
  | cons c wanted ih =>
      refine .bind (reads_peek _) ?_
      simp only [List.cons_append, List.head?_cons, if_true]
      exact .bind (reads_skip c _) ih

theorem reads_digits {found : List Char} (allDigits : AllDigits found)
    (ends : ∀ c ∈ rest.head?, Text.isDigit c = false) :
    Reads digits found (found ++ rest) rest := by
  intro line column
  have stops : rest.takeWhile Text.isDigit = [] ∧ rest.dropWhile Text.isDigit = rest := by
    cases rest with
    | nil => exact ⟨rfl, rfl⟩
    | cons c rest => simp [ends c rfl]
  refine ⟨line, column + found.length, ?_⟩
  simp [digits, List.takeWhile_append_of_pos allDigits, List.dropWhile_append_of_pos allDigits,
    stops]

end Basic

end PolicyGate.Json
