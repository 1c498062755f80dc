import PolicyGate.Proofs.Text.Lines

/-!
The words of a text as its longest runs of visible characters: blanks, or an end of the text, stand
on both sides of each.
-/

namespace PolicyGate.Text

/-- A text and its words in order. Each is followed by a blank or by nothing, so none is a part of
a longer run. -/
inductive Worded : List Char → List (List Char) → Prop
  | blanks {gap : List Char} : (∀ c ∈ gap, isBlank c = true) → Worded gap []
  | word {gap word rest : List Char} {others : List (List Char)} :
      (∀ c ∈ gap, isBlank c = true) → word ≠ [] → (∀ c ∈ word, isBlank c = false) →
      (∀ c ∈ rest.head?, isBlank c = true) → Worded rest others →
      Worded (gap ++ (word ++ rest)) (word :: others)

theorem words_of_visible {word : List Char} (nonempty : word ≠ [])
    (visible : ∀ c ∈ word, isBlank c = false) : words word = [word] := by
  have single := @words_intercalate [word]
  simp only [List.mem_singleton, forall_eq, List.intercalate_singleton] at single
  exact single ⟨nonempty, visible⟩

theorem Worded.words_eq {text : List Char} {parts : List (List Char)}
    (worded : Worded text parts) : words text = parts := by
  induction worded with
  | blanks blank => exact (words_eq_nil_iff _).mpr blank
  | @word gap word rest others blank nonempty visible closed _ ih =>
      have alone := words_of_visible nonempty visible
      rw [words_append_of_blank blank]
      cases rest with
      | nil =>
          rw [words_nil] at ih
          rw [List.append_nil, alone, ← ih]
      | cons c rest =>
          have separates := closed c rfl
          have behind := words_append_blank separates [] rest
          rw [words_nil, List.nil_append, List.nil_append, ih] at behind
          rw [words_append_blank separates, alone, ← behind, List.singleton_append]

theorem Worded.of_word {word rest : List Char} {others : List (List Char)} (nonempty : word ≠ [])
    (visible : ∀ c ∈ word, isBlank c = false) (closed : ∀ c ∈ rest.head?, isBlank c = true)
    (worded : Worded rest others) : Worded (word ++ rest) (word :: others) := by
  have led := Worded.word (List.forall_mem_nil _) nonempty visible closed worded
  rwa [List.nil_append] at led

theorem Worded.cons_blank {text : List Char} {parts : List (List Char)} {c : Char}
    (worded : Worded text parts) (blank : isBlank c = true) : Worded (c :: text) parts := by
  cases worded with
  | blanks gap => exact .blanks (List.forall_mem_cons.mpr ⟨blank, gap⟩)
  | word gap nonempty visible closed rest =>
      exact .word (List.forall_mem_cons.mpr ⟨blank, gap⟩) nonempty visible closed rest

theorem Worded.cons_visible {text : List Char} {parts : List (List Char)} {c : Char}
    (worded : Worded text parts) (visible : isBlank c = false) :
    ∃ longer, Worded (c :: text) longer := by
  have alone : ∀ d ∈ [c], isBlank d = false := by simp [visible]
  by_cases separate : ∀ d ∈ text.head?, isBlank d = true
  · exact ⟨[c] :: parts, .of_word (List.cons_ne_nil _ _) alone separate worded⟩
  · cases worded with
    | blanks gap =>
        exact absurd (fun d first => gap d (List.mem_of_mem_head? first)) separate
    | @word gap word rest others blank nonempty shown closed rows =>
        cases gap with
        | cons d gap =>
            exact absurd (fun e first => by cases first; exact blank d List.mem_cons_self) separate
        | nil =>
            exact ⟨(c :: word) :: others, .of_word (List.cons_ne_nil _ _)
              (List.forall_mem_cons.mpr ⟨visible, shown⟩) closed rows⟩

theorem exists_worded (text : List Char) : ∃ parts, Worded text parts := by
  induction text with
  | nil => exact ⟨[], .blanks (by simp)⟩
  | cons c text ih =>
      obtain ⟨parts, worded⟩ := ih
      by_cases blank : isBlank c = true
      · exact ⟨parts, worded.cons_blank blank⟩
      · exact worded.cons_visible (by simpa using blank)

theorem worded_iff (text : List Char) (parts : List (List Char)) :
    Worded text parts ↔ words text = parts := by
  constructor
  · intro worded
    exact worded.words_eq
  · intro same
    obtain ⟨found, worded⟩ := exists_worded text
    rw [← same, worded.words_eq]
    exact worded

end PolicyGate.Text
