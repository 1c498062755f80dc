import PolicyGate.Text.Blank

/-!
Words under concatenation. Blanks cut a text into parts whose words do not touch each other, so
the words of a part that lies between blanks are some consecutive words of the whole.
-/

namespace PolicyGate.Text

theorem splitFrom_append {isSeparator : Char → Bool} {c : Char} (separates : isSeparator c = true)
    (piece front back : List Char) :
    splitFrom isSeparator piece (front ++ c :: back) =
      splitFrom isSeparator piece front ++ splitFrom isSeparator [] back := by
  induction front generalizing piece with
  | nil => simp [splitFrom, separates]
  | cons first front ih =>
      simp only [List.cons_append, splitFrom]
      split
      · rw [ih, List.cons_append]
      · exact ih _

@[simp] theorem words_nil : words [] = [] := rfl

theorem words_append_blank {c : Char} (blank : isBlank c = true) (front back : List Char) :
    words (front ++ c :: back) = words front ++ words back := by
  simp only [words, split, splitFrom_append blank, List.filter_append]

theorem splitFrom_piece (isSeparator : Char → Bool) (text : List Char) :
    ∃ first others, ∀ piece,
      splitFrom isSeparator piece text = (piece.reverse ++ first) :: others := by
  induction text with
  | nil => exact ⟨[], [], fun piece => by simp [splitFrom]⟩
  | cons c text ih =>
      obtain ⟨first, others, following⟩ := ih
      by_cases separates : isSeparator c = true
      · exact ⟨[], first :: others, fun piece => by simp [splitFrom, separates, following]⟩
      · exact ⟨c :: first, others, fun piece => by simp [splitFrom, separates, following]⟩

theorem mem_splitFrom {isSeparator : Char → Bool} {piece text part : List Char}
    (member : part ∈ splitFrom isSeparator piece text) :
    ∀ c ∈ part, c ∈ piece ∨ c ∈ text ∧ isSeparator c = false := by
  induction text generalizing piece with
  | nil =>
      rw [splitFrom, List.mem_singleton] at member
      subst member
      exact fun c among => Or.inl (List.mem_reverse.mp among)
  | cons first text ih =>
      intro c among
      rw [splitFrom] at member
      split at member
      · rcases List.mem_cons.mp member with rfl | later
        · exact Or.inl (List.mem_reverse.mp among)
        · rcases ih later c among with none | ⟨inside, kept⟩
          · simp at none
          · exact Or.inr ⟨List.mem_cons_of_mem _ inside, kept⟩
      · next joins =>
          rcases ih member c among with old | ⟨inside, kept⟩
          · rcases List.mem_cons.mp old with rfl | older
            · exact Or.inr ⟨List.mem_cons_self, by simpa using joins⟩
            · exact Or.inl older
          · exact Or.inr ⟨List.mem_cons_of_mem _ inside, kept⟩

theorem mem_words {text word : List Char} (member : word ∈ words text) :
    word ≠ [] ∧ ∀ c ∈ word, c ∈ text ∧ isBlank c = false := by
  simp only [words, List.mem_filter, decide_eq_true_eq] at member
  refine ⟨member.2, fun c among => ?_⟩
  exact (mem_splitFrom member.1 c among).resolve_left (by simp)

theorem words_append_of_blank {blanks : List Char} (blank : ∀ c ∈ blanks, isBlank c = true)
    (text : List Char) : words (blanks ++ text) = words text := by
  induction blanks with
  | nil => rfl
  | cons c blanks ih =>
      have rest := ih fun other member => blank other (List.mem_cons_of_mem _ member)
      have first := words_append_blank (blank c List.mem_cons_self) [] (blanks ++ text)
      rwa [words_nil, List.nil_append, List.nil_append, rest] at first

theorem splitFrom_covers {isSeparator : Char → Bool} {piece text : List Char} {c : Char}
    (inside : c ∈ piece ∨ c ∈ text ∧ isSeparator c = false) :
    ∃ part ∈ splitFrom isSeparator piece text, c ∈ part := by
  induction text generalizing piece with
  | nil =>
      have among : c ∈ piece := by simpa using inside
      exact ⟨piece.reverse, by simp [splitFrom], List.mem_reverse.mpr among⟩
  | cons first text ih =>
      rw [splitFrom]
      split
      · next separates =>
          rcases inside with among | ⟨later, joins⟩
          · exact ⟨piece.reverse, List.mem_cons_self, List.mem_reverse.mpr among⟩
          · rcases List.mem_cons.mp later with rfl | later
            · rw [separates] at joins
              contradiction
            · obtain ⟨part, member, holds⟩ := ih (Or.inr ⟨later, joins⟩)
              exact ⟨part, List.mem_cons_of_mem _ member, holds⟩
      · apply ih
        rcases inside with among | ⟨later, joins⟩
        · exact Or.inl (List.mem_cons_of_mem _ among)
        · rcases List.mem_cons.mp later with rfl | later
          · exact Or.inl List.mem_cons_self
          · exact Or.inr ⟨later, joins⟩

theorem words_eq_nil_iff (text : List Char) :
    words text = [] ↔ ∀ c ∈ text, isBlank c = true := by
  constructor
  · intro none c member
    rw [← Bool.not_eq_false]
    intro visible
    obtain ⟨part, among, holds⟩ := splitFrom_covers (Or.inr ⟨member, visible⟩)
    have word : part ∈ words text :=
      List.mem_filter.mpr ⟨among, decide_eq_true (List.ne_nil_of_mem holds)⟩
    rw [none] at word
    exact List.not_mem_nil word
  · intro blank
    have only := words_append_of_blank blank []
    rwa [List.append_nil, words_nil] at only

theorem words_infix {before after : List Char} (part : List Char)
    (opens : ∀ c ∈ before.getLast?, isBlank c = true)
    (closes : ∀ c ∈ after.head?, isBlank c = true) :
    words part <:+: words (before ++ part ++ after) := by
  have led : words (before ++ part) = words before ++ words part := by
    rcases List.eq_nil_or_concat before with rfl | ⟨front, c, rfl⟩
    · simp
    · have blank := opens c (by simp)
      rw [List.concat_eq_append, List.append_assoc, List.singleton_append,
        words_append_blank blank, words_append_blank blank, words_nil, List.append_nil]
  have followed : ∃ rest, words (before ++ part ++ after) = words (before ++ part) ++ rest := by
    cases after with
    | nil => exact ⟨[], by simp⟩
    | cons c back => exact ⟨words back, words_append_blank (closes c rfl) _ _⟩
  obtain ⟨rest, whole⟩ := followed
  exact ⟨words before, rest, by rw [whole, led]⟩

theorem mem_intercalate {separator : List Char} {words : List (List Char)} {c : Char}
    (member : c ∈ separator.intercalate words) : c ∈ separator ∨ ∃ word ∈ words, c ∈ word := by
  induction words with
  | nil => simp at member
  | cons word words ih =>
      by_cases empty : words = []
      · subst empty
        rw [List.intercalate_singleton] at member
        exact Or.inr ⟨word, List.mem_cons_self, member⟩
      · rw [List.intercalate_cons_of_ne_nil empty, List.mem_append, List.mem_append] at member
        rcases member with (here | between) | later
        · exact Or.inr ⟨word, List.mem_cons_self, here⟩
        · exact Or.inl between
        · refine (ih later).imp_right fun ⟨other, among, inside⟩ => ?_
          exact ⟨other, List.mem_cons_of_mem _ among, inside⟩

theorem intercalate_suffix (separator : List Char) (before words : List (List Char)) :
    separator.intercalate words <:+ separator.intercalate (before ++ words) := by
  induction before with
  | nil => exact List.suffix_refl _
  | cons first before ih =>
      by_cases empty : before ++ words = []
      · simp only [List.append_eq_nil_iff] at empty
        simp [empty]
      · rw [List.cons_append, List.intercalate_cons_of_ne_nil empty]
        exact ih.trans (List.suffix_append _ _)

theorem intercalate_start (separator : List Char) (words after : List (List Char)) :
    separator.intercalate words <+: separator.intercalate (words ++ after) := by
  induction words with
  | nil => exact List.nil_prefix
  | cons first words ih =>
      cases words with
      | nil =>
          cases after with
          | nil => exact List.prefix_refl _
          | cons next after =>
              rw [List.singleton_append, List.intercalate_singleton, List.intercalate_cons_cons,
                List.append_assoc]
              exact List.prefix_append _ _
      | cons second words =>
          simp only [List.cons_append, List.intercalate_cons_cons] at ih ⊢
          exact (List.prefix_append_right_inj _).mpr ih

theorem intercalate_infix (separator : List Char) {part whole : List (List Char)}
    (inside : part <:+: whole) : separator.intercalate part <:+: separator.intercalate whole := by
  obtain ⟨before, after, rfl⟩ := inside
  rw [List.append_assoc]
  exact (intercalate_start separator part after).isInfix.trans
    (intercalate_suffix separator before (part ++ after)).isInfix

theorem intercalate_append_head (separator front word : List Char) (others : List (List Char)) :
    separator.intercalate ((front ++ word) :: others) =
      front ++ separator.intercalate (word :: others) := by
  cases others with
  | nil => simp
  | cons next others => simp [List.intercalate_cons_cons]

theorem splitFrom_start {isSeparator : Char → Bool} {start : List Char}
    (joins : ∀ c ∈ start, isSeparator c = false) (piece text : List Char) :
    splitFrom isSeparator piece (start ++ text) =
      splitFrom isSeparator (start.reverse ++ piece) text := by
  induction start generalizing piece with
  | nil => rfl
  | cons c start ih =>
      have kept := joins c List.mem_cons_self
      have rest := ih (fun later among => joins later (List.mem_cons_of_mem _ among)) (c :: piece)
      simpa [splitFrom, kept] using rest

theorem intercalate_words_suffix (change : List Char → List Char) {start : List Char}
    (joins : ∀ c ∈ start, isBlank c = false)
    (passes : ∀ word, change (start ++ word) = start ++ change word) (text : List Char) :
    [' '].intercalate ((words text).map change) <:+
      [' '].intercalate ((words (start ++ text)).map change) := by
  obtain ⟨first, others, following⟩ := splitFrom_piece isBlank text
  have alone : split isBlank text = first :: others := following []
  have led : split isBlank (start ++ text) = (start ++ first) :: others := by
    rw [split, splitFrom_start joins, following, List.append_nil, List.reverse_reverse]
  simp only [words, alone, led]
  by_cases empty : first = []
  · have dropped : (first :: others).filter (· ≠ []) = others.filter (· ≠ []) := by simp [empty]
    rw [dropped]
    by_cases bare : start ++ first = []
    · simp [bare]
    · have kept : ((start ++ first) :: others).filter (· ≠ []) =
          (start ++ first) :: others.filter (· ≠ []) :=
        List.filter_cons_of_pos (decide_eq_true bare)
      rw [kept, List.map_cons]
      exact intercalate_suffix [' '] [change (start ++ first)] _
  · have alone : (first :: others).filter (· ≠ []) = first :: others.filter (· ≠ []) :=
      List.filter_cons_of_pos (decide_eq_true empty)
    have led : ((start ++ first) :: others).filter (· ≠ []) =
        (start ++ first) :: others.filter (· ≠ []) :=
      List.filter_cons_of_pos (decide_eq_true (by simp [empty]))
    rw [alone, led, List.map_cons, List.map_cons, passes, intercalate_append_head]
    exact List.suffix_append _ _

end PolicyGate.Text
