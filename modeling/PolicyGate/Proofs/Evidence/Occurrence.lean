import PolicyGate.Evidence.Content

/-!
What the template checks find, said without a scan: a piece of the text that reads like a marker,
or the word `add` and a word that begins with `details` behind it.
-/

namespace PolicyGate

open Unicode

theorem leads_iff (needle text : List Char) :
    leads needle text = true ↔
      ∃ found rest, text = found ++ rest ∧ found.map simpleFold = needle := by
  induction needle generalizing text with
  | nil =>
      simp only [leads, true_iff]
      exact ⟨[], text, rfl, rfl⟩
  | cons wanted needle ih =>
      cases text with
      | nil => simp [leads]
      | cons c text =>
          simp only [leads, Bool.and_eq_true, decide_eq_true_eq, ih]
          constructor
          · rintro ⟨same, found, rest, rfl, reads⟩
            exact ⟨c :: found, rest, rfl, by simp [same, reads]⟩
          · rintro ⟨found, rest, whole, reads⟩
            cases found with
            | nil => simp at reads
            | cons first found =>
                simp only [List.cons_append, List.cons.injEq] at whole
                simp only [List.map_cons, List.cons.injEq] at reads
                obtain ⟨rfl, whole⟩ := whole
                exact ⟨reads.1, found, rest, whole, reads.2⟩

namespace Template

theorem hasMarker_iff (text : List Char) :
    hasMarker text = true ↔
      ∃ marker ∈ markers, ∃ front found rest,
        text = front ++ found ++ rest ∧ found.map simpleFold = marker := by
  induction text with
  | nil =>
      simp only [hasMarker, Bool.false_eq_true, false_iff]
      rintro ⟨marker, member, front, found, rest, whole, rfl⟩
      have empty : found = [] := by simp_all
      subst empty
      simp [markers] at member
  | cons c text ih =>
      simp only [hasMarker, Bool.or_eq_true, List.any_eq_true, leads_iff, ih]
      constructor
      · rintro (⟨marker, member, found, rest, whole, reads⟩ |
          ⟨marker, member, front, found, rest, rfl, reads⟩)
        · exact ⟨marker, member, [], found, rest, by simpa using whole, reads⟩
        · exact ⟨marker, member, c :: front, found, rest, by simp, reads⟩
      · rintro ⟨marker, member, front, found, rest, whole, reads⟩
        cases front with
        | nil => exact Or.inl ⟨marker, member, found, rest, by simpa using whole, reads⟩
        | cons first front =>
            simp only [List.cons_append, List.cons.injEq] at whole
            exact Or.inr ⟨marker, member, front, found, rest, whole.2, reads⟩

theorem getLast?_cons_or (c : Char) (front : List Char) (before : Option Char) :
    (c :: front).getLast?.or before = front.getLast?.or (some c) := by
  rw [List.getLast?_cons]
  cases front.getLast? <;> rfl

theorem hasDetails_iff (before : Option Char) (text : List Char) :
    hasDetails before text = true ↔
      ∃ front found rest, text = front ++ found ++ rest ∧
        found.map simpleFold = "details".toList ∧
        isOutsideWord (front.getLast?.or before) = true := by
  induction text generalizing before with
  | nil =>
      simp only [hasDetails, Bool.false_eq_true, false_iff]
      rintro ⟨front, found, rest, whole, reads, _⟩
      have empty : found = [] := by simp_all
      simp [empty] at reads
  | cons c text ih =>
      simp only [hasDetails, Bool.or_eq_true, Bool.and_eq_true, leads_iff, ih]
      constructor
      · rintro (⟨outside, found, rest, whole, reads⟩ | ⟨front, found, rest, rfl, reads, outside⟩)
        · exact ⟨[], found, rest, by simpa using whole, reads, by simpa using outside⟩
        · exact ⟨c :: front, found, rest, by simp, reads, by rwa [getLast?_cons_or]⟩
      · rintro ⟨front, found, rest, whole, reads, outside⟩
        cases front with
        | nil => exact Or.inl ⟨by simpa using outside, found, rest, by simpa using whole, reads⟩
        | cons first front =>
            simp only [List.cons_append, List.cons.injEq] at whole
            obtain ⟨rfl, whole⟩ := whole
            exact Or.inr ⟨front, found, rest, whole, reads, by rwa [← getLast?_cons_or]⟩

theorem addHere_iff (before : Option Char) (text : List Char) :
    addHere before text = true ↔
      ∃ word rest, text = word ++ rest ∧ word.map simpleFold = "add".toList ∧
        isOutsideWord before = true ∧ isOutsideWord rest.head? = true := by
  simp only [addHere, Bool.and_eq_true, leads_iff]
  constructor
  · rintro ⟨⟨outside, word, rest, rfl, reads⟩, ends⟩
    have size : word.length = 3 := by simpa using congrArg List.length reads
    refine ⟨word, rest, rfl, reads, outside, ?_⟩
    rwa [← size, List.drop_left] at ends
  · rintro ⟨word, rest, rfl, reads, outside, ends⟩
    have size : word.length = 3 := by simpa using congrArg List.length reads
    refine ⟨⟨outside, word, rest, rfl, reads⟩, ?_⟩
    rwa [← size, List.drop_left]

/-- The word `add` in a text, with a character or none in front of the text, and behind it a word
that begins with `details`. -/
def AddDetails (before : Option Char) (text : List Char) : Prop :=
  ∃ front word middle found rest, text = front ++ word ++ (middle ++ found ++ rest) ∧
    word.map simpleFold = "add".toList ∧ found.map simpleFold = "details".toList ∧
    isOutsideWord (front.getLast?.or before) = true ∧
    isOutsideWord (middle ++ found ++ rest).head? = true ∧
    middle ≠ [] ∧ isOutsideWord middle.getLast? = true

theorem hasDetails_behind_letter_iff (text : List Char) :
    hasDetails (some 'd') text = true ↔
      ∃ middle found rest, text = middle ++ found ++ rest ∧
        found.map simpleFold = "details".toList ∧
        middle ≠ [] ∧ isOutsideWord middle.getLast? = true := by
  rw [hasDetails_iff]
  constructor
  · rintro ⟨middle, found, rest, whole, reads, outside⟩
    have nonempty : middle ≠ [] := by
      rintro rfl
      exact absurd outside (by decide)
    refine ⟨middle, found, rest, whole, reads, nonempty, ?_⟩
    rwa [List.getLast?_eq_some_getLast nonempty] at outside ⊢
  · rintro ⟨middle, found, rest, whole, reads, nonempty, outside⟩
    refine ⟨middle, found, rest, whole, reads, ?_⟩
    rwa [List.getLast?_eq_some_getLast nonempty] at outside ⊢

theorem hasAddDetails_sound (before : Option Char) (text : List Char)
    (holds : hasAddDetails before text = true) : AddDetails before text := by
  induction text generalizing before with
  | nil => simp [hasAddDetails] at holds
  | cons c text ih =>
      rw [hasAddDetails] at holds
      split at holds
      · next here =>
          obtain ⟨word, rest, whole, reads, outside, ends⟩ := (addHere_iff _ _).mp here
          have size : word.length = 3 := by simpa using congrArg List.length reads
          have behind : text.drop 2 = rest := by
            have dropped := congrArg (List.drop 3) whole
            rwa [List.drop_succ_cons, ← size, List.drop_left] at dropped
          rw [behind, hasDetails_behind_letter_iff] at holds
          obtain ⟨middle, found, final, rfl, details, nonempty, boundary⟩ := holds
          exact ⟨[], word, middle, found, final, whole, reads, details, by simpa using outside,
            ends, nonempty, boundary⟩
      · obtain ⟨front, word, middle, found, rest, rfl, reads, details, outside, inner⟩ :=
          ih _ holds
        exact ⟨c :: front, word, middle, found, rest, rfl, reads, details,
          by rwa [getLast?_cons_or], inner⟩

/-- The first `add` serves as well as the one that is given: `details` stands behind both. -/
theorem hasAddDetails_complete (before : Option Char) (text : List Char)
    (occurs : AddDetails before text) : hasAddDetails before text = true := by
  induction text generalizing before with
  | nil =>
      obtain ⟨front, word, middle, found, rest, whole, reads, _⟩ := occurs
      have empty : word = [] := by simp_all
      simp [empty] at reads
  | cons c text ih =>
      obtain ⟨front, word, middle, found, rest, whole, reads, details, outside, ends, nonempty,
        boundary⟩ := occurs
      have size : word.length = 3 := by simpa using congrArg List.length reads
      rw [hasAddDetails]
      split
      · have behind : text.drop 2 =
            (front ++ word).drop 3 ++ middle ++ found ++ rest := by
          have dropped := congrArg (List.drop 3) whole
          rw [List.drop_succ_cons, List.drop_append_of_le_length (by simp [size])] at dropped
          simpa using dropped
        rw [behind, hasDetails_behind_letter_iff]
        refine ⟨(front ++ word).drop 3 ++ middle, found, rest, rfl, details, by simp [nonempty], ?_⟩
        rw [List.getLast?_append]
        rwa [List.getLast?_eq_some_getLast nonempty] at boundary ⊢
      · next elsewhere =>
          cases front with
          | nil =>
              refine absurd ((addHere_iff _ _).mpr ?_) elsewhere
              exact ⟨word, _, whole, reads, by simpa using outside, ends⟩
          | cons first front =>
              simp only [List.cons_append, List.cons.injEq] at whole
              obtain ⟨rfl, whole⟩ := whole
              exact ih _ ⟨front, word, middle, found, rest, whole, reads, details,
                by rwa [← getLast?_cons_or], ends, nonempty, boundary⟩

theorem hasAddDetails_iff (before : Option Char) (text : List Char) :
    hasAddDetails before text = true ↔ AddDetails before text :=
  ⟨hasAddDetails_sound before text, hasAddDetails_complete before text⟩

end Template

end PolicyGate
