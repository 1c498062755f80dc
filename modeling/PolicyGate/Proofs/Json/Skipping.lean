import PolicyGate.Proofs.Json.Numbers
import PolicyGate.Proofs.Json.Strings

/-!
Values that nobody wants are passed over, whatever their shape and however deep they nest.
-/

namespace PolicyGate.Json

open Reader

theorem isGap_of_isDigit {c : Char} (digit : Text.isDigit c = true) :
    Cursor.isGap c = false := by
  rw [← Bool.not_eq_true, isGap_iff]
  intro listed
  simp only [List.mem_cons, List.not_mem_nil, or_false] at listed
  rcases listed with rfl | rfl | rfl | rfl <;> contradiction

section Scalars

variable {before text rest : List Char}

theorem reads_skipScalar_digit {c : Char} (digit : Text.isDigit c = true) (gap : IsGap before)
    (read : Reads skipNumber () (c :: text) rest) :
    Reads skipScalar none (before ++ c :: text) rest := by
  refine .bind (reads_sign gap (isGap_of_isDigit digit) _) ?_
  split
  · contradiction
  all_goals try next same => exact absurd digit (by rw [Option.some.inj same]; decide)
  next d _ _ _ _ _ _ _ same =>
    rw [← Option.some.inj same, if_pos digit]
    exact .bind read (.pure none rest)

theorem ScalarText.reads_skipScalar (scalar : ScalarText text) (gap : IsGap before)
    (follows : Follows rest) : Reads skipScalar none (before ++ (text ++ rest)) rest := by
  cases scalar with
  | null =>
      exact .bind (reads_sign gap rfl _) (.bind (reads_skip 'n' _)
        (.bind (reads_word ['u', 'l', 'l'] rest) (.pure none rest)))
  | yes =>
      exact .bind (reads_sign gap rfl _) (.bind (reads_skip 't' _)
        (.bind (reads_word ['r', 'u', 'e'] rest) (.pure none rest)))
  | no =>
      exact .bind (reads_sign gap rfl _) (.bind (reads_skip 'f' _)
        (.bind (reads_word ['a', 'l', 's', 'e'] rest) (.pure none rest)))
  | string given =>
      rw [quotedText_append]
      exact .bind (reads_sign gap rfl _) (.bind (reads_skip '"' _)
        (.bind (given.reads_skipString rest) (.pure none rest)))
  | number given =>
      obtain ⟨signed, whole, fraction, exponent⟩ := given
      have read := whole.reads_skipNumber (fraction.digitless exponent follows)
        (fraction.reads_skipFraction exponent follows)
      simp only [List.mem_cons, List.not_mem_nil, or_false] at signed
      simp only [List.append_assoc]
      rcases signed with rfl | rfl
      · obtain ⟨c, others, rfl, digit⟩ := whole.opens
        exact reads_skipScalar_digit digit gap read
      · exact .bind (reads_sign gap rfl _) (.bind (reads_skip '-' _) (.bind read (.pure none rest)))

theorem ScalarText.opens (scalar : ScalarText text) :
    ∃ c others, text = c :: others ∧ Cursor.isGap c = false ∧ c ≠ ']' := by
  cases scalar with
  | null => exact ⟨'n', _, rfl, by decide⟩
  | yes => exact ⟨'t', _, rfl, by decide⟩
  | no => exact ⟨'f', _, rfl, by decide⟩
  | string => exact ⟨'"', _, rfl, by decide⟩
  | number given =>
      obtain ⟨signed, whole, -, -⟩ := given
      obtain ⟨c, others, rfl, digit⟩ := whole.opens
      have other : c ≠ ']' := by
        rintro rfl
        contradiction
      simp only [List.mem_cons, List.not_mem_nil, or_false] at signed
      rcases signed with rfl | rfl
      · exact ⟨c, _, rfl, isGap_of_isDigit digit, other⟩
      · exact ⟨'-', _, rfl, by decide⟩

end Scalars

/-- Enough rounds for what is left. A container that was opened has a round before its first
value, so that what may follow a value counts one more. -/
def roundsFor : Expecting → List Char → Nat
  | .value, text => 2 * text.length
  | .more _, text => 2 * text.length + 1

/-- With enough rounds, everything up to the rest is passed over. -/
def Passes (expecting : Expecting) (opened : List Container) (text rest : List Char) : Prop :=
  ∀ fuel, roundsFor expecting text < fuel → Reads (skipFrom fuel expecting opened) () text rest

theorem Passes.of_round {expecting : Expecting} {opened : List Container} {text rest : List Char}
    (round : ∀ fuel, roundsFor expecting text ≤ fuel →
      Reads (skipFrom (fuel + 1) expecting opened) () text rest) :
    Passes expecting opened text rest := by
  intro fuel enough
  cases fuel with
  | zero => exact absurd enough (Nat.not_lt_zero _)
  | succ fuel => exact round fuel (Nat.le_of_lt_succ enough)

def Reader.Container.opening : Container → Char
  | .list => '['
  | .object => '{'

section Rounds

variable {container : Container} {opened : List Container} {gap behind rest : List Char}

theorem passes_done (afterValue : Bool) (rest : List Char) :
    Passes (.more afterValue) [] rest rest :=
  .of_round fun _ _ => .pure () rest

theorem passes_scalar {text : List Char} (scalar : ScalarText text) (allGap : IsGap gap)
    (follows : Follows behind) (later : Passes (.more true) opened behind rest) :
    Passes .value opened (gap ++ (text ++ behind)) rest := by
  refine .of_round fun fuel enough => ?_
  refine .bind (scalar.reads_skipScalar allGap follows) (later fuel ?_)
  obtain ⟨c, others, rfl, -⟩ := scalar.opens
  simp only [roundsFor, List.length_append, List.length_cons] at enough ⊢
  omega

theorem passes_open (allGap : IsGap gap)
    (later : Passes (.more false) (container :: opened) behind rest) :
    Passes .value opened (gap ++ container.opening :: behind) rest := by
  refine .of_round fun fuel enough => ?_
  have read : Reads skipScalar (some container) (gap ++ container.opening :: behind) behind := by
    cases container with
    | list => exact .bind (reads_sign allGap rfl _) (.bind (reads_skip '[' _) (.pure _ behind))
    | object => exact .bind (reads_sign allGap rfl _) (.bind (reads_skip '{' _) (.pure _ behind))
  refine .bind read (later fuel ?_)
  simp only [roundsFor, List.length_append, List.length_cons] at enough ⊢
  omega

theorem passes_close (allGap : IsGap gap) (later : Passes (.more true) opened behind rest)
    (afterValue : Bool) :
    Passes (.more afterValue) (container :: opened) (gap ++ container.closing :: behind) rest := by
  refine .of_round fun fuel enough => ?_
  have visible : Cursor.isGap container.closing = false := by cases container <;> rfl
  refine .bind (reads_sign allGap visible _) ?_
  simp only [if_true]
  refine .bind (reads_skip _ _) (later fuel ?_)
  simp only [roundsFor, List.length_append, List.length_cons] at enough ⊢
  omega

def PassesPart (container : Container) (opened : List Container) (text rest : List Char) : Prop :=
  ∀ gap, IsGap gap → ∃ behind, behind.length ≤ (gap ++ text).length ∧
    Reads (skipKey (container :: opened)) () (gap ++ text) behind ∧
    Passes .value (container :: opened) behind rest

theorem passes_first {c : Char} {text : List Char} (allGap : IsGap gap)
    (visible : Cursor.isGap c = false) (other : c ≠ container.closing)
    (part : PassesPart container opened (c :: text) rest) :
    Passes (.more false) (container :: opened) (gap ++ c :: text) rest := by
  refine .of_round fun fuel enough => ?_
  obtain ⟨behind, shorter, key, value⟩ := part [] .nil
  refine .bind (reads_sign allGap visible _) ?_
  simp only [if_neg other, Bool.not_false, if_true]
  refine .bind key (value fuel ?_)
  simp only [roundsFor, List.length_append, List.length_cons, List.length_nil] at enough shorter ⊢
  omega

theorem passes_next {text before : List Char} (allGap : IsGap gap) (beforeGap : IsGap before)
    (part : PassesPart container opened text rest) :
    Passes (.more true) (container :: opened) (gap ++ ',' :: (before ++ text)) rest := by
  refine .of_round fun fuel enough => ?_
  obtain ⟨behind, shorter, key, value⟩ := part before beforeGap
  have other : ',' ≠ container.closing := by cases container <;> decide
  refine .bind (reads_sign allGap rfl _) ?_
  simp only [if_neg other, Bool.not_true, Bool.false_eq_true, if_false, if_true]
  refine .bind (reads_skip ',' _) (.bind key (value fuel ?_))
  simp only [roundsFor, List.length_append, List.length_cons] at enough shorter ⊢
  omega

def IsPart (container : Container) (text : List Char) : Prop :=
  ∃ before c others, text = before ++ c :: others ∧ IsGap before ∧ Cursor.isGap c = false ∧
    c ≠ container.closing ∧ ∀ {opened tail rest}, Follows tail →
      (∀ gap, IsGap gap → Passes (.more true) (container :: opened) (gap ++ tail) rest) →
      PassesPart container opened (c :: (others ++ tail)) rest

theorem follows_parts (parts : List (List Char)) :
    Follows (parts.flatMap (',' :: ·) ++ container.closing :: rest) := by
  cases parts with
  | nil => exact .sign (by cases container <;> decide) rest
  | cons => exact .sign (by decide) _

theorem passes_others {parts : List (List Char)} (each : ∀ part ∈ parts, IsPart container part)
    (later : Passes (.more true) opened behind rest) :
    ∀ gap, IsGap gap → Passes (.more true) (container :: opened)
      (gap ++ (parts.flatMap (',' :: ·) ++ container.closing :: behind)) rest := by
  induction parts with
  | nil => exact fun gap allGap => passes_close allGap later true
  | cons part parts ih =>
      intro gap allGap
      obtain ⟨⟨before, c, others, rfl, beforeGap, -, -, passes⟩, remaining⟩ :=
        List.forall_mem_cons.mp each
      have part := passes (follows_parts parts) (ih remaining)
      simpa using passes_next allGap beforeGap part

theorem passes_container {parts : List (List Char)} {text : List Char}
    (each : ∀ part ∈ parts, IsPart container part) (listed : Listed parts text)
    (allGap : IsGap gap) (later : Passes (.more true) opened behind rest) :
    Passes .value opened (gap ++ container.opening :: (text ++ container.closing :: behind))
      rest := by
  apply passes_open allGap
  cases listed with
  | none inner => exact passes_close inner later false
  | some part parts =>
      obtain ⟨⟨before, c, others, rfl, beforeGap, visible, other, passes⟩, remaining⟩ :=
        List.forall_mem_cons.mp each
      have part := passes (follows_parts parts) (passes_others remaining later)
      simpa using passes_first beforeGap visible other part

end Rounds

def PassesValue (text : List Char) : Prop :=
  ∀ ⦃opened gap behind rest⦄, IsGap gap → Follows behind →
    Passes (.more true) opened behind rest → Passes .value opened (gap ++ (text ++ behind)) rest

theorem ValueText.opens {text : List Char} (given : ValueText text) :
    ∃ c others, text = c :: others ∧ Cursor.isGap c = false ∧ c ≠ ']' := by
  cases given with
  | scalar given => exact given.opens
  | list => exact ⟨'[', _, rfl, by decide⟩
  | object => exact ⟨'{', _, rfl, by decide⟩

theorem reads_colon {gap : List Char} (allGap : IsGap gap) (rest : List Char) :
    Reads colon () (gap ++ ':' :: rest) rest :=
  .bind (reads_sign allGap rfl rest) (reads_skip ':' rest)

theorem isPart_item {item : Padded} (given : ValueText item.text)
    (passes : PassesValue item.text) : IsPart .list item.whole := by
  obtain ⟨c, others, text_eq, visible, other⟩ := given.opens
  refine ⟨item.before, c, others ++ item.after, by simp [Padded.whole, text_eq],
    item.before_gap, visible, other, fun follows later gap allGap => ?_⟩
  have value := passes allGap (follows.gap item.after_gap) (later _ item.after_gap)
  simp only [text_eq, List.cons_append, ← List.append_assoc] at value ⊢
  exact ⟨_, Nat.le_refl _, .pure () _, value⟩

theorem isPart_member {member : Member} {chars : List Char}
    (name_eq : member.name.text = quotedText chars) (given : StringText chars)
    (passes : PassesValue member.value.text) : IsPart .object member.whole := by
  refine ⟨member.name.before, '"', chars ++ '"' :: (member.name.after ++ ':' ::
    member.value.whole), by simp [Member.whole, Padded.whole, name_eq, quotedText],
    member.name.before_gap, rfl, by decide, fun {_ tail _} follows later gap allGap => ?_⟩
  have value := passes member.value.before_gap (follows.gap member.value.after_gap)
    (later _ member.value.after_gap)
  refine ⟨_, ?_, .bind (reads_sign allGap rfl _) (.bind (reads_skip '"' _) ?_), value⟩
  · simp only [Padded.whole, List.length_append, List.length_cons]
    omega
  · simp only [List.append_assoc, List.cons_append, Padded.whole]
    exact .bind (given.reads_skipString _) (reads_colon member.name.after_gap _)

theorem ValueText.passes {text : List Char} (given : ValueText text) : PassesValue text := by
  -- The containers that are open and what stands behind the value differ at each depth.
  induction given with
  | scalar scalar =>
      intro opened gap behind rest allGap follows later
      exact passes_scalar scalar allGap follows later
  | @list items text values listed ih =>
      intro opened gap behind rest allGap follows later
      have each : ∀ part ∈ items.map Padded.whole, IsPart .list part :=
        List.forall_mem_map.mpr fun item among =>
          isPart_item (values item among) (ih item among)
      simpa [Container.opening, Container.closing] using passes_container each listed allGap later
  | @object members text names values listed ih =>
      intro opened gap behind rest allGap follows later
      have each : ∀ part ∈ members.map Member.whole, IsPart .object part := by
        refine List.forall_mem_map.mpr fun member among => ?_
        obtain ⟨chars, name_eq, name⟩ := names member among
        exact isPart_member name_eq name (ih member among)
      simpa [Container.opening, Container.closing] using passes_container each listed allGap later

theorem ValueText.reads_skipValue {text gap rest : List Char} (given : ValueText text)
    (allGap : IsGap gap) (follows : Follows rest) :
    Reads skipValue () (gap ++ (text ++ rest)) rest := by
  refine .bind (reads_remaining _) (given.passes allGap follows (passes_done true rest) _ ?_)
  simp only [roundsFor]
  omega

end PolicyGate.Json
