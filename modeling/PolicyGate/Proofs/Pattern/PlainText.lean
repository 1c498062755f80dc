import PolicyGate.Proofs.Pattern.Spelling

/-!
Texts without operators as patterns: each of their characters stands for itself in either case, so
they are found wherever they are spelled.
-/

namespace PolicyGate.Pattern

open Unicode

def operators : List Char := ['(', ')', '|', '?', '*', '+', '{', '[', '\\', '.', '^', '$']

def literalPart (c : Char) : Part := ⟨literal {} c, 0, true⟩

theorem step_plain {c : Char} (plain : c ∉ operators) (parts : List Part) (rest : List Char) :
    (⟨{}, [], parts, [], []⟩ : State).step c rest =
      some (⟨{}, [], literalPart c :: parts, [], []⟩, rest) := by
  unfold State.step
  split
  all_goals try exact absurd (by decide) plain
  rfl

theorem readFrom_plain {text : List Char} (plain : ∀ c ∈ text, c ∉ operators) (parts : List Part)
    {fuel : Nat} (enough : text.length < fuel) :
    readFrom fuel ⟨{}, [], parts, [], []⟩ text =
      some (sequence ((text.map literalPart).reverse ++ parts)) := by
  induction text generalizing parts fuel with
  | nil =>
      obtain ⟨fuel, rfl⟩ := Nat.exists_eq_add_one_of_ne_zero (Nat.ne_zero_of_lt enough)
      rfl
  | cons c text ih =>
      obtain ⟨fuel, rfl⟩ := Nat.exists_eq_add_one_of_ne_zero (Nat.ne_zero_of_lt enough)
      rw [List.forall_mem_cons] at plain
      have later := ih plain.2 (literalPart c :: parts) (Nat.lt_of_succ_lt_succ enough)
      simp only [readFrom, gap, Bool.false_eq_true, if_false, step_plain plain.1,
        Option.bind_eq_bind, Option.bind_some, later]
      simp

theorem readFrom_initial_plain {text : String} (plain : ∀ c ∈ text.toList, c ∉ operators) :
    readFrom (text.toList.length + 1) .initial text.toList =
      some (sequence (text.toList.map literalPart).reverse) := by
  have parts := readFrom_plain plain [] (Nat.lt_succ_self text.toList.length)
  rwa [List.append_nil] at parts

theorem sequence_pattern {parts : List Part} (several : parts.length ≠ 1) :
    (sequence parts).pattern =
      parts.foldl (fun later part => .seq part.pattern later) .empty := by
  match parts with
  | [] => rfl
  | [_] => exact absurd rfl several
  | _ :: _ :: _ => rfl

theorem sequence_literals {word : List Char} (several : word.length ≠ 1) :
    (sequence (word.map literalPart).reverse).pattern = spelling word .empty := by
  rw [sequence_pattern (by simpa using several), List.foldl_reverse, List.foldr_map]
  rfl

theorem occursIn_seq_empty {pattern : Pattern} {text : List Char} :
    (seq pattern empty).occursIn text = true ↔ pattern.occursIn text = true := by
  simp only [occursIn_iff, Matches, exists_eq_right]

theorem occursIn_literals {word text : List Char} :
    (sequence (word.map literalPart).reverse).pattern.occursIn text = true ↔
      (spelling word .empty).occursIn text = true := by
  by_cases single : word.length = 1
  · obtain ⟨c, rfl⟩ := List.length_eq_one_iff.mp single
    exact occursIn_seq_empty.symm
  · rw [sequence_literals single]

theorem deepestPart_eq_zero {parts : List Part} (flat : ∀ part ∈ parts, part.depth = 0) :
    deepestPart parts = 0 := by
  induction parts with
  | nil => rfl
  | cons part parts ih =>
      rw [List.forall_mem_cons] at flat
      simpa [deepestPart, flat.1] using ih flat.2

theorem depth_sequence_le_one {parts : List Part} (flat : ∀ part ∈ parts, part.depth = 0) :
    (sequence parts).depth ≤ 1 := by
  match parts with
  | [] => exact Nat.zero_le 1
  | [part] =>
      rw [sequence, flat part List.mem_cons_self]
      exact Nat.zero_le 1
  | _ :: _ :: _ => exact Nat.le_of_eq (congrArg (1 + ·) (deepestPart_eq_zero flat))

theorem ofText?_of_plain {text : String} (plain : ∀ c ∈ text.toList, c ∉ operators)
    (several : text.toList.length ≠ 1) (small : (spelling text.toList .empty).IsSmall) :
    ofText? text = some (spelling text.toList .empty) := by
  have shallow : (sequence (text.toList.map literalPart).reverse).depth ≤ depthLimit :=
    Nat.le_trans (depth_sequence_le_one (by simp [literalPart])) (by decide)
  simp [ofText?, readFrom_initial_plain plain, sequence_literals several, shallow, small]

/-- A text without operators that is taken as a pattern is found where it is spelled in either
case, and nowhere else. -/
theorem occursIn_of_plain {text : String} {pattern : Pattern} (read : ofText? text = some pattern)
    (plain : ∀ c ∈ text.toList, c ∉ operators) (heading : List Char) :
    pattern.occursIn heading = true ↔
      ∃ found, found <:+: heading ∧
        List.Forall₂ (fun c letter => letter ∈ caseVariants c) found text.toList := by
  have whole := readFrom_initial_plain plain
  simp only [ofText?, whole, Option.bind_eq_bind, Option.bind_some, Option.ite_none_right_eq_some,
    Option.some.injEq] at read
  obtain ⟨_, rfl⟩ := read
  simp only [occursIn_literals, occursIn_spelling_iff, begins_empty, and_true]
  constructor
  · rintro ⟨front, found, after, rfl, spelled⟩
    exact ⟨found, List.infix_append front found after, spelled⟩
  · rintro ⟨found, ⟨front, after, rfl⟩, spelled⟩
    exact ⟨front, found, after, rfl, spelled⟩

end PolicyGate.Pattern
