import PolicyGate.Proofs.Text.Pieces
import PolicyGate.Proofs.Text.Words

/-!
Reading back what was written in lines and fields: text without a separator comes back whole, and
trimming keeps a text that begins and ends with something visible.
-/

namespace PolicyGate.Text

/-- Without white space at its ends. -/
def Snug (text : List Char) : Prop :=
  (∀ c ∈ text.head?, isBlank c = false) ∧ ∀ c ∈ text.getLast?, isBlank c = false

instance (text : List Char) : Decidable (Snug text) :=
  decidable_of_iff ((text.head?.all fun c => !isBlank c) && text.getLast?.all fun c => !isBlank c)
    (by simp [Snug, Option.all_eq_true])

theorem head?_trimStart (text : List Char) : ∀ c ∈ (trimStart text).head?, isBlank c = false := by
  intro c first
  have stops := List.head?_dropWhile_not isBlank text
  rw [trimStart, Option.mem_def] at first
  rwa [first] at stops

theorem getLast?_trimEnd (text : List Char) : ∀ c ∈ (trimEnd text).getLast?, isBlank c = false := by
  intro c last
  rw [trimEnd, List.getLast?_reverse] at last
  exact head?_trimStart text.reverse c last

theorem snug_trim (text : List Char) : Snug (trim text) := by
  refine ⟨?_, getLast?_trimEnd _⟩
  intro c first
  obtain ⟨blanks, whole, _⟩ := trimEnd_split (trimStart text)
  apply head?_trimStart text c
  rw [whole, List.head?_append, Option.mem_def]
  rw [trim, Option.mem_def] at first
  rw [first, Option.some_or]

theorem trimStart_of_head? {text : List Char} (opens : ∀ c ∈ text.head?, isBlank c = false) :
    trimStart text = text := by
  cases text with
  | nil => rfl
  | cons c text => exact List.dropWhile_cons_of_neg (by simp [opens c rfl])

theorem trimEnd_of_getLast? {text : List Char} (closes : ∀ c ∈ text.getLast?, isBlank c = false) :
    trimEnd text = text := by
  rw [← List.head?_reverse] at closes
  have kept := trimStart_of_head? closes
  rw [trimStart] at kept
  rw [trimEnd, kept, List.reverse_reverse]

theorem Snug.trim_eq {text : List Char} (snug : Snug text) : trim text = text := by
  rw [trim, trimStart_of_head? snug.1, trimEnd_of_getLast? snug.2]

theorem head?_trim_cons {c : Char} (visible : isBlank c = false) (text : List Char) :
    (trim (c :: text)).head? = some c := by
  obtain ⟨blanks, whole, allBlank⟩ := trimEnd_split (c :: text)
  have kept : trim (c :: text) = trimEnd (c :: text) := by
    rw [trim, trimStart_of_head? (by simp [visible])]
  rw [kept]
  cases trimmed : trimEnd (c :: text) with
  | nil =>
      rw [trimmed, List.nil_append] at whole
      have blank := allBlank c (whole ▸ List.mem_cons_self)
      simp [visible] at blank
  | cons first rest =>
      rw [trimmed, List.cons_append, List.cons.injEq] at whole
      rw [List.head?_cons, whole.1]

theorem prefix_trim_of_snug {start text : List Char} (nonempty : start ≠ []) (snug : Snug start)
    (starts : start <+: text) : start <+: trim text := by
  obtain ⟨rest, rfl⟩ := starts
  have opens : trimStart (start ++ rest) = start ++ rest := by
    apply trimStart_of_head?
    cases start with
    | nil => exact absurd rfl nonempty
    | cons c start => exact snug.1
  obtain ⟨blanks, whole, allBlank⟩ := trimEnd_split (start ++ rest)
  rw [trim, opens]
  rcases List.append_eq_append_iff.mp whole with ⟨after, longer, _⟩ | ⟨after, shorter, cut⟩
  · exact ⟨after, longer.symm⟩
  · cases last : after.getLast? with
    | none =>
        rw [List.getLast?_eq_none_iff.mp last, List.append_nil] at shorter
        exact ⟨[], by rw [List.append_nil]; exact shorter⟩
    | some c =>
        have blank := allBlank c (cut ▸ List.mem_append_left _ (List.mem_of_getLast? last))
        have visible := snug.2 c (by rw [shorter, List.getLast?_append, last]; rfl)
        rw [visible] at blank
        contradiction

section Fields

variable {isSeparator : Char → Bool}

theorem split_of_joins {field : List Char} (joins : ∀ c ∈ field, isSeparator c = false) :
    split isSeparator field = [field] := by
  have whole := splitFrom_start joins [] []
  simpa [split, splitFrom] using whole

theorem split_append {c : Char} (separates : isSeparator c = true) {field : List Char}
    (joins : ∀ c ∈ field, isSeparator c = false) (rest : List Char) :
    split isSeparator (field ++ c :: rest) = field :: split isSeparator rest := by
  have first := split_of_joins joins
  rw [split] at first ⊢
  rw [splitFrom_append separates, first, List.singleton_append, split]

theorem split_intercalate {c : Char} (separates : isSeparator c = true) {fields : List (List Char)}
    (nonempty : fields ≠ []) (joins : ∀ field ∈ fields, ∀ c ∈ field, isSeparator c = false) :
    split isSeparator ([c].intercalate fields) = fields := by
  induction fields with
  | nil => exact absurd rfl nonempty
  | cons field fields ih =>
      have here := joins field List.mem_cons_self
      cases fields with
      | nil => rw [List.intercalate_singleton, split_of_joins here]
      | cons next fields =>
          have later := ih (List.cons_ne_nil _ _) fun other member =>
            joins other (List.mem_cons_of_mem _ member)
          rw [List.intercalate_cons_cons, List.append_assoc, List.singleton_append,
            split_append separates here, later]

end Fields

theorem words_intercalate {parts : List (List Char)}
    (visible : ∀ word ∈ parts, word ≠ [] ∧ ∀ c ∈ word, isBlank c = false) :
    words ([' '].intercalate parts) = parts := by
  cases parts with
  | nil => rfl
  | cons word parts =>
      rw [words, split_intercalate (by decide) (List.cons_ne_nil _ _) fun part member =>
        (visible part member).2]
      exact List.filter_eq_self.mpr fun part member => decide_eq_true (visible part member).1

/-- What a line feed can end without changing it: no line feed inside, no return at the end. -/
structure IsLine (line : List Char) : Prop where
  unbroken : '\n' ∉ line
  ended : line.getLast? ≠ some '\r'

instance (line : List Char) : Decidable (IsLine line) :=
  decidable_of_iff ('\n' ∉ line ∧ line.getLast? ≠ some '\r')
    ⟨fun both => ⟨both.1, both.2⟩, fun isLine => ⟨isLine.unbroken, isLine.ended⟩⟩

theorem IsLine.of_snug {line : List Char} (unbroken : '\n' ∉ line)
    (closes : ∀ c ∈ line.getLast?, isBlank c = false) : IsLine line :=
  ⟨unbroken, fun last => absurd (closes '\r' last) (by decide)⟩

theorem closeLine_reverse {line : List Char} (ended : line.getLast? ≠ some '\r') :
    closeLine line.reverse = line := by
  unfold closeLine
  split
  · next rest backwards =>
      rw [← List.head?_reverse, backwards] at ended
      exact absurd rfl ended
  · exact List.reverse_reverse line

theorem linesFrom_append {line : List Char} (unbroken : '\n' ∉ line) (piece rest : List Char) :
    linesFrom piece (line ++ rest) = linesFrom (line.reverse ++ piece) rest := by
  induction line generalizing piece with
  | nil => rfl
  | cons c line ih =>
      rw [List.mem_cons, not_or] at unbroken
      have kept : c ≠ '\n' := fun feed => unbroken.1 feed.symm
      have longer := ih unbroken.2 (c :: piece)
      simpa [linesFrom, kept] using longer

theorem IsLine.lines_append {line : List Char} (isLine : IsLine line) (rest : List Char) :
    lines (line ++ '\n' :: rest) = line :: lines rest := by
  rw [lines, linesFrom_append isLine.unbroken, List.append_nil, linesFrom, if_pos rfl,
    closeLine_reverse isLine.ended, lines]

theorem lines_of_unbroken {line : List Char} (unbroken : '\n' ∉ line) (nonempty : line ≠ []) :
    lines line = [line] := by
  have whole := linesFrom_append unbroken [] []
  simpa [lines, linesFrom, nonempty] using whole

theorem lines_append_returned {line : List Char} (unbroken : '\n' ∉ line) (rest : List Char) :
    lines (line ++ '\r' :: '\n' :: rest) = line :: lines rest := by
  have closed : closeLine ('\r' :: line.reverse) = line := List.reverse_reverse line
  rw [lines, linesFrom_append unbroken, List.append_nil, linesFrom, if_neg (by decide), linesFrom,
    if_pos rfl, closed, lines]

/-- A text and its lines: each is ended by a line feed, or by a carriage return and a line feed,
and what stands behind the last of these is a line unless it is empty. -/
inductive Lined : List Char → List (List Char) → Prop
  | nothing : Lined [] []
  | last {line : List Char} : '\n' ∉ line → line ≠ [] → Lined line [line]
  | fed {line rest : List Char} {rows : List (List Char)} :
      IsLine line → Lined rest rows → Lined (line ++ '\n' :: rest) (line :: rows)
  | returned {line rest : List Char} {rows : List (List Char)} :
      '\n' ∉ line → Lined rest rows → Lined (line ++ '\r' :: '\n' :: rest) (line :: rows)

theorem Lined.lines_eq {text : List Char} {rows : List (List Char)} (lined : Lined text rows) :
    lines text = rows := by
  induction lined with
  | nothing => rfl
  | last unbroken nonempty => exact lines_of_unbroken unbroken nonempty
  | fed isLine _ ih => rw [isLine.lines_append, ih]
  | returned unbroken _ ih => rw [lines_append_returned unbroken, ih]

theorem lined_linesFrom {piece : List Char} (unbroken : '\n' ∉ piece) (rest : List Char) :
    Lined (piece.reverse ++ rest) (linesFrom piece rest) := by
  induction rest generalizing piece with
  | nil =>
      rw [linesFrom, List.append_nil]
      split
      · next bare =>
          subst bare
          exact .nothing
      · next nonempty => exact .last (by simpa using unbroken) (by simpa using nonempty)
  | cons c rest ih =>
      rw [linesFrom]
      split
      · next feed =>
          subst feed
          have others := ih List.not_mem_nil
          unfold closeLine
          split
          · next line =>
              rw [List.reverse_cons, List.append_assoc, List.singleton_append]
              exact .returned (fun member => unbroken (by simp_all)) others
          · next noReturn =>
              refine .fed ⟨by simpa using unbroken, ?_⟩ others
              rw [List.getLast?_reverse]
              intro first
              obtain ⟨line, rfl⟩ := List.head?_eq_some_iff.mp first
              exact noReturn line rfl
      · next feed =>
          have joined : '\n' ∉ c :: piece := by simp [Ne.symm feed, unbroken]
          simpa using ih joined

theorem lined_iff (text : List Char) (rows : List (List Char)) :
    Lined text rows ↔ lines text = rows :=
  ⟨Lined.lines_eq, fun same => same ▸ lined_linesFrom List.not_mem_nil text⟩

def joinLines (closed : Bool) (rows : List (List Char)) : List Char :=
  if closed then unlines rows else ['\n'].intercalate rows

theorem lines_unlines {rows : List (List Char)} (areLines : ∀ row ∈ rows, IsLine row) :
    lines (unlines rows) = rows := by
  induction rows with
  | nil => rfl
  | cons row rows ih =>
      have later := ih fun other member => areLines other (List.mem_cons_of_mem _ member)
      rw [unlines_cons, (areLines row List.mem_cons_self).lines_append, later]

theorem linesFrom_append_lineFeed (piece front back : List Char) :
    linesFrom piece (front ++ '\n' :: back) = linesFrom piece (front ++ ['\n']) ++ lines back := by
  induction front generalizing piece with
  | nil => simp [linesFrom, lines]
  | cons c front ih =>
      by_cases feed : c = '\n'
      · simp only [List.cons_append, linesFrom, feed, if_true, ih]
      · simp only [List.cons_append, linesFrom, feed, if_false, ih]

theorem lines_unlines_append (rows : List (List Char)) (text : List Char) :
    lines (unlines rows ++ text) = lines (unlines rows) ++ lines text := by
  induction rows with
  | nil => rfl
  | cons row rows ih =>
      rw [unlines_cons, List.append_assoc, List.cons_append, lines, linesFrom_append_lineFeed, ih,
        ← List.append_assoc, ← linesFrom_append_lineFeed, ← lines]

theorem linesFrom_concat_lineFeed (piece text : List Char)
    (ended : (piece.reverse ++ text).getLast? ≠ some '\r') :
    linesFrom piece (text ++ ['\n']) = linesFrom piece text ∨
      linesFrom piece (text ++ ['\n']) = linesFrom piece text ++ [[]] := by
  induction text generalizing piece with
  | nil =>
      rw [List.append_nil] at ended
      have closed : closeLine piece = piece.reverse := by
        simpa using closeLine_reverse ended
      by_cases empty : piece = []
      · right
        simp [linesFrom, empty, closeLine]
      · left
        simp [linesFrom, empty, closed]
  | cons c text ih =>
      by_cases feed : c = '\n'
      · have rest : ([].reverse ++ text).getLast? ≠ some '\r' := by
          intro last
          apply ended
          rw [List.reverse_nil, List.nil_append] at last
          simp [List.getLast?_append, List.getLast?_cons, last]
        rcases ih [] rest with same | longer
        · left
          simp only [List.cons_append, linesFrom, feed, if_true, same]
        · right
          simp only [List.cons_append, linesFrom, feed, if_true, longer]
      · have rest : ((c :: piece).reverse ++ text).getLast? ≠ some '\r' := by
          simpa using ended
        rcases ih (c :: piece) rest with same | longer
        · left
          simp only [List.cons_append, linesFrom, feed, if_false, same]
        · right
          simp only [List.cons_append, linesFrom, feed, if_false, longer]

theorem lines_append_lineFeed {text : List Char} (ended : text.getLast? ≠ some '\r')
    (rest : List Char) :
    lines (text ++ '\n' :: rest) = lines text ++ lines rest ∨
      lines (text ++ '\n' :: rest) = lines text ++ [[]] ++ lines rest := by
  have whole := linesFrom_append_lineFeed [] text rest
  rcases linesFrom_concat_lineFeed [] text ended with same | longer
  · left
    rw [lines, whole, same]
    rfl
  · right
    rw [lines, whole, longer]
    rfl

theorem lines_intercalate {rows : List (List Char)}
    (areLines : ∀ row ∈ rows, IsLine row ∧ row ≠ []) :
    lines (['\n'].intercalate rows) = rows := by
  induction rows with
  | nil => rfl
  | cons row rows ih =>
      obtain ⟨isLine, nonempty⟩ := areLines row List.mem_cons_self
      cases rows with
      | nil => rw [List.intercalate_singleton, lines_of_unbroken isLine.unbroken nonempty]
      | cons next rows =>
          have later := ih fun other member => areLines other (List.mem_cons_of_mem _ member)
          rw [List.intercalate_cons_cons, List.append_assoc, List.singleton_append,
            isLine.lines_append, later]

theorem lines_intercalate_cases {rows : List (List Char)} (areLines : ∀ row ∈ rows, IsLine row) :
    lines (['\n'].intercalate rows) = rows ∨ rows = lines (['\n'].intercalate rows) ++ [[]] := by
  induction rows with
  | nil => exact Or.inl rfl
  | cons row rows ih =>
      have isLine := areLines row List.mem_cons_self
      cases rows with
      | nil =>
          rw [List.intercalate_singleton]
          by_cases empty : row = []
          · exact Or.inr (by rw [empty]; rfl)
          · exact Or.inl (lines_of_unbroken isLine.unbroken empty)
      | cons next rows =>
          rw [List.intercalate_cons_cons, List.append_assoc, List.singleton_append,
            isLine.lines_append]
          rcases ih fun other member => areLines other (List.mem_cons_of_mem _ member) with
            whole | cut
          · exact Or.inl (by rw [whole])
          · exact Or.inr (by rw [List.cons_append, ← cut])

theorem intercalate_concat_nil (rows : List (List Char)) :
    ['\n'].intercalate (rows ++ [[]]) = unlines rows := by
  induction rows with
  | nil => rfl
  | cons row rows ih =>
      rw [List.cons_append, List.intercalate_cons_of_ne_nil (by simp), ih, unlines_cons,
        List.append_assoc, List.singleton_append]

theorem trim_intercalate_concat_nil (rows : List (List Char)) :
    trim (['\n'].intercalate (rows ++ [[]])) = trim (['\n'].intercalate rows) := by
  rw [intercalate_concat_nil]
  cases rows with
  | nil => rfl
  | cons row rows => rw [← intercalate_append_lineFeed, trim_concat (by decide)]

theorem lines_joinLines (closed : Bool) {rows : List (List Char)}
    (areLines : ∀ row ∈ rows, IsLine row ∧ row ≠ []) : lines (joinLines closed rows) = rows := by
  cases closed with
  | true => exact lines_unlines fun row member => (areLines row member).1
  | false => exact lines_intercalate areLines

end PolicyGate.Text
