import PolicyGate.Proofs.Evidence.Sections

/-!
Bodies written block by block: lines that open no section, and behind them blocks that each begin
with a heading of their own. Such a body has one section for each block, with the lines of that
block and no others.
-/

namespace PolicyGate.BodySection

/-- A line that opens a section, and lines below it that open none. -/
structure Block where
  opening : List Char
  key : List Char
  below : List (List Char)
  opens : headingOf? opening = some key
  plain : ∀ line ∈ below, headingOf? line = none
  areLines : ∀ line ∈ opening :: below, Text.IsLine line

namespace Block

def rows (block : Block) : List (List Char) := block.opening :: block.below

def toSection (block : Block) : BodySection :=
  ⟨.ofList block.key, .ofList (Text.trim (['\n'].intercalate block.below))⟩

end Block

def blockRows (introduction : List (List Char)) (blocks : List Block) : List (List Char) :=
  introduction ++ blocks.flatMap Block.rows

def blockBody (introduction : List (List Char)) (blocks : List Block) : String :=
  .ofList (['\n'].intercalate (blockRows introduction blocks))

theorem filterMap_headingOf?_of_plain {lines : List (List Char)}
    (plain : ∀ line ∈ lines, headingOf? line = none) : lines.filterMap headingOf? = [] :=
  List.filterMap_eq_nil_iff.mpr plain

theorem ownedLines_plain_append {front : List (List Char)}
    (plain : ∀ line ∈ front, headingOf? line = none) (key current : List Char)
    (back : List (List Char)) :
    ownedLines key current (front ++ back) =
      (if current = key then front else []) ++ ownedLines key current back := by
  induction front with
  | nil => simp
  | cons line front ih =>
      have rest := ih fun other member => plain other (List.mem_cons_of_mem _ member)
      simp only [List.cons_append, ownedLines, plain line List.mem_cons_self, rest]
      split <;> rfl

variable {introduction : List (List Char)} {blocks : List Block}

theorem filterMap_headingOf?_blockRows (plain : ∀ line ∈ introduction, headingOf? line = none)
    (blocks : List Block) :
    (blockRows introduction blocks).filterMap headingOf? = blocks.map Block.key := by
  rw [blockRows, List.filterMap_append, filterMap_headingOf?_of_plain plain, List.nil_append]
  induction blocks with
  | nil => rfl
  | cons block blocks ih =>
      rw [List.flatMap_cons, List.filterMap_append, Block.rows, List.filterMap_cons, block.opens,
        filterMap_headingOf?_of_plain block.plain, ih, List.map_cons]
      rfl

theorem ownedLines_flatMap_rows (key current : List Char) (blocks : List Block) :
    ownedLines key current (blocks.flatMap Block.rows) =
      (blocks.filter fun block => block.key = key).flatMap Block.below := by
  induction blocks generalizing current with
  | nil => rfl
  | cons block blocks ih =>
      have inside := ownedLines_plain_append block.plain key block.key (blocks.flatMap Block.rows)
      simp only [List.flatMap_cons, Block.rows, List.cons_append, ownedLines, block.opens, inside,
        List.filter_cons]
      rw [ih]
      by_cases same : block.key = key <;> simp [same]

theorem filter_key_eq_singleton (distinct : (blocks.map Block.key).Nodup) {block : Block}
    (member : block ∈ blocks) : (blocks.filter fun other => other.key = block.key) = [block] := by
  induction blocks with
  | nil => exact absurd member List.not_mem_nil
  | cons first blocks ih =>
      obtain ⟨new, rest⟩ := List.nodup_cons.mp distinct
      rcases List.mem_cons.mp member with rfl | later
      · have others : (blocks.filter fun other => other.key = block.key) = [] := by
          rw [List.filter_eq_nil_iff]
          intro other among same
          exact new (of_decide_eq_true same ▸ List.mem_map_of_mem among)
        rw [List.filter_cons_of_pos (by simp), others]
      · have apart : first.key ≠ block.key := fun same => new (same ▸ List.mem_map_of_mem later)
        rw [List.filter_cons_of_neg (by simp [apart]), ih rest later]

theorem sectionsOf_blockRows (plain : ∀ line ∈ introduction, headingOf? line = none)
    (distinct : (preamble :: blocks.map Block.key).Nodup) :
    sectionsOf (blockRows introduction blocks) =
      ⟨.ofList preamble, .ofList (Text.trim (['\n'].intercalate introduction))⟩ ::
        blocks.map Block.toSection := by
  obtain ⟨unused, keys⟩ := List.nodup_cons.mp distinct
  have opened : firstHeadings (blockRows introduction blocks) = preamble :: blocks.map Block.key := by
    rw [firstHeadings, filterMap_headingOf?_blockRows plain, eraseDups_of_nodup distinct]
  have owned (key : List Char) : ownedLines key preamble (blockRows introduction blocks) =
      (if preamble = key then introduction else []) ++
        (blocks.filter fun block => block.key = key).flatMap Block.below := by
    rw [blockRows, ownedLines_plain_append plain, ownedLines_flatMap_rows]
  have first : sectionAt (blockRows introduction blocks) preamble =
      ⟨.ofList preamble, .ofList (Text.trim (['\n'].intercalate introduction))⟩ := by
    have none : (blocks.filter fun block => block.key = preamble) = [] := by
      rw [List.filter_eq_nil_iff]
      intro block member same
      exact unused (of_decide_eq_true same ▸ List.mem_map_of_mem member)
    rw [sectionAt, owned, if_pos rfl, none, List.flatMap_nil, List.append_nil]
  have others : ∀ block ∈ blocks,
      sectionAt (blockRows introduction blocks) block.key = block.toSection := by
    intro block member
    have apart : preamble ≠ block.key := fun same => unused (same ▸ List.mem_map_of_mem member)
    rw [sectionAt, owned, if_neg apart, filter_key_eq_singleton keys member, Block.toSection]
    simp
  rw [sectionsOf_eq, opened, List.map_cons, first, List.map_map]
  exact congrArg _ (List.map_congr_left others)

theorem sectionsOf_concat_nil (lines : List (List Char)) :
    sectionsOf (lines ++ [[]]) = sectionsOf lines := by
  have same : firstHeadings (lines ++ [[]]) = firstHeadings lines := by
    have none : [[]].filterMap headingOf? = [] := rfl
    rw [firstHeadings, firstHeadings, List.filterMap_append, none, List.append_nil]
  rw [sectionsOf_eq, sectionsOf_eq, same]
  apply List.map_congr_left
  intro key _
  simp only [sectionAt, ownedLines_eq_linesUnder, linesUnder_append, ownedLines, headingOf?]
  split
  · rw [Text.trim_intercalate_concat_nil]
  · rw [List.append_nil]

theorem areLines_blockRows (introLines : ∀ line ∈ introduction, Text.IsLine line) :
    ∀ line ∈ blockRows introduction blocks, Text.IsLine line := by
  intro line member
  rcases List.mem_append.mp member with first | later
  · exact introLines line first
  · obtain ⟨block, _, inside⟩ := List.mem_flatMap.mp later
    exact block.areLines line inside

theorem split_blockBody (introLines : ∀ line ∈ introduction, Text.IsLine line)
    (blocks : List Block) :
    split (blockBody introduction blocks) = sectionsOf (blockRows introduction blocks) := by
  rw [split_eq_sectionsOf, blockBody, String.toList_ofList]
  rcases Text.lines_intercalate_cases (areLines_blockRows introLines) with whole | cut
  · rw [whole]
  · rw [← sectionsOf_concat_nil, ← cut]

end PolicyGate.BodySection
