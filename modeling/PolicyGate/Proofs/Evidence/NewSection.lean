import PolicyGate.Proofs.Evidence.Blocks
import PolicyGate.Proofs.Evidence.Selection

/-!
A new section at the end of a body. It stands behind all sections that were there and takes
nothing from them, so every requirement goes on to select the section that it selected before,
whatever the new one holds.
-/

namespace PolicyGate

namespace BodySection

def Block.written (block : Block) : String := .ofList (['\n'].intercalate block.rows)

section Rows

variable {lines : List (List Char)} {block : Block}

theorem firstHeadings_append_rows (fresh : block.key ∉ firstHeadings lines) :
    firstHeadings (lines ++ block.rows) = firstHeadings lines ++ [block.key] := by
  have opened : block.rows.filterMap headingOf? = [block.key] := by
    rw [Block.rows, List.filterMap_cons, block.opens, filterMap_headingOf?_of_plain block.plain]
  rw [firstHeadings, List.mem_eraseDups] at fresh
  have new : [block.key].removeAll (preamble :: lines.filterMap headingOf?) = [block.key] := by
    simpa [List.removeAll] using fresh
  rw [firstHeadings, firstHeadings, List.filterMap_append, opened, ← List.cons_append,
    List.eraseDups_append, new]
  rfl

theorem ownedLines_rows (key current : List Char) :
    ownedLines key current block.rows = if block.key = key then block.below else [] := by
  have below := ownedLines_plain_append block.plain key block.key []
  rw [List.append_nil, ownedLines, List.append_nil] at below
  simp only [Block.rows, ownedLines, block.opens, below]

theorem sectionAt_append_rows {key : List Char} (fresh : block.key ∉ firstHeadings lines)
    (known : key ∈ firstHeadings lines) :
    sectionAt (lines ++ block.rows) key = sectionAt lines key := by
  have other : block.key ≠ key := fun same => fresh (same ▸ known)
  rw [sectionAt, sectionAt, ownedLines_eq_linesUnder, ownedLines_eq_linesUnder, linesUnder_append,
    ownedLines_rows, if_neg other, List.append_nil]

theorem sectionAt_new (fresh : block.key ∉ firstHeadings lines) :
    sectionAt (lines ++ block.rows) block.key = block.toSection := by
  rw [sectionAt, ownedLines_eq_linesUnder, linesUnder_append, linesUnder_eq_nil fresh,
    ownedLines_rows, if_pos rfl, List.nil_append, Block.toSection]

theorem sectionsOf_append_rows (fresh : block.key ∉ firstHeadings lines) :
    sectionsOf (lines ++ block.rows) = sectionsOf lines ++ [block.toSection] := by
  have kept : ∀ key ∈ firstHeadings lines,
      sectionAt (lines ++ block.rows) key = sectionAt lines key :=
    fun _ known => sectionAt_append_rows fresh known
  rw [sectionsOf_eq, sectionsOf_eq, firstHeadings_append_rows fresh, List.map_append,
    List.map_congr_left kept, List.map_singleton, sectionAt_new fresh]

theorem sectionsOf_append_written (fresh : block.key ∉ firstHeadings lines) :
    sectionsOf (lines ++ Text.lines block.written.toList) =
      sectionsOf lines ++ [block.toSection] := by
  rw [Block.written, String.toList_ofList, ← sectionsOf_append_rows fresh]
  rcases Text.lines_intercalate_cases block.areLines with whole | cut
  · rw [Block.rows, whole]
  · rw [← sectionsOf_concat_nil, List.append_assoc, Block.rows, ← cut]

end Rows

theorem split_append_block {body : String} (ended : body.toList.getLast? ≠ some '\r')
    (block : Block) (fresh : ∀ part ∈ split body, part.heading.toList ≠ block.key) :
    split (body ++ "\n" ++ block.written) = split body ++ [block.toSection] := by
  have text : (body ++ "\n" ++ block.written).toList =
      body.toList ++ '\n' :: block.written.toList := by
    simp
  have unknown {lines : List (List Char)} (same : sectionsOf lines = split body) :
      block.key ∉ firstHeadings lines := by
    rw [← headings_sectionsOf, same, List.mem_map]
    rintro ⟨part, member, taken⟩
    exact fresh part member taken
  rw [split_eq_sectionsOf, text]
  rcases Text.lines_append_lineFeed ended block.written.toList with whole | longer
  · have same : sectionsOf (Text.lines body.toList) = split body := rfl
    rw [whole, sectionsOf_append_written (unknown same), same]
  · have same : sectionsOf (Text.lines body.toList ++ [[]]) = split body :=
      sectionsOf_concat_nil _
    rw [longer, sectionsOf_append_written (unknown same), same]

end BodySection

theorem Requirement.Selects.append {requirement : Requirement} {sections : List BodySection}
    {part : BodySection} (selects : requirement.Selects sections part)
    (others : List BodySection) : requirement.Selects (sections ++ others) part := by
  obtain ⟨before, after, rfl, matching, unmatched⟩ := selects
  exact ⟨before, after ++ others, by simp, matching, unmatched⟩

theorem Requirement.Satisfied.append {requirement : Requirement} {sections : List BodySection}
    (satisfied : requirement.Satisfied sections) (others : List BodySection) :
    requirement.Satisfied (sections ++ others) := by
  obtain ⟨part, selects, accepted⟩ := satisfied
  exact ⟨part, selects.append others, accepted⟩

open BodySection

/-- A block under a heading that the body does not have adds one section behind the others, and a
body that was accepted for its sections still is. -/
theorem EvidenceRule.verdict_append_block (evidence : EvidenceRule) {body : String}
    (ended : body.toList.getLast? ≠ some '\r') (block : Block)
    (fresh : ∀ part ∈ split body, part.heading.toList ≠ block.key)
    (structured : evidence.verdict body = .structured) :
    split (body ++ "\n" ++ block.written) = split body ++ [block.toSection] ∧
      evidence.verdict (body ++ "\n" ++ block.written) = .structured := by
  have sections := split_append_block ended block fresh
  refine ⟨sections, ?_⟩
  rw [verdict_eq_structured_iff] at structured ⊢
  intro requirement member
  have met := Requirement.isMet_iff.mp (structured requirement member)
  rw [sections, Requirement.isMet_iff]
  exact met.append [block.toSection]

def templateBlock : Block where
  opening := "## More Release Notes".toList
  key := "more release notes".toList
  below := ["TODO: fill in".toList, "".toList]
  opens := by decide
  plain := by decide
  areLines := by decide

theorem EvidenceRule.verdict_append_block_template :
    notesOnly.verdict "## Release Notes\nNone" = .structured ∧
      isTemplate templateBlock.toSection.text = true ∧
      split ("## Release Notes\nNone" ++ "\n" ++ templateBlock.written) =
        split "## Release Notes\nNone" ++ [templateBlock.toSection] ∧
      notesOnly.verdict ("## Release Notes\nNone" ++ "\n" ++ templateBlock.written) =
        .structured := by
  have structured : notesOnly.verdict "## Release Notes\nNone" = .structured := by
    decide +kernel
  exact ⟨structured, by decide +kernel, notesOnly.verdict_append_block (by decide) templateBlock
    (by decide +kernel) structured⟩

end PolicyGate
