import PolicyGate.Proofs.Evidence.Sections

/-!
Markers with no heading text behind them. A marker alone is a line of text like any other. White
space behind a marker is taken for its heading, whose normal form is empty, so such a line opens a
section with the empty heading.
-/

namespace PolicyGate.BodySection

def BlankMarker (line : List Char) : Prop :=
  ∃ blanks, line = '#' :: '#' :: blanks ∧ ∀ c ∈ blanks, Text.isBlank c = true

theorem BlankMarker.headingOf?_eq {line : List Char} (marker : BlankMarker line) :
    headingOf? line = if line = ['#', '#'] then none else some [] := by
  obtain ⟨blanks, rfl, blank⟩ := marker
  cases blanks with
  | nil => rfl
  | cons c blanks =>
      rw [if_neg (by simp), headingOf?, (normalChars_eq_nil_iff _).mpr blank]

theorem headingOf?_eq_some_nil_iff (line : List Char) :
    headingOf? line = some [] ↔ BlankMarker line ∧ line ≠ ['#', '#'] := by
  constructor
  · intro opens
    obtain ⟨rest, nonempty, rfl, normal⟩ := (headingOf?_eq_some_iff _ _).mp opens
    exact ⟨⟨rest, rfl, (normalChars_eq_nil_iff rest).mp normal.symm⟩, by simpa using nonempty⟩
  · rintro ⟨marker, longer⟩
    rw [marker.headingOf?_eq, if_neg longer]

theorem exists_empty_heading_iff (body : String) :
    (∃ part ∈ split body, part.heading = "") ↔
      ∃ line ∈ Text.lines body.toList, BlankMarker line ∧ line ≠ ['#', '#'] := by
  simp only [← headingOf?_eq_some_nil_iff]
  constructor
  · rintro ⟨part, member, empty⟩
    rcases heading_of_mem_split member with first | opened
    · rw [empty] at first
      exact absurd first (by decide)
    · rwa [empty] at opened
  · rintro ⟨line, member, opens⟩
    refine ⟨sectionAt (Text.lines body.toList) [], ?_, rfl⟩
    exact mem_sectionsOf.mpr ⟨[], mem_firstHeadings.mpr (Or.inr ⟨line, member, opens⟩), rfl⟩

/-- Some section has an empty heading when some marker has white space behind it, and only then.
A marker alone leaves the open section open and stands in its text, behind the lines that the
section has so far; behind any other the section with the empty heading is open. -/
theorem blank_markers (body : String) :
    ((∃ part ∈ split body, part.heading = "") ↔
      ∃ line ∈ Text.lines body.toList, BlankMarker line ∧ line ≠ ['#', '#']) ∧
    ∀ before line after, Text.lines body.toList = before ++ line :: after → BlankMarker line →
      if line = ['#', '#'] then
        openHeading (before ++ [line]) = openHeading before ∧
          ∃ part ∈ split body, part.heading.toList = openHeading before ∧
            ∃ below, part.text.toList = Text.trim
              (['\n'].intercalate (linesUnder (openHeading before) before ++ line :: below))
      else openHeading (before ++ [line]) = [] := by
  refine ⟨exists_empty_heading_iff body, ?_⟩
  intro before line after whole marker
  have opens := marker.headingOf?_eq
  split
  · next alone =>
      rw [if_pos alone] at opens
      refine ⟨by rw [openHeading_concat, opens, Option.getD_none],
        sectionAt (Text.lines body.toList) (openHeading before), ?_, sectionAt_heading _ _,
        ownedLines (openHeading before) (openHeading before) after, ?_⟩
      · exact mem_sectionsOf.mpr ⟨_, whole ▸ openHeading_mem, rfl⟩
      · rw [sectionAt_text, ownedLines_eq_linesUnder, whole, linesUnder_append]
        simp only [ownedLines, opens, if_true]
  · next longer =>
      rw [openHeading_concat, opens, if_neg longer, Option.getD_some]

def markedBody : String := "a\n##\nb\n## \nc"

theorem lines_markedBody :
    Text.lines markedBody.toList = [['a'], ['#', '#'], ['b'], ['#', '#', ' '], ['c']] := by
  decide

theorem blank_markers_markedBody :
    (∃ part ∈ split markedBody, part.heading = "") ∧
    openHeading [['a'], ['#', '#']] = openHeading [['a']] ∧
    openHeading [['a'], ['#', '#'], ['b'], ['#', '#', ' ']] = [] := by
  have spacedMarker : BlankMarker ['#', '#', ' '] := ⟨[' '], rfl, List.forall_mem_singleton.mpr rfl⟩
  obtain ⟨empty, places⟩ := blank_markers markedBody
  have alone := places [['a']] ['#', '#'] _ lines_markedBody ⟨[], rfl, by simp⟩
  have spaced := places [['a'], ['#', '#'], ['b']] ['#', '#', ' '] _ lines_markedBody spacedMarker
  rw [if_pos rfl] at alone
  rw [if_neg (by decide)] at spaced
  exact ⟨empty.mpr ⟨['#', '#', ' '], by simp [lines_markedBody], spacedMarker, by decide⟩,
    alone.1, spaced⟩

theorem spaced_marker_opens :
    ¬ ∀ body : String, (∀ part ∈ split body, part.heading ≠ "") ∧
      ∀ before line after, Text.lines body.toList = before ++ line :: after → BlankMarker line →
        headingOf? line = none ∧ openHeading (before ++ [line]) = openHeading before := by
  intro always
  have opened : ⟨"", "b"⟩ ∈ split "a\n## \nb" := by decide +kernel
  exact (always "a\n## \nb").1 _ opened rfl

end PolicyGate.BodySection
