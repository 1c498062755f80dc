import Mathlib.Data.List.Infix
import Mathlib.Data.List.Nodup
import PolicyGate.Proofs.Evidence.Heading
import PolicyGate.Proofs.Evidence.NormalForm
import PolicyGate.Proofs.Text.Lines

/-!
What the sections of a body are, said of its lines and without the way they are filled: which
lines open a section and with which heading, which heading a line stands under, and that every
other line is in the text of one section and of no second one.
-/

namespace PolicyGate

theorem flatMap_filter_perm {α β : Type} [DecidableEq β] (owner : α → β) {keys : List β}
    {items : List α} (distinct : keys.Nodup) (known : ∀ item ∈ items, owner item ∈ keys) :
    (keys.flatMap fun key => items.filter fun item => owner item = key).Perm items := by
  induction keys generalizing items with
  | nil =>
      rw [List.eq_nil_iff_forall_not_mem.mpr fun item member =>
        List.not_mem_nil (known item member)]
      exact .nil
  | cons key keys ih =>
      obtain ⟨new, rest⟩ := List.nodup_cons.mp distinct
      have elsewhere : ∀ other ∈ keys, (items.filter fun item => owner item = other) =
          (items.filter fun item => !decide (owner item = key)).filter
            fun item => owner item = other := by
        intro other member
        rw [List.filter_filter]
        apply List.filter_congr
        intro item _
        have apart : other ≠ key := fun same => new (same ▸ member)
        by_cases owned : owner item = other
        · simp [owned, apart]
        · simp [owned]
      have others : ∀ item ∈ items.filter (fun item => !decide (owner item = key)),
          owner item ∈ keys := by
        intro item member
        simp only [List.mem_filter, Bool.not_eq_true', decide_eq_false_iff_not] at member
        exact (List.mem_cons.mp (known item member.1)).resolve_left member.2
      rw [List.flatMap_cons, List.flatMap_congr elsewhere]
      exact ((ih rest others).append_left _).trans (List.filter_append_perm _ items)

namespace BodySection

/-- What a greedy search keeps of the text behind a marker: it leaves out as much white space as
it can, but has to keep something, be it white space itself. -/
structure Keeps (text blanks kept : List Char) : Prop where
  whole : text = blanks ++ kept
  blank : ∀ c ∈ blanks, Text.isBlank c = true
  nonempty : kept ≠ []
  greedy : ∀ longer rest, text = longer ++ rest → (∀ c ∈ longer, Text.isBlank c = true) →
    rest ≠ [] → longer.length ≤ blanks.length

theorem Keeps.of_visible {c : Char} (visible : Text.isBlank c = false) (text : List Char) :
    Keeps (c :: text) [] (c :: text) where
  whole := rfl
  blank := by simp
  nonempty := List.cons_ne_nil _ _
  greedy := by
    intro longer rest whole blank _
    cases longer with
    | nil => exact Nat.le_refl _
    | cons first longer =>
        rw [List.cons_append, List.cons.injEq] at whole
        have shown := blank first List.mem_cons_self
        rw [← whole.1, visible] at shown
        contradiction

theorem Keeps.of_last (c : Char) : Keeps [c] [] [c] where
  whole := rfl
  blank := by simp
  nonempty := List.cons_ne_nil _ _
  greedy := by
    intro longer rest whole _ nonempty
    have sizes := congrArg List.length whole
    have positive := List.length_pos_of_ne_nil nonempty
    simp only [List.length_append, List.length_singleton, List.length_nil] at sizes ⊢
    omega

theorem Keeps.cons {c : Char} {text blanks kept : List Char} (blank : Text.isBlank c = true)
    (keeps : Keeps text blanks kept) : Keeps (c :: text) (c :: blanks) kept where
  whole := by rw [keeps.whole, List.cons_append]
  blank := List.forall_mem_cons.mpr ⟨blank, keeps.blank⟩
  nonempty := keeps.nonempty
  greedy := by
    intro longer rest whole allBlank nonempty
    cases longer with
    | nil => exact Nat.zero_le _
    | cons first longer =>
        rw [List.cons_append, List.cons.injEq] at whole
        have shorter := keeps.greedy longer rest whole.2
          (fun other member => allBlank other (List.mem_cons_of_mem _ member)) nonempty
        simpa using shorter

theorem exists_keeps {text : List Char} (nonempty : text ≠ []) :
    ∃ blanks kept, Keeps text blanks kept := by
  induction text with
  | nil => exact absurd rfl nonempty
  | cons c text ih =>
      cases blank : Text.isBlank c with
      | false => exact ⟨[], c :: text, .of_visible blank text⟩
      | true =>
          cases text with
          | nil => exact ⟨[], [c], .of_last c⟩
          | cons next text =>
              obtain ⟨blanks, kept, keeps⟩ := ih (List.cons_ne_nil _ _)
              exact ⟨c :: blanks, kept, keeps.cons blank⟩

theorem headingOf?_eq_some_iff_keeps (line key : List Char) :
    headingOf? line = some key ↔ ∃ text blanks kept,
      line = '#' :: '#' :: text ∧ Keeps text blanks kept ∧ key = normalChars kept := by
  rw [headingOf?_eq_some_iff]
  constructor
  · rintro ⟨text, nonempty, rfl, rfl⟩
    obtain ⟨blanks, kept, keeps⟩ := exists_keeps nonempty
    refine ⟨text, blanks, kept, rfl, keeps, ?_⟩
    rw [keeps.whole, normalChars_append_of_blank keeps.blank]
  · rintro ⟨text, blanks, kept, rfl, keeps, rfl⟩
    refine ⟨text, ?_, rfl, ?_⟩
    · rw [keeps.whole]
      exact List.append_ne_nil_of_right_ne_nil _ keeps.nonempty
    · rw [keeps.whole, normalChars_append_of_blank keeps.blank]

/-- The heading under which a line stands that has these lines in front of it: the last one that
they open, or else the preamble. -/
def openHeading (before : List (List Char)) : List Char :=
  (before.filterMap headingOf?).getLast?.getD preamble

@[simp] theorem openHeading_nil : openHeading [] = preamble := rfl

theorem openHeading_concat (before : List (List Char)) (line : List Char) :
    openHeading (before ++ [line]) = (headingOf? line).getD (openHeading before) := by
  cases found : headingOf? line <;> simp [openHeading, found]

theorem openHeading_mem {before after : List (List Char)} :
    openHeading before ∈ firstHeadings (before ++ after) := by
  rw [mem_firstHeadings]
  cases last : (before.filterMap headingOf?).getLast? with
  | none => exact Or.inl (by rw [openHeading, last, Option.getD_none])
  | some key =>
      obtain ⟨line, member, opens⟩ := List.mem_filterMap.mp (List.mem_of_getLast? last)
      refine Or.inr ⟨line, List.mem_append_left _ member, ?_⟩
      rw [openHeading, last, Option.getD_some, opens]

/-- The lines that open no section, each behind the lines in front of it. -/
def placings (lines : List (List Char)) : List (List (List Char) × List Char) :=
  (lines.inits.zip lines).filter fun place => headingOf? place.2 = none

def linesUnder (key : List Char) (lines : List (List Char)) : List (List Char) :=
  ((placings lines).filter fun place => openHeading place.1 = key).map Prod.snd

theorem ownedLines_openHeading (key : List Char) (before rest : List (List Char)) :
    ownedLines key (openHeading before) rest =
      ((((rest.inits.map (before ++ ·)).zip rest).filter fun place =>
        headingOf? place.2 = none).filter fun place => openHeading place.1 = key).map Prod.snd := by
  induction rest generalizing before with
  | nil => rfl
  | cons line rest ih =>
      have next := ih (before ++ [line])
      have further : (fun others => before ++ line :: others) = (before ++ [line] ++ ·) := by
        funext others
        simp
      rw [openHeading_concat] at next
      simp only [List.inits_cons, List.map_cons, List.map_map, Function.comp_def, further,
        List.append_nil, List.zip_cons_cons, List.filter_cons]
      cases found : headingOf? line with
      | some heading =>
          rw [found, Option.getD_some] at next
          simp only [ownedLines, found, next, reduceCtorEq, decide_false, Bool.false_eq_true,
            if_false]
      | none =>
          rw [found, Option.getD_none] at next
          by_cases same : openHeading before = key
          · rw [same] at next
            simp only [ownedLines, found, same, next, decide_true, if_true, List.filter_cons,
              List.map_cons]
          · simp only [ownedLines, found, same, next, decide_true, if_true, List.filter_cons,
              decide_false, Bool.false_eq_true, if_false]

theorem ownedLines_append (key : List Char) (before front back : List (List Char)) :
    ownedLines key (openHeading before) (front ++ back) =
      ownedLines key (openHeading before) front ++
        ownedLines key (openHeading (before ++ front)) back := by
  induction front generalizing before with
  | nil => simp [ownedLines]
  | cons line front ih =>
      have next := ih (before ++ [line])
      rw [openHeading_concat, List.append_assoc, List.singleton_append] at next
      cases found : headingOf? line with
      | some heading =>
          rw [found, Option.getD_some] at next
          simp only [List.cons_append, ownedLines, found, next]
      | none =>
          rw [found, Option.getD_none] at next
          simp only [List.cons_append, ownedLines, found, next]
          split <;> rfl

theorem ownedLines_eq_linesUnder (key : List Char) (lines : List (List Char)) :
    ownedLines key preamble lines = linesUnder key lines := by
  have whole := ownedLines_openHeading key [] lines
  simpa [linesUnder, placings] using whole

theorem linesUnder_append (key : List Char) (front back : List (List Char)) :
    linesUnder key (front ++ back) =
      linesUnder key front ++ ownedLines key (openHeading front) back := by
  rw [← ownedLines_eq_linesUnder, ← ownedLines_eq_linesUnder, ← openHeading_nil,
    ownedLines_append, List.nil_append]

theorem openHeading_of_mem_placings {lines : List (List Char)}
    {place : List (List Char) × List Char} (member : place ∈ placings lines) :
    openHeading place.1 ∈ firstHeadings lines := by
  have inside := (List.of_mem_zip (List.mem_filter.mp member).1).1
  obtain ⟨after, whole⟩ := (List.mem_inits _ _).mp inside
  rw [← whole]
  exact openHeading_mem

theorem linesUnder_eq_nil {key : List Char} {lines : List (List Char)}
    (fresh : key ∉ firstHeadings lines) : linesUnder key lines = [] := by
  rw [linesUnder, List.map_eq_nil_iff, List.filter_eq_nil_iff]
  intro place member same
  rw [decide_eq_true_eq] at same
  exact fresh (same ▸ openHeading_of_mem_placings member)

theorem linesUnder_kept (lines : List (List Char)) :
    ((firstHeadings lines).flatMap fun key => linesUnder key lines).Perm
      (lines.filter fun line => headingOf? line = none) := by
  have known : ∀ place ∈ placings lines, openHeading place.1 ∈ firstHeadings lines :=
    fun _ member => openHeading_of_mem_placings member
  have sorted := (flatMap_filter_perm (fun place => openHeading place.1)
    (nodup_eraseDups _) known).map Prod.snd
  have all : (lines.inits.zip lines).map Prod.snd = lines := List.map_snd_zip (by simp)
  have texts : (placings lines).map Prod.snd =
      ((lines.inits.zip lines).map Prod.snd).filter fun line => headingOf? line = none := by
    rw [List.filter_map]
    rfl
  rw [all] at texts
  rwa [List.map_flatMap, texts] at sorted

/-- How the sections of a body follow from its lines. Headings stand in the order in which they
first appear, and a text is the trimmed join of the lines under its heading. -/
structure Sectioned (lines : List (List Char)) (sections : List BodySection) : Prop where
  headings : sections.map (fun part => part.heading.toList) =
    preamble :: ((lines.filterMap headingOf?).filter (· != preamble)).eraseDups
  distinct : (sections.map heading).Nodup
  normal : ∀ part ∈ sections, normalForm part.heading = part.heading
  texts : ∀ part ∈ sections, part.text.toList =
    Text.trim (['\n'].intercalate (linesUnder part.heading.toList lines))
  kept : (sections.flatMap fun part => linesUnder part.heading.toList lines).Perm
    (lines.filter fun line => headingOf? line = none)
  placed : ∀ before line after, lines = before ++ line :: after →
    ∃! part, part ∈ sections ∧ part.heading.toList = openHeading before

theorem normalChars_of_mem_firstHeadings {key : List Char} {lines : List (List Char)}
    (member : key ∈ firstHeadings lines) : normalChars key = key := by
  rcases mem_firstHeadings.mp member with rfl | ⟨line, _, opens⟩
  · decide
  · obtain ⟨rest, _, _, rfl⟩ := (headingOf?_eq_some_iff line key).mp opens
    exact normalChars_normalChars rest

theorem headings_sectionsOf (lines : List (List Char)) :
    (sectionsOf lines).map (fun part => part.heading.toList) = firstHeadings lines := by
  have same : (fun part => part.heading.toList) ∘ sectionAt lines = id :=
    funext (sectionAt_heading lines)
  rw [sectionsOf_eq, List.map_map, same, List.map_id]

theorem mem_sectionsOf {lines : List (List Char)} {part : BodySection} :
    part ∈ sectionsOf lines ↔ ∃ key ∈ firstHeadings lines, sectionAt lines key = part := by
  rw [sectionsOf_eq, List.mem_map]

theorem sectioned_sectionsOf (lines : List (List Char)) : Sectioned lines (sectionsOf lines) where
  headings := by
    rw [headings_sectionsOf, firstHeadings, List.eraseDups_cons]
    rfl
  distinct := by
    apply List.Nodup.of_map String.toList
    rw [List.map_map]
    exact (headings_sectionsOf lines).symm ▸ nodup_eraseDups _
  normal := by
    intro part member
    obtain ⟨key, among, rfl⟩ := mem_sectionsOf.mp member
    rw [normalForm, sectionAt_heading, normalChars_of_mem_firstHeadings among]
    rfl
  texts := by
    intro part member
    obtain ⟨key, _, rfl⟩ := mem_sectionsOf.mp member
    rw [sectionAt_text, sectionAt_heading, ownedLines_eq_linesUnder]
  kept := by
    have kept := linesUnder_kept lines
    rwa [← headings_sectionsOf, List.flatMap_map] at kept
  placed := by
    intro before line after whole
    refine ⟨sectionAt lines (openHeading before), ⟨?_, sectionAt_heading _ _⟩, ?_⟩
    · exact mem_sectionsOf.mpr ⟨_, whole ▸ openHeading_mem, rfl⟩
    · rintro other ⟨member, same⟩
      obtain ⟨key, _, rfl⟩ := mem_sectionsOf.mp member
      rw [sectionAt_heading] at same
      rw [same]

/-- The sections of a body, from its lines alone. -/
theorem split_sectioned (body : String) :
    (∀ rows, Text.Lined body.toList rows ↔ rows = Text.lines body.toList) ∧
    (∀ line key, headingOf? line = some key ↔
      ∃ rest, rest ≠ [] ∧ line = '#' :: '#' :: rest ∧ key = normalChars rest) ∧
    (∀ line key, headingOf? line = some key ↔ ∃ rest blanks kept,
      line = '#' :: '#' :: rest ∧ Keeps rest blanks kept ∧ key = normalChars kept) ∧
    Sectioned (Text.lines body.toList) (split body) :=
  ⟨fun rows => (Text.lined_iff _ rows).trans eq_comm, headingOf?_eq_some_iff,
    headingOf?_eq_some_iff_keeps, sectioned_sectionsOf _⟩

example : split "a\n## B\nc\n## _Preamble\nd\n##b\ne" =
    [⟨"_preamble", "a\nd"⟩, ⟨"b", "c\ne"⟩] := by
  decide

end BodySection

end PolicyGate
