import PolicyGate.Evidence.BodySection

/-!
Which sections a body has, and which lines each gathers. There is a section for every heading, in
the order in which headings first appear. Every line that opens no section is owned by the heading
that is open where it stands; a section holds the lines that its heading owns, in the order of the
body.
-/

namespace PolicyGate

section FirstAppearances

variable {α : Type} [BEq α] [LawfulBEq α]

theorem eraseDups_of_nodup {items : List α} (distinct : items.Nodup) : items.eraseDups = items := by
  induction items with
  | nil => rfl
  | cons item items ih =>
      obtain ⟨new, rest⟩ := List.nodup_cons.mp distinct
      have kept : (items.filter fun other => !other == item) = items := by
        rw [List.filter_eq_self]
        intro other member
        rw [Bool.not_eq_true', beq_eq_false_iff_ne]
        rintro rfl
        exact new member
      rw [List.eraseDups_cons, kept, ih rest]

theorem nodup_eraseDups (items : List α) : items.eraseDups.Nodup := by
  induction size : items.length using Nat.strongRecOn generalizing items with
  | ind size ih =>
      cases items with
      | nil => exact List.nodup_nil
      | cons item items =>
          rw [List.eraseDups_cons, List.nodup_cons]
          constructor
          · simp
          · have shorter := List.length_filter_le (fun other => !other == item) items
            rw [List.length_cons] at size
            exact ih _ (by omega) _ rfl

theorem eraseDups_append_cons_of_mem {front back : List α} {item : α} (known : item ∈ front) :
    (front ++ item :: back).eraseDups = (front ++ back).eraseDups := by
  simp [List.eraseDups_append, List.removeAll, known]

end FirstAppearances

namespace BodySection

/-- The lines that a heading owns, where another one may be open at the start. -/
def ownedLines (key current : List Char) : List (List Char) → List (List Char)
  | [] => []
  | line :: rest =>
    match headingOf? line with
    | some heading => ownedLines key heading rest
    | none =>
      if current = key then line :: ownedLines key current rest else ownedLines key current rest

theorem ownedLines_sublist (key current : List Char) (lines : List (List Char)) :
    (ownedLines key current lines).Sublist lines := by
  induction lines generalizing current with
  | nil => exact List.Sublist.refl _
  | cons line rest ih =>
      simp only [ownedLines]
      split
      · exact (ih _).cons _
      · split
        · exact (ih _).cons_cons _
        · exact (ih _).cons _

def headings (drafts : List Draft) : List (List Char) := drafts.map Draft.heading

theorem headings_openDraft (heading : List Char) (drafts : List Draft) :
    headings (openDraft heading drafts) =
      if heading ∈ headings drafts then headings drafts else headings drafts ++ [heading] := by
  unfold openDraft headings
  split
  · next opened => simp_all
  · next unopened => simp_all

theorem headings_addLine (heading line : List Char) (drafts : List Draft) :
    headings (addLine heading line drafts) = headings drafts := by
  simp only [headings, addLine, List.map_map]
  apply List.map_congr_left
  intro draft _
  simp only [Function.comp_apply]
  split <;> rfl

theorem mem_openDraft {heading : List Char} {drafts : List Draft} {draft : Draft}
    (member : draft ∈ openDraft heading drafts) :
    draft ∈ drafts ∨ heading ∉ headings drafts ∧ draft = ⟨heading, []⟩ := by
  unfold openDraft at member
  split at member
  · exact Or.inl member
  · next unopened =>
      rw [List.mem_append, List.mem_singleton] at member
      refine member.imp_right fun same => ⟨?_, same⟩
      simpa [headings] using unopened

theorem mem_addLine {heading line : List Char} {drafts : List Draft} {draft : Draft}
    (member : draft ∈ addLine heading line drafts) :
    ∃ old ∈ drafts, old.heading = draft.heading ∧ draft.lines.reverse =
      old.lines.reverse ++ if heading = draft.heading then [line] else [] := by
  obtain ⟨old, among, rfl⟩ := List.mem_map.mp member
  refine ⟨old, among, ?_⟩
  by_cases same : old.heading = heading
  · simp [same]
  · simp [same, Ne.symm same]

theorem mem_fill {current : List Char} {drafts : List Draft} {lines : List (List Char)}
    {draft : Draft} (opened : current ∈ headings drafts) (member : draft ∈ fill current drafts lines) :
    (∃ old ∈ drafts, old.heading = draft.heading ∧ draft.lines.reverse =
      old.lines.reverse ++ ownedLines draft.heading current lines) ∨
    (draft.heading ∉ headings drafts ∧
      draft.lines.reverse = ownedLines draft.heading current lines) := by
  induction lines generalizing current drafts with
  | nil => exact Or.inl ⟨draft, member, rfl, by simp [ownedLines]⟩
  | cons line rest ih =>
      cases found : headingOf? line with
      | some heading =>
          simp only [fill, found, ownedLines] at member ⊢
          have stillOpened : heading ∈ headings (openDraft heading drafts) := by
            rw [headings_openDraft]
            split <;> simp_all
          rcases ih stillOpened member with ⟨old, among, same, gathered⟩ | ⟨absent, gathered⟩
          · rcases mem_openDraft among with earlier | ⟨new, rfl⟩
            · exact Or.inl ⟨old, earlier, same, gathered⟩
            · refine Or.inr ⟨?_, by simpa using gathered⟩
              rw [← same]
              exact new
          · refine Or.inr ⟨?_, gathered⟩
            intro earlier
            apply absent
            rw [headings_openDraft]
            split
            · exact earlier
            · exact List.mem_append_left _ earlier
      | none =>
          simp only [fill, found, ownedLines] at member ⊢
          have stillOpened : current ∈ headings (addLine current line drafts) := by
            rwa [headings_addLine]
          rcases ih stillOpened member with ⟨old, among, same, gathered⟩ | ⟨absent, gathered⟩
          · obtain ⟨older, before, alike, lines⟩ := mem_addLine among
            refine Or.inl ⟨older, before, alike.trans same, ?_⟩
            rw [gathered, lines, same]
            split <;> simp
          · rw [headings_addLine] at absent
            refine Or.inr ⟨absent, ?_⟩
            have other : current ≠ draft.heading := fun same => absent (same ▸ opened)
            rw [gathered, if_neg other]

theorem headings_fill (current : List Char) {drafts : List Draft}
    (distinct : (headings drafts).Nodup) (lines : List (List Char)) :
    headings (fill current drafts lines) =
      (headings drafts ++ lines.filterMap headingOf?).eraseDups := by
  induction lines generalizing current drafts with
  | nil => rw [fill, List.filterMap_nil, List.append_nil, eraseDups_of_nodup distinct]
  | cons line rest ih =>
      cases found : headingOf? line with
      | none =>
          have filled := ih current ((headings_addLine current line drafts).symm ▸ distinct)
          rw [headings_addLine] at filled
          simp only [fill, found, List.filterMap_cons, filled]
      | some heading =>
          simp only [fill, found, List.filterMap_cons]
          have opened := headings_openDraft heading drafts
          split at opened
          · next known =>
              rw [ih heading (opened.symm ▸ distinct), opened, eraseDups_append_cons_of_mem known]
          · next new =>
              have stillDistinct : (headings drafts ++ [heading]).Nodup := by
                rw [List.nodup_append]
                refine ⟨distinct, List.nodup_cons.mpr ⟨List.not_mem_nil, List.nodup_nil⟩, ?_⟩
                intro key among other member same
                rw [same, List.mem_singleton.mp member] at among
                exact new among
              rw [ih heading (opened.symm ▸ stillDistinct), opened, List.append_assoc,
                List.singleton_append]

def firstHeadings (lines : List (List Char)) : List (List Char) :=
  (preamble :: lines.filterMap headingOf?).eraseDups

theorem mem_firstHeadings {key : List Char} {lines : List (List Char)} :
    key ∈ firstHeadings lines ↔ key = preamble ∨ ∃ line ∈ lines, headingOf? line = some key := by
  rw [firstHeadings, List.mem_eraseDups, List.mem_cons, List.mem_filterMap]

/-- The section of a heading: the trimmed join of the lines that the heading owns. -/
def sectionAt (lines : List (List Char)) (key : List Char) : BodySection :=
  ⟨.ofList key, .ofList (Text.trim (['\n'].intercalate (ownedLines key preamble lines)))⟩

@[simp] theorem sectionAt_heading (lines : List (List Char)) (key : List Char) :
    (sectionAt lines key).heading.toList = key :=
  String.toList_ofList

@[simp] theorem sectionAt_text (lines : List (List Char)) (key : List Char) :
    (sectionAt lines key).text.toList =
      Text.trim (['\n'].intercalate (ownedLines key preamble lines)) :=
  String.toList_ofList

def sectionsOf (lines : List (List Char)) : List BodySection :=
  (fill preamble [⟨preamble, []⟩] lines).map Draft.close

theorem split_eq_sectionsOf (body : String) : split body = sectionsOf (Text.lines body.toList) :=
  rfl

theorem sectionsOf_eq (lines : List (List Char)) :
    sectionsOf lines = (firstHeadings lines).map (sectionAt lines) := by
  have closed : ∀ draft ∈ fill preamble [⟨preamble, []⟩] lines,
      draft.close = sectionAt lines draft.heading := by
    intro draft among
    have gathered : draft.lines.reverse = ownedLines draft.heading preamble lines := by
      rcases mem_fill (by simp [headings]) among with ⟨old, first, _, gathered⟩ | ⟨_, gathered⟩
      · rw [List.mem_singleton.mp first] at gathered
        exact gathered
      · exact gathered
    rw [Draft.close, Draft.text, gathered, sectionAt]
  have opened : headings (fill preamble [⟨preamble, []⟩] lines) = firstHeadings lines :=
    headings_fill preamble (by simp [headings]) lines
  rw [sectionsOf, List.map_congr_left closed, ← opened, headings, List.map_map]
  rfl

theorem mem_split {body : String} {part : BodySection} (member : part ∈ split body) :
    ∃ key ∈ firstHeadings (Text.lines body.toList),
      part = sectionAt (Text.lines body.toList) key := by
  rw [split_eq_sectionsOf, sectionsOf_eq] at member
  obtain ⟨key, among, same⟩ := List.mem_map.mp member
  exact ⟨key, among, same.symm⟩

theorem heading_of_mem_split {body : String} {part : BodySection} (member : part ∈ split body) :
    part.heading.toList = preamble ∨
      ∃ line ∈ Text.lines body.toList, headingOf? line = some part.heading.toList := by
  obtain ⟨key, among, rfl⟩ := mem_split member
  rw [sectionAt_heading]
  exact mem_firstHeadings.mp among

end BodySection

end PolicyGate
