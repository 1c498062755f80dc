import PolicyGate.Proofs.Evidence.BuiltIn
import PolicyGate.Proofs.Evidence.Decision
import PolicyGate.Proofs.Text.Lines

/-!
The verdict on a body, said exactly. For each requirement one section counts, the first whose
heading matches; the first requirement for which that section is wanting decides what is missing.
A section that counts as evidence says something, under either rule: what is left of blanks after
trimming is nothing.
-/

namespace PolicyGate

namespace Requirement

variable {requirement : Requirement} {sections : List BodySection}

/-- A heading matches, and the first section whose heading does satisfies the rule. -/
def Satisfied (requirement : Requirement) (sections : List BodySection) : Prop :=
  ∃ part, requirement.Selects sections part ∧ requirement.rule.accepts part.text = true

/-- No heading matches, or the first section whose heading does fails the rule. -/
def Wanting (requirement : Requirement) (sections : List BodySection) : Prop :=
  (∀ part ∈ sections, requirement.recognizes part.heading = false) ∨
    ∃ part, requirement.Selects sections part ∧ requirement.rule.accepts part.text = false

theorem not_exists_selects_iff :
    (¬ ∃ part, requirement.Selects sections part) ↔
      ∀ part ∈ sections, requirement.recognizes part.heading = false := by
  simp only [selects_iff, ← Option.isSome_iff_exists, List.find?_isSome, not_exists, not_and,
    Bool.not_eq_true]

theorem isMet_iff : requirement.isMet sections = true ↔ requirement.Satisfied sections := by
  constructor
  · intro met
    unfold isMet at met
    split at met
    · next part found => exact ⟨part, (selects_iff _ _ _).mpr found, met⟩
    · contradiction
  · rintro ⟨part, selects, accepted⟩
    rw [selects.isMet, accepted]

theorem isMet_eq_false_iff : requirement.isMet sections = false ↔ requirement.Wanting sections := by
  constructor
  · intro unmet
    by_cases selected : ∃ part, requirement.Selects sections part
    · obtain ⟨part, selects⟩ := selected
      exact Or.inr ⟨part, selects, selects.isMet ▸ unmet⟩
    · exact Or.inl (not_exists_selects_iff.mp selected)
  · rintro (unmatched | ⟨part, selects, fails⟩)
    · rw [Bool.eq_false_iff, ne_eq, isMet_iff]
      rintro ⟨part, selects, _⟩
      exact not_exists_selects_iff.mpr unmatched ⟨part, selects⟩
    · rw [selects.isMet, fails]

end Requirement

theorem ContentRule.of_accepts {rule : ContentRule} {text : String}
    (accepted : rule.accepts text = true) : text ≠ "" ∧ isTemplate text = false := by
  cases rule with
  | substantive =>
      simp only [accepts, hasContent, Bool.and_eq_true, Bool.not_eq_true'] at accepted
      simpa using accepted.1
  | intentional =>
      simp only [accepts, isDeliberate, Bool.and_eq_true, Bool.not_eq_true'] at accepted
      simpa using accepted

theorem Text.exists_visible {text : List Char} (snug : Snug text) (nonempty : text ≠ []) :
    ∃ c ∈ text, isBlank c = false := by
  cases text with
  | nil => exact absurd rfl nonempty
  | cons c text => exact ⟨c, List.mem_cons_self, snug.1 c rfl⟩

theorem BodySection.snug_text {body : String} {part : BodySection} (member : part ∈ split body) :
    Text.Snug part.text.toList := by
  obtain ⟨key, _, rfl⟩ := mem_split member
  rw [sectionAt_text]
  exact Text.snug_trim _

namespace EvidenceRule

theorem verdict_cases (evidence : EvidenceRule) (body : String) :
    ((¬ ∃ requirement ∈ evidence.requirements,
        requirement.isMet (BodySection.split body) = false) ∧
      evidence.verdict body = .structured) ∨
    ∃ first, FirstUnmet evidence.requirements (BodySection.split body) first ∧
      evidence.verdict body =
        if evidence.transitional.isMetBy body then .transitional else .missing first.name := by
  cases found : evidence.requirements.find? fun requirement =>
      !requirement.isMet (BodySection.split body) with
  | none =>
      refine Or.inl ⟨by simpa using found, ?_⟩
      rw [verdict, firstMissing, found, Option.map_none]
  | some first =>
      refine Or.inr ⟨first, (firstUnmet_iff _ _ _).mpr found, ?_⟩
      rw [verdict, firstMissing, found, Option.map_some]

end EvidenceRule

theorem FirstUnmet.unique {requirements : List Requirement} {sections : List BodySection}
    {first other : Requirement} (unmet : FirstUnmet requirements sections first)
    (alsoUnmet : FirstUnmet requirements sections other) : first = other := by
  rw [firstUnmet_iff] at unmet alsoUnmet
  exact Option.some.inj (unmet.symm.trans alsoUnmet)

theorem FirstUnmet.exists_mem {requirements : List Requirement} {sections : List BodySection}
    {first : Requirement} (unmet : FirstUnmet requirements sections first) :
    ∃ requirement ∈ requirements, requirement.isMet sections = false := by
  obtain ⟨before, after, rfl, here, _⟩ := unmet
  exact ⟨first, List.mem_append_right _ List.mem_cons_self, here⟩

namespace EvidenceRule

theorem verdict_eq_transitional_iff (evidence : EvidenceRule) (body : String) :
    evidence.verdict body = .transitional ↔
      (∃ requirement ∈ evidence.requirements,
        requirement.isMet (BodySection.split body) = false) ∧
      evidence.transitional.isMetBy body = true := by
  rcases evidence.verdict_cases body with ⟨met, structured⟩ | ⟨first, unmet, told⟩
  · simp [structured, met]
  · simp only [unmet.exists_mem, true_and, told]
    cases evidence.transitional.isMetBy body <;> simp

theorem verdict_eq_missing_iff (evidence : EvidenceRule) (body category : String) :
    evidence.verdict body = .missing category ↔
      evidence.transitional.isMetBy body = false ∧ ∃ requirement,
        FirstUnmet evidence.requirements (BodySection.split body) requirement ∧
          requirement.name = category := by
  rcases evidence.verdict_cases body with ⟨met, structured⟩ | ⟨first, unmet, told⟩
  · have none : ¬ ∃ requirement,
        FirstUnmet evidence.requirements (BodySection.split body) requirement ∧
          requirement.name = category := by
      rintro ⟨requirement, unmet, _⟩
      exact met unmet.exists_mem
    simp [structured, none]
  · have named : (∃ requirement,
        FirstUnmet evidence.requirements (BodySection.split body) requirement ∧
          requirement.name = category) ↔ first.name = category := by
      constructor
      · rintro ⟨other, alsoUnmet, rfl⟩
        rw [unmet.unique alsoUnmet]
      · exact fun same => ⟨first, unmet, same⟩
    rw [told, named]
    cases evidence.transitional.isMetBy body <;> simp

/-- Which verdict a body gets, and what the sections say that count for it. -/
theorem verdict_exact (evidence : EvidenceRule) (body : String) :
    (evidence.verdict body = .structured ↔
      ∀ requirement ∈ evidence.requirements, requirement.Satisfied (BodySection.split body)) ∧
    (evidence.verdict body = .transitional ↔
      (∃ requirement ∈ evidence.requirements, requirement.Wanting (BodySection.split body)) ∧
        evidence.transitional.isMetBy body = true) ∧
    (∀ category, evidence.verdict body = .missing category ↔
      evidence.transitional.isMetBy body = false ∧
      ∃ before requirement after, evidence.requirements = before ++ requirement :: after ∧
        requirement.name = category ∧ requirement.Wanting (BodySection.split body) ∧
        ∀ earlier ∈ before, earlier.Satisfied (BodySection.split body)) ∧
    (evidence.verdict body = .structured →
      ∀ requirement ∈ evidence.requirements, ∀ part,
        requirement.Selects (BodySection.split body) part →
        (∃ c ∈ part.text.toList, Text.isBlank c = false) ∧ isTemplate part.text = false) := by
  refine ⟨?_, ?_, ?_, ?_⟩
  · simp only [verdict_eq_structured_iff, Requirement.isMet_iff]
  · simp only [verdict_eq_transitional_iff, Requirement.isMet_eq_false_iff]
  · intro category
    rw [verdict_eq_missing_iff]
    refine and_congr_right fun _ => ?_
    simp only [FirstUnmet, Requirement.isMet_iff, Requirement.isMet_eq_false_iff]
    constructor
    · rintro ⟨requirement, ⟨before, after, whole, wanting, satisfied⟩, named⟩
      exact ⟨before, requirement, after, whole, named, wanting, satisfied⟩
    · rintro ⟨before, requirement, after, whole, named, wanting, satisfied⟩
      exact ⟨requirement, ⟨before, after, whole, wanting, satisfied⟩, named⟩
  · intro structured requirement member part selects
    have met := (verdict_eq_structured_iff evidence body).mp structured requirement member
    rw [selects.isMet] at met
    obtain ⟨nonempty, noTemplate⟩ := ContentRule.of_accepts met
    refine ⟨Text.exists_visible (BodySection.snug_text selects.mem) ?_, noTemplate⟩
    rwa [ne_eq, String.toList_eq_nil_iff]

def notesOnly : EvidenceRule := ⟨[.releaseNotes], ⟨["audit"], 1⟩⟩

theorem verdict_exact_notesOnly :
    (notesOnly.verdict "## Release Notes\n None\n" = .structured ∧
      ∀ part, Requirement.releaseNotes.Selects (BodySection.split "## Release Notes\n None\n") part →
        (∃ c ∈ part.text.toList, Text.isBlank c = false) ∧ isTemplate part.text = false) ∧
    notesOnly.verdict "## Release Notes\n \n## More Release Notes\nNone" =
      .missing "release notes" := by
  have structured : notesOnly.verdict "## Release Notes\n None\n" = .structured := by
    decide +kernel
  have wanting : Requirement.releaseNotes.Wanting
      (BodySection.split "## Release Notes\n \n## More Release Notes\nNone") := by
    refine Or.inr ⟨⟨"release notes", ""⟩, ?_, by decide +kernel⟩
    rw [Requirement.selects_iff]
    decide +kernel
  obtain ⟨_, _, missing, _⟩ :=
    verdict_exact notesOnly "## Release Notes\n \n## More Release Notes\nNone"
  obtain ⟨_, _, _, telling⟩ := verdict_exact notesOnly "## Release Notes\n None\n"
  exact ⟨⟨structured, telling structured _ List.mem_cons_self⟩, (missing "release notes").mpr
    ⟨by decide +kernel, [], _, [], rfl, rfl, wanting, by simp⟩⟩

end EvidenceRule

end PolicyGate
