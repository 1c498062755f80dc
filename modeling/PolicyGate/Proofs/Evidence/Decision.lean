import PolicyGate.Evidence.Verdict
import PolicyGate.Proofs.Evidence.SectionTemplate

/-!
The verdict on a body, from the sections that stand for the requirements. The first requirement
that is not met names what is missing, and only the keywords can save the body then.
-/

namespace PolicyGate

/-- The first section that a requirement recognizes. -/
def Requirement.Selects (requirement : Requirement) (sections : List BodySection)
    (part : BodySection) : Prop :=
  ∃ before after, sections = before ++ part :: after ∧
    requirement.recognizes part.heading = true ∧
    ∀ earlier ∈ before, requirement.recognizes earlier.heading = false

def FirstUnmet (requirements : List Requirement) (sections : List BodySection)
    (requirement : Requirement) : Prop :=
  ∃ before after, requirements = before ++ requirement :: after ∧
    requirement.isMet sections = false ∧ ∀ earlier ∈ before, earlier.isMet sections = true

theorem Requirement.selects_iff (requirement : Requirement) (sections : List BodySection)
    (part : BodySection) :
    requirement.Selects sections part ↔
      sections.find? (fun part => requirement.recognizes part.heading) = some part := by
  simp only [Requirement.Selects, List.find?_eq_some_iff_append, Bool.not_eq_true']
  constructor
  · rintro ⟨before, after, whole, matching, unmatched⟩
    exact ⟨matching, before, after, whole, unmatched⟩
  · rintro ⟨matching, before, after, whole, unmatched⟩
    exact ⟨before, after, whole, matching, unmatched⟩

theorem Requirement.Selects.mem {requirement : Requirement} {sections : List BodySection}
    {part : BodySection} (selects : requirement.Selects sections part) : part ∈ sections := by
  obtain ⟨before, after, rfl, _⟩ := selects
  exact List.mem_append_right _ List.mem_cons_self

theorem Requirement.Selects.isMet {requirement : Requirement} {sections : List BodySection}
    {part : BodySection} (selects : requirement.Selects sections part) :
    requirement.isMet sections = requirement.rule.accepts part.text := by
  rw [Requirement.selects_iff] at selects
  rw [Requirement.isMet, selects]

theorem firstUnmet_iff (requirements : List Requirement) (sections : List BodySection)
    (requirement : Requirement) :
    FirstUnmet requirements sections requirement ↔
      requirements.find? (fun requirement => !requirement.isMet sections) = some requirement := by
  simp only [FirstUnmet, List.find?_eq_some_iff_append, Bool.not_eq_true', Bool.not_not]
  constructor
  · rintro ⟨before, after, whole, unmet, met⟩
    exact ⟨unmet, before, after, whole, met⟩
  · rintro ⟨unmet, before, after, whole, met⟩
    exact ⟨before, after, whole, unmet, met⟩

theorem exists_firstUnmet {requirements : List Requirement} {sections : List BodySection}
    {requirement : Requirement} (member : requirement ∈ requirements)
    (unmet : requirement.isMet sections = false) :
    ∃ first, FirstUnmet requirements sections first := by
  have found : (requirements.find? fun requirement => !requirement.isMet sections).isSome := by
    rw [List.find?_isSome]
    exact ⟨requirement, member, by simp [unmet]⟩
  obtain ⟨first, same⟩ := Option.isSome_iff_exists.mp found
  exact ⟨first, (firstUnmet_iff _ _ _).mpr same⟩

theorem firstMissing_congr {sections others : List BodySection} {requirements : List Requirement}
    (same : ∀ requirement ∈ requirements, requirement.isMet others = requirement.isMet sections) :
    firstMissing others requirements = firstMissing sections requirements := by
  have found : requirements.find? (fun requirement => !requirement.isMet others) =
      requirements.find? fun requirement => !requirement.isMet sections := by
    induction requirements with
    | nil => rfl
    | cons requirement requirements ih =>
        have rest := ih fun other member => same other (List.mem_cons_of_mem _ member)
        rw [List.find?_cons, List.find?_cons, same requirement List.mem_cons_self, rest]
  rw [firstMissing, firstMissing, found]

theorem TransitionalRule.isMetBy_iff (rule : TransitionalRule) (body : String) :
    rule.isMetBy body = true ↔ isTemplate body = false ∧
      rule.minKeywords ≤ (foundKeywords rule.keywords (normalChars body.toList)).length := by
  simp only [isMetBy, Bool.and_eq_true, Bool.not_eq_true', decide_eq_true_eq]

theorem TransitionalRule.not_isMetBy_iff (rule : TransitionalRule) (body : String) :
    rule.isMetBy body = false ↔ isTemplate body = true ∨
      (foundKeywords rule.keywords (normalChars body.toList)).length < rule.minKeywords := by
  rw [← Bool.not_eq_true, rule.isMetBy_iff, not_and_or, Bool.not_eq_false, Nat.not_le]

theorem EvidenceRule.verdict_of_firstUnmet (evidence : EvidenceRule) (body : String)
    {first : Requirement}
    (unmet : FirstUnmet evidence.requirements (BodySection.split body) first) :
    evidence.verdict body =
      if isTemplate body = true ∨ (foundKeywords evidence.transitional.keywords
          (normalChars body.toList)).length < evidence.transitional.minKeywords
        then .missing first.name else .transitional := by
  rw [firstUnmet_iff] at unmet
  simp only [← TransitionalRule.not_isMetBy_iff, EvidenceRule.verdict, firstMissing, unmet,
    Option.map_some]
  cases evidence.transitional.isMetBy body <;> rfl

theorem EvidenceRule.verdict_eq_structured_iff (evidence : EvidenceRule) (body : String) :
    evidence.verdict body = .structured ↔
      ∀ requirement ∈ evidence.requirements,
        requirement.isMet (BodySection.split body) = true := by
  constructor
  · intro structured requirement member
    cases met : requirement.isMet (BodySection.split body) with
    | true => rfl
    | false =>
        obtain ⟨first, firstUnmet⟩ := exists_firstUnmet member met
        rw [evidence.verdict_of_firstUnmet body firstUnmet] at structured
        split at structured <;> contradiction
  · intro met
    have complete : firstMissing (BodySection.split body) evidence.requirements = none := by
      simpa [firstMissing] using met
    rw [EvidenceRule.verdict, complete]

theorem EvidenceRule.verdict_passes_iff (evidence : EvidenceRule) (body : String) :
    (evidence.verdict body).passes = true ↔
      evidence.verdict body = .structured ∨ evidence.transitional.isMetBy body = true := by
  unfold EvidenceRule.verdict
  split
  · simp [Verdict.passes]
  · cases evidence.transitional.isMetBy body <;> simp [Verdict.passes]

theorem ContentRule.accepts_template (rule : ContentRule) {text : String}
    (template : isTemplate text = true) : rule.accepts text = false := by
  cases rule <;> simp [ContentRule.accepts, hasContent, isDeliberate, template]

/-- Template text of any section is template text of the body, so that neither the sections nor the
keywords can make up for it. -/
theorem template_section_rejects (body : String) :
    (∀ part ∈ BodySection.split body, isTemplate part.text = true →
      isTemplate body = true ∧ ∀ rule : TransitionalRule, rule.isMetBy body = false) ∧
    ∀ evidence : EvidenceRule, ∀ requirement ∈ evidence.requirements, ∀ part,
      requirement.Selects (BodySection.split body) part → isTemplate part.text = true →
      ∃ first, FirstUnmet evidence.requirements (BodySection.split body) first ∧
        evidence.verdict body = .missing first.name := by
  constructor
  · intro part member template
    have whole := isTemplate_of_mem_split member template
    exact ⟨whole, fun rule => (rule.not_isMetBy_iff body).mpr (Or.inl whole)⟩
  · intro evidence requirement member part selects template
    have whole := isTemplate_of_mem_split selects.mem template
    have unmet : requirement.isMet (BodySection.split body) = false := by
      rw [selects.isMet, requirement.rule.accepts_template template]
    obtain ⟨first, firstUnmet⟩ := exists_firstUnmet member unmet
    refine ⟨first, firstUnmet, ?_⟩
    rw [evidence.verdict_of_firstUnmet body firstUnmet, if_pos (Or.inl whole)]

end PolicyGate
