import Mathlib.Data.List.Forall2
import PolicyGate.Proofs.Evidence.BuiltIn
import PolicyGate.Proofs.Evidence.Decision

/-!
Policies that ask for less. With fewer requirements, rules that accept more, more keywords and a
lower count of them, every body that passed still passes, and one that passed by its sections does
so again.
-/

namespace PolicyGate

/-- The same headings count, and a plain statement may be enough where content was asked for. -/
structure Requirement.Relaxes (strict relaxed : Requirement) : Prop where
  patterns : relaxed.patterns = strict.patterns
  rule : relaxed.rule = strict.rule ∨
    strict.rule = .substantive ∧ relaxed.rule = .intentional

structure EvidenceRule.Relaxes (strict relaxed : EvidenceRule) : Prop where
  requirements : List.SublistForall₂ (fun later earlier => Requirement.Relaxes earlier later)
    relaxed.requirements strict.requirements
  keywords : strict.transitional.keywords.Sublist relaxed.transitional.keywords
  minKeywords : relaxed.transitional.minKeywords ≤ strict.transitional.minKeywords

theorem isDeliberate_of_hasContent {text : String} (content : hasContent text = true) :
    isDeliberate text = true := by
  rw [hasContent, Bool.and_eq_true] at content
  exact content.1

namespace Requirement.Relaxes

variable {strict relaxed : Requirement}

theorem accepts (relaxes : strict.Relaxes relaxed) {text : String}
    (accepted : strict.rule.accepts text = true) : relaxed.rule.accepts text = true := by
  rcases relaxes.rule with same | ⟨content, statement⟩
  · rwa [same]
  · rw [content] at accepted
    rw [statement]
    exact isDeliberate_of_hasContent accepted

theorem recognizes_eq (relaxes : strict.Relaxes relaxed) (heading : String) :
    relaxed.recognizes heading = strict.recognizes heading := by
  rw [recognizes, recognizes, relaxes.patterns]

theorem isMet (relaxes : strict.Relaxes relaxed) {sections : List BodySection}
    (met : strict.isMet sections = true) : relaxed.isMet sections = true := by
  simp only [Requirement.isMet, relaxes.recognizes_eq] at met ⊢
  split at met
  · exact relaxes.accepts met
  · contradiction

end Requirement.Relaxes

theorem exists_of_sublistForall₂ {α β : Type} {related : α → β → Prop} {items : List α}
    {larger : List β} (inside : List.SublistForall₂ related items larger) :
    ∀ item ∈ items, ∃ other ∈ larger, related item other := by
  induction inside with
  | nil => simp
  | cons here _ ih =>
      intro item member
      rcases List.mem_cons.mp member with rfl | later
      · exact ⟨_, List.mem_cons_self, here⟩
      · obtain ⟨other, among, alike⟩ := ih item later
        exact ⟨other, List.mem_cons_of_mem _ among, alike⟩
  | cons_right _ ih =>
      intro item member
      obtain ⟨other, among, alike⟩ := ih item member
      exact ⟨other, List.mem_cons_of_mem _ among, alike⟩

namespace EvidenceRule.Relaxes

variable {strict relaxed : EvidenceRule}

theorem meets (relaxes : strict.Relaxes relaxed) {sections : List BodySection}
    (met : ∀ requirement ∈ strict.requirements, requirement.isMet sections = true) :
    ∀ requirement ∈ relaxed.requirements, requirement.isMet sections = true := by
  intro requirement member
  obtain ⟨earlier, among, eased⟩ := exists_of_sublistForall₂ relaxes.requirements _ member
  exact eased.isMet (met earlier among)

theorem isMetBy (relaxes : strict.Relaxes relaxed) {body : String}
    (met : strict.transitional.isMetBy body = true) :
    relaxed.transitional.isMetBy body = true := by
  rw [TransitionalRule.isMetBy_iff] at met ⊢
  have more : (foundKeywords strict.transitional.keywords (normalChars body.toList)).length ≤
      (foundKeywords relaxed.transitional.keywords (normalChars body.toList)).length :=
    (relaxes.keywords.filter _).length_le
  have fewer := relaxes.minKeywords
  exact ⟨met.1, by omega⟩

/-- What a policy accepts, every policy that asks for less accepts as well, and for the sections
where it did so for the sections. -/
theorem keeps_verdict (relaxes : strict.Relaxes relaxed) (body : String) :
    ((strict.verdict body).passes = true → (relaxed.verdict body).passes = true) ∧
      (strict.verdict body = .structured → relaxed.verdict body = .structured) := by
  have structured : strict.verdict body = .structured → relaxed.verdict body = .structured := by
    rw [verdict_eq_structured_iff, verdict_eq_structured_iff]
    exact relaxes.meets
  refine ⟨fun passed => ?_, structured⟩
  rw [verdict_passes_iff] at passed ⊢
  exact passed.imp structured relaxes.isMetBy

end EvidenceRule.Relaxes

namespace EvidenceRule

def twoSections : EvidenceRule :=
  ⟨[.threatModel, .releaseNotes], ⟨["risk", "data"], 2⟩⟩

def oneStatement : EvidenceRule :=
  ⟨[{ Requirement.threatModel with rule := .intentional }], ⟨["audit", "risk", "data"], 1⟩⟩

theorem twoSections_relaxes : twoSections.Relaxes oneStatement where
  requirements := .cons ⟨rfl, Or.inr ⟨rfl, rfl⟩⟩ .nil
  keywords := .cons _ (.refl _)
  minKeywords := by decide

theorem Relaxes.keeps_verdict_oneStatement :
    twoSections.Relaxes oneStatement ∧
    (twoSections.verdict "## Threat Model\nForged tokens\n## Release Notes\nNone" = .structured ∧
      oneStatement.verdict "## Threat Model\nForged tokens\n## Release Notes\nNone" =
        .structured) ∧
    ((twoSections.verdict "Risk is low, no data").passes = true ∧
      (oneStatement.verdict "Risk is low, no data").passes = true) := by
  have structured : twoSections.verdict
      "## Threat Model\nForged tokens\n## Release Notes\nNone" = .structured := by
    decide +kernel
  have passes : (twoSections.verdict "Risk is low, no data").passes = true := by
    decide +kernel
  exact ⟨twoSections_relaxes, ⟨structured, (twoSections_relaxes.keeps_verdict _).2 structured⟩,
    passes, (twoSections_relaxes.keeps_verdict _).1 passes⟩

end EvidenceRule

end PolicyGate
