import PolicyGate.Evidence.Requirement

/-!
When the heading patterns of required sections can be read: every one of them has to be a pattern,
in whichever section it stands.
-/

namespace PolicyGate

theorem exists_ok_bind_pure_iff {ε α β : Type} (read : Except ε α) (build : α → β) :
    (∃ built, (read >>= fun found => pure (build found)) = .ok built) ↔
      ∃ found, read = .ok found := by
  cases read <;> simp [bind, Except.bind, pure, Except.pure]

namespace Requirement

theorem readPatterns_isOk_iff (sectionName : String) (texts : List String) :
    (∃ patterns, readPatterns sectionName texts = .ok patterns) ↔
      ∀ text ∈ texts, Pattern.ofText? text ≠ none := by
  induction texts with
  | nil => simp [readPatterns]
  | cons text texts ih =>
      rw [List.forall_mem_cons, ← ih, readPatterns]
      cases read : Pattern.ofText? text with
      | none => simp
      | some pattern => simp only [exists_ok_bind_pure_iff, ne_eq, reduceCtorEq, not_false_eq_true,
          true_and]

theorem ofRule_isOk_iff (rule : SectionRule) :
    (∃ requirement, ofRule rule = .ok requirement) ↔
      ∀ text ∈ rule.patterns, Pattern.ofText? text ≠ none := by
  rw [← readPatterns_isOk_iff rule.name]
  exact exists_ok_bind_pure_iff _ _

theorem ofRules_isOk_iff (rules : List SectionRule) :
    (∃ requirements, ofRules rules = .ok requirements) ↔
      ∀ rule ∈ rules, ∀ text ∈ rule.patterns, Pattern.ofText? text ≠ none := by
  induction rules with
  | nil => simp [ofRules]
  | cons rule rules ih =>
      rw [List.forall_mem_cons, ← ih, ← ofRule_isOk_iff, ofRules]
      cases first : ofRule rule with
      | error failure => simp [bind, Except.bind]
      | ok requirement =>
          rw [← exists_ok_bind_pure_iff (ofRules rules) (requirement :: ·)]
          simp [bind, Except.bind]

end Requirement

theorem EvidenceRule.ofPolicy_isOk_iff (policy : Policy) :
    (∃ evidence, ofPolicy policy = .ok evidence) ↔
      ∀ rule ∈ policy.requiredSections, ∀ text ∈ rule.patterns, Pattern.ofText? text ≠ none := by
  rw [← Requirement.ofRules_isOk_iff]
  exact exists_ok_bind_pure_iff _ _

end PolicyGate
