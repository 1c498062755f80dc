import PolicyGate.Evidence.Requirement
import PolicyGate.Proofs.Evidence.Compilation
import PolicyGate.Proofs.Pattern.Size

/-!
What the built-in policy demands of a pull request body, with its heading patterns written out.
-/

namespace PolicyGate

open Pattern Unicode

def plainPattern (text : String) : Pattern := spelling text.toList .empty

theorem plainPattern_size_le {backward : Bool} {text : String} (common : text.toList ⊆ commonSigns)
    (short : text.toList.length ≤ 100) : (plainPattern text).size backward ≤ 30032 := by
  have spelled : (plainPattern text).size backward ≤ 300 * text.toList.length + 32 :=
    size_spelling_le common (Nat.le_refl 32)
  omega

def privacyTail : Pattern :=
  .seq (.repeated (.one Property.whiteSpace) 0 none)
    (.seq (.repeated (literal {} '/') 0 (some 1))
      (.seq (.repeated (.one Property.whiteSpace) 0 none) (plainPattern "privacy")))

namespace Requirement

def threatModel : Requirement where
  name := "threat model"
  rule := .substantive
  patterns := [plainPattern "threat model", plainPattern "threat-model"]

def securityImpact : Requirement where
  name := "security impact"
  rule := .substantive
  patterns := [spelling "security".toList privacyTail, plainPattern "security impact"]

def dataImpact : Requirement where
  name := "ai and data impact"
  rule := .substantive
  patterns := [plainPattern "ai", plainPattern "data impact", plainPattern "ai/data"]

def verificationEvidence : Requirement where
  name := "verification evidence"
  rule := .substantive
  patterns := [plainPattern "verification evidence", plainPattern "how to test"]

def releaseNotes : Requirement where
  name := "release notes"
  rule := .intentional
  patterns := [plainPattern "release notes", plainPattern "release note"]

end Requirement

def EvidenceRule.builtIn : EvidenceRule where
  requirements := [.threatModel, .securityImpact, .dataImpact, .verificationEvidence, .releaseNotes]
  transitional := Policy.builtIn.transitional

theorem Pattern.ofText?_of_readFrom {text : String} (part : Part)
    (reads : readFrom (text.toList.length + 1) .initial text.toList = some part)
    (shallow : part.depth ≤ depthLimit) (small : part.pattern.IsSmall) :
    ofText? text = some part.pattern := by
  simp [ofText?, reads, shallow, small]

theorem ofText?_privacy :
    ofText? "security\\s*/?\\s*privacy" = some (spelling "security".toList privacyTail) := by
  have tail : ∀ backward, privacyTail.size backward ≤ 5000 := by decide +kernel
  have small : (spelling "security".toList privacyTail).IsSmall := by
    refine isSmall_of_size_le fun backward => ?_
    exact Nat.le_trans (size_spelling_le (by decide) (tail backward)) (by decide)
  exact ofText?_of_readFrom ⟨spelling "security".toList privacyTail, 2, true⟩ rfl (by decide) small

theorem ofText?_plain :
    ∀ text ∈ ["threat model", "threat-model", "security impact", "ai", "data impact", "ai/data",
      "verification evidence", "how to test", "release notes", "release note"],
      ofText? text = some (plainPattern text) := by
  have checked : (["threat model", "threat-model", "security impact", "ai", "data impact",
      "ai/data", "verification evidence", "how to test", "release notes", "release note"].all
      fun text => text.toList.length ≠ 1 && text.toList.length ≤ 100 &&
        text.toList.all commonSigns.contains && text.toList.all (!operators.contains ·)) = true := by
    decide
  intro text member
  have plain := List.all_eq_true.mp checked text member
  simp only [Bool.and_eq_true, decide_eq_true_eq, List.all_eq_true, List.contains_iff_mem,
    Bool.not_eq_true', ← Bool.not_eq_true] at plain
  obtain ⟨⟨⟨several, short⟩, common⟩, plain⟩ := plain
  refine ofText?_of_plain plain several (isSmall_of_size_le fun backward => ?_)
  exact Nat.le_trans (plainPattern_size_le common short) (by decide)

theorem EvidenceRule.ofPolicy_builtIn : EvidenceRule.ofPolicy .builtIn = .ok .builtIn := by
  have plain := ofText?_plain
  simp only [List.forall_mem_cons, List.not_mem_nil, false_implies, implies_true, and_true] at plain
  have rules :
      Requirement.ofRules Policy.builtInSections = .ok EvidenceRule.builtIn.requirements := by
    simp only [Requirement.ofRules_eq_mapM, mapM_eq_ok_iff, Requirement.ofRule_eq_ok_iff,
      EvidenceRule.builtIn, Policy.builtInSections, List.forall₂_cons, List.forall₂_nil_left_iff,
      and_true]
    refine ⟨⟨rfl, rfl, ?_⟩, ⟨rfl, rfl, ?_⟩, ⟨rfl, rfl, ?_⟩, ⟨rfl, rfl, ?_⟩, rfl, rfl, ?_⟩ <;>
      simp [Requirement.threatModel, Requirement.securityImpact, Requirement.dataImpact,
        Requirement.verificationEvidence, Requirement.releaseNotes, plain, ofText?_privacy]
  rw [EvidenceRule.ofPolicy]
  simp [Policy.builtIn, rules]
  rfl

end PolicyGate
