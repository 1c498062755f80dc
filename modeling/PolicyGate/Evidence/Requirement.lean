import PolicyGate.Evidence.BodySection
import PolicyGate.Failure
import PolicyGate.Pattern.Groups
import PolicyGate.Policy.Basic

/-!
Required sections with their heading patterns read.
-/

namespace PolicyGate

structure Requirement where
  name : String
  rule : ContentRule
  patterns : List Pattern

namespace Requirement

def readPatterns (sectionName : String) : List String → Except Failure (List Pattern)
  | [] => .ok []
  | text :: rest =>
    match Pattern.ofText? text with
    | none => .error (.badPattern sectionName text)
    | some pattern => do return pattern :: (← readPatterns sectionName rest)

def ofRule (rule : SectionRule) : Except Failure Requirement := do
  return ⟨rule.name, rule.content, ← readPatterns rule.name rule.patterns⟩

def ofRules : List SectionRule → Except Failure (List Requirement)
  | [] => .ok []
  | rule :: rest => do
    let requirement ← ofRule rule
    return requirement :: (← ofRules rest)

def recognizes (requirement : Requirement) (heading : String) : Bool :=
  requirement.patterns.any (·.occursIn heading.toList)

end Requirement

structure EvidenceRule where
  requirements : List Requirement
  transitional : TransitionalRule

def EvidenceRule.ofPolicy (policy : Policy) : Except Failure EvidenceRule := do
  return ⟨← Requirement.ofRules policy.requiredSections, policy.transitional⟩

end PolicyGate
