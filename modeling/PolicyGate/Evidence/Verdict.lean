import PolicyGate.Evidence.Content
import PolicyGate.Evidence.Requirement
import PolicyGate.Text.Search

/-!
Whether a pull request body carries the evidence that a policy demands: by its sections, or for
older bodies by enough words that tell of it.
-/

namespace PolicyGate

inductive Verdict where
  | structured
  | transitional
  | missing (category : String)
  deriving DecidableEq

def Verdict.passes : Verdict → Bool
  | .structured | .transitional => true
  | .missing _ => false

/-- The section that stands for a requirement is the first whose heading matches, and it has to
satisfy the rule. -/
def Requirement.isMet (requirement : Requirement) (sections : List BodySection) : Bool :=
  match sections.find? fun part => requirement.recognizes part.heading with
  | some part => requirement.rule.accepts part.text
  | none => false

def firstMissing (sections : List BodySection) (requirements : List Requirement) :
    Option String :=
  (requirements.find? fun requirement => !requirement.isMet sections).map Requirement.name

def foundKeywords (keywords : List String) (text : List Char) : List String :=
  keywords.filter fun keyword => Text.contains (Unicode.lowercase keyword.toList) text

def TransitionalRule.isMetBy (rule : TransitionalRule) (body : String) : Bool :=
  !isTemplate body &&
    rule.minKeywords ≤ (foundKeywords rule.keywords (normalChars body.toList)).length

def EvidenceRule.verdict (rule : EvidenceRule) (body : String) : Verdict :=
  match firstMissing (BodySection.split body) rule.requirements with
  | none => .structured
  | some category =>
    if rule.transitional.isMetBy body then .transitional
    else .missing category

end PolicyGate
