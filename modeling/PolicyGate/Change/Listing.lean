import PolicyGate.Change.Basic
import PolicyGate.Text.Blank
import PolicyGate.Text.Lines

/-!
Reading the two listings of a diff. A line that is no record is passed over and leaves its
neighbours alone.
-/

namespace PolicyGate

/-- The status of a code such as `M` or `R087`: only the first letter counts. -/
def ChangeKind.ofCode? (code : List Char) : Option ChangeKind :=
  (Text.trim code).head?.map ChangeKind.ofLetter

def Change.ofLine? (line : List Char) : Option Change :=
  match (Text.split (· = '\t') line).map Text.trim with
  | code :: second :: rest => do
    let status ← ChangeKind.ofCode? code
    let path := (second :: rest).getLastD []
    if path = [] then none
    else
      let source := if rest ≠ [] ∧ second ≠ [] then some (String.ofList second) else none
      some ⟨String.ofList path, source, status⟩
  | _ => none

def Change.parseListing (raw : String) : List Change :=
  (Text.lines raw.toList).filterMap Change.ofLine?

def parsePaths (raw : String) : List String :=
  (((Text.lines raw.toList).map Text.trim).filter (· ≠ [])).map String.ofList

end PolicyGate
