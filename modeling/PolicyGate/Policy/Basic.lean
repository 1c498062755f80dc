/-!
The policy of the gate: what is guarded, what a pull request must tell, and what may pass once.
-/

namespace PolicyGate

inductive ContentRule where
  | substantive
  | intentional
  deriving DecidableEq

structure SectionRule where
  name : String
  patterns : List String
  content : ContentRule
  deriving DecidableEq

/-- What may come along with the change that brings in the gate itself. -/
structure BootstrapRule where
  allowedPrefixes : List String
  allowedFiles : List String
  deriving DecidableEq

/-- How many of which words make up for missing sections. -/
structure TransitionalRule where
  keywords : List String
  minKeywords : Nat
  deriving DecidableEq

structure Policy where
  gateScript : String
  guardPaths : List String
  bootstrap : BootstrapRule
  requiredSections : List SectionRule
  transitional : TransitionalRule
  dependencyManifests : List String
  deriving DecidableEq

namespace Policy

def builtInGateScript : String := ".github/scripts/gov_security_gates.py"

def builtInSections : List SectionRule := [
  ⟨"threat model", ["threat model", "threat-model"], .substantive⟩,
  ⟨"security impact", ["security\\s*/?\\s*privacy", "security impact"], .substantive⟩,
  ⟨"ai and data impact", ["ai", "data impact", "ai/data"], .substantive⟩,
  ⟨"verification evidence", ["verification evidence", "how to test"], .substantive⟩,
  ⟨"release notes", ["release notes", "release note"], .intentional⟩]

def builtIn : Policy where
  gateScript := builtInGateScript
  guardPaths := [
    "GOVERNANCE/", "COMPLIANCE/", "SECURITY/", "EVALUATION/",
    ".github/branch-protection-manifest.md", ".github/workflows/gov-security-gates.yml",
    builtInGateScript, ".github/PULL_REQUEST_TEMPLATE.md", ".github/CODEOWNERS",
    "CODE_OF_CONDUCT.md", "CONTRIBUTING.md", "SUPPORT.md", "SECURITY.md", "CODEOWNERS"]
  bootstrap := {
    allowedPrefixes := [".github/", "GOVERNANCE/", "COMPLIANCE/", "SECURITY/", "EVALUATION/"]
    allowedFiles := [
      "CODEOWNERS", "SECURITY.md", "SUPPORT.md", "CONTRIBUTING.md", "CODE_OF_CONDUCT.md"] }
  requiredSections := builtInSections
  transitional := {
    keywords := ["security", "risk", "verification", "release", "data", "threat"]
    minKeywords := 3 }
  dependencyManifests := [
    "package.json", "package-lock.json", "pnpm-lock.yaml", "yarn.lock", "requirements.txt",
    "poetry.lock", "pyproject.toml", "Cargo.toml", "Cargo.lock"]

end Policy

end PolicyGate
