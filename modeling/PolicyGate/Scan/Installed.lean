import PolicyGate.Policy.Coverage
import PolicyGate.Scan.Result
import PolicyGate.Workspace.SearchPath

/-!
The scanners of a workspace: one that looks for secrets, and the audit of the package manager
whose lock file is there.
-/

namespace PolicyGate

structure ScannerPair where
  secrets : Traced ScanResult
  dependencies : List String → Traced ScanResult

def Completion.transcript (completion : Completion) : String :=
  let parts := [Text.trim (Text.decodeLossy completion.output),
    Text.trim (Text.decodeLossy completion.errors)]
  .ofList (['\n'].intercalate (parts.filter (· ≠ [])))

namespace Scan

def secretTool : String := "gitleaks"

def secretReport : String := "gov-gitleaks-report.json"

def secretArguments (report source : String) : List String :=
  ["detect", "--no-git", "--redact", "--exit-code", "1", "--report-format", "json",
    "--report-path", report, "--source", source]

def auditArguments : List String := ["audit", "--audit-level", "high"]

def outcome (tool : String) (problem : String → ScanResult) :
    Except AccessFault Completion → ScanResult
  | .error fault => .unavailable tool fault.message
  | .ok completion =>
    if completion.status.succeeded then .clean tool else problem completion.transcript

def secrets (workspace : Workspace) (root : String) : Traced ScanResult :=
  match workspace.findTool secretTool with
  | none => pure (.skipped (secretTool ++ " not installed; skipping secret scan"))
  | some program => do
    let report := Path.join workspace.scratch secretReport
    let result ← workspace.run ⟨program, secretArguments report root, none⟩
    return outcome secretTool (.findings secretTool) result

def audit (workspace : Workspace) (root manager program : String) (blocks : Bool) :
    Traced ScanResult := do
  let tool := manager ++ " audit"
  let result ← workspace.run ⟨program, auditArguments, some root⟩
  return outcome tool (if blocks then .findings tool else .tolerated tool) result

def managerFor? (workspace : Workspace) (root lockFile manager : String) : Option String :=
  if workspace.present (Path.join root lockFile) then workspace.findTool manager else none

/-- The findings of `npm` change with the toolchain, so they do not block. -/
def dependencies (workspace : Workspace) (root : String) (policy : Policy)
    (files : List String) : Traced ScanResult :=
  if !policy.changesManifest files then pure (.skipped "no dependency manifests changed")
  else
    match managerFor? workspace root "pnpm-lock.yaml" "pnpm" with
    | some program => audit workspace root "pnpm" program true
    | none =>
      match managerFor? workspace root "package-lock.json" "npm" with
      | some program => audit workspace root "npm" program false
      | none => pure (.skipped "no supported dependency scanner available for this stack")

end Scan

def ScannerPair.ofWorkspace (workspace : Workspace) (root : String) (policy : Policy) :
    ScannerPair :=
  ⟨Scan.secrets workspace root, Scan.dependencies workspace root policy⟩

end PolicyGate
