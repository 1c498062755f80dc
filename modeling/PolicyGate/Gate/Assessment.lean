import PolicyGate.Policy.Coverage
import PolicyGate.Evidence.Verdict
import PolicyGate.PullRequest.Basic
import PolicyGate.Scan.Installed

/-!
The verdict on a change set: evidence where the policy guards a changed path, then both scans,
whatever the evidence. A report that has failed before stays failed.
-/

namespace PolicyGate

namespace Report

def addVerdict (report : Report) : Verdict → Report
  | .structured => report.add .pass "PR body carries all required governance sections"
  | .transitional =>
    report.add .info "transitional PR evidence detected; accepting legacy body format"
  | .missing category =>
    (report.add .fail
      ("missing or incomplete governance section in PR body: " ++ category)).add .info
        "PR body must include the required governance headings and non-placeholder content"

def checkPullRequest (report : Report) (pullRequest : Option PullRequest)
    (changes : List Change) (policy : Policy) (evidence : EvidenceRule) : Report :=
  match pullRequest with
  | none => report.add .warn "no PR body available; skipping PR evidence check"
  | some pullRequest =>
    if policy.bringsInGate changes then
      report.add .info "bootstrap governance PR detected; skipping strict PR evidence check once"
    else report.addVerdict (evidence.verdict pullRequest.body)

def review (report : Report) (pullRequest : Option PullRequest) (changes : DiffListings)
    (policy : Policy) (evidence : EvidenceRule) : Report :=
  let counted := report.add .info
    ("reviewed " ++ toString changes.files.length ++ " changed file(s) in scope candidate set")
  let report := { counted with inScope := policy.inScope changes.files }
  if report.inScope then
    (report.add .info
      "governance-sensitive path changes detected; enforcing PR evidence").checkPullRequest
        pullRequest changes.changes policy evidence
  else
    report.add .pass "no governance-sensitive path changes detected; skipping PR evidence check"

def conclude (report : Report) : Report :=
  if report.passed then report.add .pass "all governance gate checks passed"
  else report.add .fail "governance gate failed"

end Report

def assess (pullRequest : Option PullRequest) (changes : DiffListings) (policy : Policy)
    (evidence : EvidenceRule) (scanners : ScannerPair) (report : Report) : Traced Report := do
  let reviewed := report.review pullRequest changes policy evidence
  let secrets ← scanners.secrets
  let dependencies ← scanners.dependencies changes.files
  return ((reviewed.addScan secrets).addScan dependencies).conclude

end PolicyGate
