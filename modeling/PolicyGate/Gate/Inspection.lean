import PolicyGate.Change.Git
import PolicyGate.Gate.Assessment
import PolicyGate.PullRequest.Payload

/-!
A whole run: the pull request from its event, the change set from git, then the verdict. Whatever
cannot be read or run becomes a warning, and the run goes on with less.
-/

namespace PolicyGate

def gatherPullRequest (workspace : Workspace) (eventPath : String) (report : Report) :
    Option PullRequest × Report :=
  match PullRequest.load workspace eventPath with
  | .ok (some pullRequest) => (some pullRequest, report)
  | .ok none =>
    (none, report.add .warn ("no pull request context found at " ++ eventPath))
  | .error failure => (none, report.add .warn failure.message)

def listingOr {α : Type} (notice : String) (report : Report) :
    Except Failure (List α) → List α × Report
  | .ok listing => (listing, report)
  | .error failure => ([], report.add .warn (notice ++ ": " ++ failure.message))

def gatherChanges (workspace : Workspace) (root : String) (pullRequest : Option PullRequest)
    (report : Report) : Traced (DiffListings × Report) :=
  match pullRequest with
  | none => pure (.empty, report)
  | some pullRequest =>
    match namedCommit? pullRequest.base, namedCommit? pullRequest.head with
    | some base, some head => do
      let (files, report) := listingOr "could not compute git diff for changed files" report
        (← Git.listPaths workspace root base head)
      let (changes, report) := listingOr "could not compute git diff status for changed files"
        report (← Git.listChanges workspace root base head)
      return (⟨files, changes⟩, report)
    | _, _ =>
      pure (.empty, report.add .warn
        "pull request payload has no base/head sha; treating change set as empty")

def inspect (workspace : Workspace) (root eventPath : String) (policy : Policy)
    (evidence : EvidenceRule) (scanners : ScannerPair) : Traced Report := do
  let (pullRequest, report) := gatherPullRequest workspace eventPath .empty
  let (changes, report) ← gatherChanges workspace root pullRequest report
  assess pullRequest changes policy evidence scanners report

end PolicyGate
