import PolicyGate.Proofs.Gate.Steps
import PolicyGate.Proofs.Policy.Scope

/-!
When a whole run fails. There are three reasons and no others: evidence that is demanded and
wanting, secrets that were found, and dependencies that were found wanting. What cannot be read or
started is not among them.
-/

namespace PolicyGate

theorem ScanResult.blocks_iff (result : ScanResult) :
    result.blocks = true ↔ ∃ tool output, result = .findings tool output := by
  cases result <;> simp [blocks]

theorem namedCommit_eq_some_iff (name : Option String) (commit : String) :
    namedCommit? name = some commit ↔ name = some commit ∧ isBlankText commit = false := by
  simp [namedCommit?, Option.filter_eq_some_iff]

section Inspection

variable (workspace : Workspace) (root eventPath : String)

def listedPaths : List String :=
  match PullRequest.load workspace eventPath with
  | .ok (some pullRequest) =>
    match namedCommit? pullRequest.base, namedCommit? pullRequest.head with
    | some base, some head =>
      match (Git.output workspace root ["diff", "--name-only", base, head]).value with
      | .ok raw => parsePaths raw
      | .error _ => []
    | _, _ => []
  | _ => []

def recordsBetween (base head : String) : List Change :=
  match (Git.output workspace root ["diff", "--name-status", base, head]).value with
  | .ok raw => Change.parseListing raw
  | .error _ => []

theorem listPaths_toOption (base head : String) :
    (Git.listPaths workspace root base head).value.toOption.getD [] =
      match (Git.output workspace root ["diff", "--name-only", base, head]).value with
      | .ok raw => parsePaths raw
      | .error _ => [] := by
  simp only [Git.listPaths, Traced.value_bind, Traced.value_pure]
  split <;> simp_all [Except.map, Except.toOption]

theorem listChanges_toOption (base head : String) :
    (Git.listChanges workspace root base head).value.toOption.getD [] =
      recordsBetween workspace root base head := by
  simp only [Git.listChanges, recordsBetween, Traced.value_bind, Traced.value_pure]
  split <;> simp_all [Except.map, Except.toOption]

theorem tellChanges_files :
    (tellChanges workspace root (PullRequest.load workspace eventPath).toOption.join).files =
      listedPaths workspace root eventPath := by
  unfold listedPaths
  cases loaded : PullRequest.load workspace eventPath with
  | error failure => rfl
  | ok found =>
      cases found with
      | none => rfl
      | some pullRequest =>
          change (tellChanges workspace root (some pullRequest)).files = _
          cases base : namedCommit? pullRequest.base <;>
            cases head : namedCommit? pullRequest.head <;>
              simp [tellChanges, base, head, DiffListings.empty, listPaths_toOption]

variable (policy : Policy) (evidence : EvidenceRule) (scanners : ScannerPair)

end Inspection

end PolicyGate
