import PolicyGate.Proofs.Gate.Steps
import PolicyGate.Proofs.Policy.Coverage

/-!
What an assessment makes of more changes, and of the same changes in another order. Order is never
seen. More changes keep every reason to fail: paths that are guarded or tell of dependencies stay,
and the exemption for bringing in the gate is not gained by changes that do not add it.
-/

namespace PolicyGate

section Scanning

variable (workspace : Workspace) (root : String) (policy : Policy)

theorem Scan.dependencies_perm {files others : List String} (perm : files.Perm others) :
    Scan.dependencies workspace root policy files =
      Scan.dependencies workspace root policy others := by
  unfold dependencies
  rw [policy.changesManifest_perm perm]

theorem Scan.changesManifest_of_blocks {files : List String}
    (blocking : (Scan.dependencies workspace root policy files).value.blocks = true) :
    policy.changesManifest files = true := by
  cases touched : policy.changesManifest files with
  | true => rfl
  | false => simp [dependencies, touched, ScanResult.blocks] at blocking

theorem Scan.dependencies_eq_of_touched {files others : List String}
    (touched : policy.changesManifest files = true)
    (alike : policy.changesManifest others = true) :
    Scan.dependencies workspace root policy files =
      Scan.dependencies workspace root policy others := by
  simp only [dependencies, touched, alike]

theorem Scan.blocks_of_subset {files larger : List String} (subset : files ⊆ larger)
    (blocking : (Scan.dependencies workspace root policy files).value.blocks = true) :
    (Scan.dependencies workspace root policy larger).value.blocks = true := by
  have touched := changesManifest_of_blocks workspace root policy blocking
  have alike := policy.changesManifest_of_subset subset touched
  rwa [dependencies_eq_of_touched workspace root policy alike touched]

end Scanning

theorem EvidenceRule.refuses_of_enlarged (evidence : EvidenceRule) (policy : Policy)
    {changes larger : List Change}
    (enlarged : Enlarged (fun change => policy.addsGate change = false) changes larger)
    (pullRequest : Option PullRequest)
    (refused : evidence.refuses policy changes pullRequest = true) :
    evidence.refuses policy larger pullRequest = true := by
  cases pullRequest with
  | none => exact refused
  | some pullRequest =>
      simp only [refuses, Bool.and_eq_true, Bool.not_eq_true'] at refused ⊢
      exact ⟨policy.not_bringsInGate_of_enlarged enlarged refused.1, refused.2⟩

section Assessment

variable (pullRequest : Option PullRequest) (changes : DiffListings) (policy : Policy)
  (evidence : EvidenceRule) (workspace : Workspace) (root : String) (audited : Policy)
  (report : Report)

theorem Report.review_perm {files : List String} {records : List Change}
    (samePaths : files.Perm changes.files) (sameRecords : records.Perm changes.changes) :
    report.review pullRequest ⟨files, records⟩ policy evidence =
      report.review pullRequest changes policy evidence := by
  have checked (earlier : Report) :
      earlier.checkPullRequest pullRequest records policy evidence =
        earlier.checkPullRequest pullRequest changes.changes policy evidence := by
    simp only [checkPullRequest, policy.bringsInGate_perm sameRecords]
  simp only [review, samePaths.length_eq, policy.inScope_perm samePaths, checked]

/-- The order of paths and records changes nothing that an assessment tells or starts, and further
paths and records that do not add the gate never make a failing assessment pass. -/
theorem assess_reordered_or_enlarged :
    (∀ files records, files.Perm changes.files → records.Perm changes.changes →
      assess pullRequest ⟨files, records⟩ policy evidence (.ofWorkspace workspace root audited)
          report =
        assess pullRequest changes policy evidence (.ofWorkspace workspace root audited) report) ∧
    ((assess pullRequest changes policy evidence (.ofWorkspace workspace root audited)
        report).value.failed = true →
      ∀ files records, changes.files.Sublist files →
        Enlarged (fun change => ¬ (change.path = policy.gateScript ∧ change.kind = .added))
          changes.changes records →
        (assess pullRequest ⟨files, records⟩ policy evidence (.ofWorkspace workspace root audited)
          report).value.failed = true) := by
  constructor
  · intro files records samePaths sameRecords
    have reviewed := report.review_perm pullRequest changes policy evidence samePaths sameRecords
    have scanned := Scan.dependencies_perm workspace root audited samePaths
    simp only [assess, reviewed, ScannerPair.ofWorkspace, scanned]
  · intro failed files records kept enlarged
    simp only [← policy.addsGate_iff, Bool.not_eq_true] at enlarged
    simp only [assess_failed, Bool.or_eq_true, Bool.and_eq_true] at failed ⊢
    rcases failed with ((before | ⟨guarded, refused⟩) | secrets) | dependencies
    · exact Or.inl (Or.inl (Or.inl before))
    · refine Or.inl (Or.inl (Or.inr ⟨policy.inScope_of_subset kept.subset guarded, ?_⟩))
      exact evidence.refuses_of_enlarged policy enlarged pullRequest refused
    · exact Or.inl (Or.inr secrets)
    · exact Or.inr (Scan.blocks_of_subset workspace root audited kept.subset dependencies)

end Assessment

def bareWorkspace : Workspace := ⟨fun _ => .error .missing, none, "", fun _ => .error .missing⟩

theorem assess_enlarged_by_rename :
    (assess (some ⟨"", none, none⟩) ⟨["SECURITY.md"], [⟨"SECURITY.md", none, .modified⟩]⟩ .builtIn
      ⟨[⟨"threat model", .substantive, []⟩], ⟨[], 1⟩⟩ (.ofWorkspace bareWorkspace "" .builtIn)
      .empty).value.failed = true ∧
    (assess (some ⟨"", none, none⟩) ⟨["GOVERNANCE/a.md", "SECURITY.md"],
        [⟨"GOVERNANCE/a.md", some "docs/a.md", .renamed⟩, ⟨"SECURITY.md", none, .modified⟩]⟩
      .builtIn ⟨[⟨"threat model", .substantive, []⟩], ⟨[], 1⟩⟩
      (.ofWorkspace bareWorkspace "" .builtIn) .empty).value.failed = true := by
  constructor
  · decide +kernel
  · exact (assess_reordered_or_enlarged _ ⟨["SECURITY.md"], [⟨"SECURITY.md", none, .modified⟩]⟩ _ _
      _ _ _ _).2 (by decide +kernel) _ _ (.cons _ (.refl _)) (.insert (by decide) (.keep _ .nil))

end PolicyGate
