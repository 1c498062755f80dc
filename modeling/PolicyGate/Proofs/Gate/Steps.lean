import PolicyGate.Gate.Inspection

/-!
What each step of a run does to the two flags of its report. Reading the event and asking git add
warnings alone; the evidence and the two scans are the only steps that can mark a failure.
-/

namespace PolicyGate

namespace Traced

variable {α β : Type}

@[simp] theorem value_pure (value : α) : (pure value : Traced α).value = value := rfl

@[simp] theorem value_bind (first : Traced α) (next : α → Traced β) :
    (first >>= next).value = (next first.value).value := rfl

end Traced

namespace Report

@[simp] theorem add_failed (report : Report) (level : Level) (text : String) :
    (report.add level text).failed = (report.failed || level = .fail) := rfl

@[simp] theorem add_inScope (report : Report) (level : Level) (text : String) :
    (report.add level text).inScope = report.inScope := rfl

@[simp] theorem addOutput_failed (report : Report) (output : String) :
    (report.addOutput output).failed = report.failed := by
  unfold addOutput
  split <;> simp

@[simp] theorem addOutput_inScope (report : Report) (output : String) :
    (report.addOutput output).inScope = report.inScope := by
  unfold addOutput
  split <;> rfl

@[simp] theorem addScan_failed (report : Report) (result : ScanResult) :
    (report.addScan result).failed = (report.failed || result.blocks) := by
  cases result <;> simp [addScan, ScanResult.blocks]

@[simp] theorem addScan_inScope (report : Report) (result : ScanResult) :
    (report.addScan result).inScope = report.inScope := by
  cases result <;> simp [addScan]

@[simp] theorem addVerdict_failed (report : Report) (verdict : Verdict) :
    (report.addVerdict verdict).failed = (report.failed || !verdict.passes) := by
  cases verdict <;> simp [addVerdict, Verdict.passes]

@[simp] theorem addVerdict_inScope (report : Report) (verdict : Verdict) :
    (report.addVerdict verdict).inScope = report.inScope := by
  cases verdict <;> rfl

@[simp] theorem conclude_failed (report : Report) : report.conclude.failed = report.failed := by
  unfold conclude
  cases failed : report.failed <;> simp [passed, failed]

@[simp] theorem conclude_inScope (report : Report) :
    report.conclude.inScope = report.inScope := by
  unfold conclude
  split <;> rfl

end Report

/-- Whether evidence is demanded of a pull request and wanting. Without a pull request, or for the
change that brings in the gate, none is demanded. -/
def EvidenceRule.refuses (evidence : EvidenceRule) (policy : Policy) (changes : List Change) :
    Option PullRequest → Bool
  | none => false
  | some pullRequest =>
    !policy.bringsInGate changes && !(evidence.verdict pullRequest.body).passes

namespace Report

@[simp] theorem checkPullRequest_failed (report : Report) (pullRequest : Option PullRequest)
    (changes : List Change) (policy : Policy) (evidence : EvidenceRule) :
    (report.checkPullRequest pullRequest changes policy evidence).failed =
      (report.failed || evidence.refuses policy changes pullRequest) := by
  cases pullRequest with
  | none => simp [checkPullRequest, EvidenceRule.refuses]
  | some pullRequest =>
      cases bringing : policy.bringsInGate changes <;>
        simp [checkPullRequest, EvidenceRule.refuses, bringing]

@[simp] theorem checkPullRequest_inScope (report : Report) (pullRequest : Option PullRequest)
    (changes : List Change) (policy : Policy) (evidence : EvidenceRule) :
    (report.checkPullRequest pullRequest changes policy evidence).inScope = report.inScope := by
  cases pullRequest with
  | none => rfl
  | some pullRequest =>
      simp only [checkPullRequest]
      split <;> simp

@[simp] theorem review_failed (report : Report) (pullRequest : Option PullRequest)
    (changes : DiffListings) (policy : Policy) (evidence : EvidenceRule) :
    (report.review pullRequest changes policy evidence).failed =
      (report.failed ||
        policy.inScope changes.files && evidence.refuses policy changes.changes pullRequest) := by
  cases guarded : policy.inScope changes.files <;> simp [review, guarded]

@[simp] theorem review_inScope (report : Report) (pullRequest : Option PullRequest)
    (changes : DiffListings) (policy : Policy) (evidence : EvidenceRule) :
    (report.review pullRequest changes policy evidence).inScope =
      policy.inScope changes.files := by
  cases guarded : policy.inScope changes.files <;> simp [review, guarded]

end Report

section Assessment

variable (pullRequest : Option PullRequest) (changes : DiffListings) (policy : Policy)
  (evidence : EvidenceRule) (scanners : ScannerPair) (report : Report)

theorem assess_failed :
    (assess pullRequest changes policy evidence scanners report).value.failed =
      (report.failed ||
        policy.inScope changes.files && evidence.refuses policy changes.changes pullRequest ||
        scanners.secrets.value.blocks || (scanners.dependencies changes.files).value.blocks) := by
  simp [assess]

theorem assess_inScope :
    (assess pullRequest changes policy evidence scanners report).value.inScope =
      policy.inScope changes.files := by
  simp [assess]

end Assessment

namespace Report

/-- A later report has warnings behind the messages of an earlier one and is the same otherwise. -/
def Warns (report later : Report) : Prop :=
  ∃ warnings : List String,
    later = { report with messages := report.messages ++ warnings.map (⟨.warn, ·⟩) }

theorem Warns.refl (report : Report) : report.Warns report := ⟨[], by simp⟩

theorem Warns.trans {first second third : Report} (earlier : first.Warns second)
    (later : second.Warns third) : first.Warns third := by
  obtain ⟨warnings, rfl⟩ := earlier
  obtain ⟨more, rfl⟩ := later
  exact ⟨warnings ++ more, by simp⟩

theorem Warns.failed_eq {report later : Report} (warns : report.Warns later) :
    later.failed = report.failed := by
  obtain ⟨_, rfl⟩ := warns
  rfl

theorem Warns.inScope_eq {report later : Report} (warns : report.Warns later) :
    later.inScope = report.inScope := by
  obtain ⟨_, rfl⟩ := warns
  rfl

variable (report : Report)

theorem warns_add (text : String) : report.Warns (report.add .warn text) :=
  ⟨[text], by simp [add]⟩

theorem warns_listingOr {α : Type} (notice : String) (listing : Except Failure (List α)) :
    report.Warns (listingOr notice report listing).2 := by
  cases listing with
  | ok listing => exact .refl report
  | error failure => exact report.warns_add _

theorem warns_gatherPullRequest (workspace : Workspace) (eventPath : String) :
    report.Warns (gatherPullRequest workspace eventPath report).2 := by
  unfold gatherPullRequest
  split
  · exact .refl report
  · exact report.warns_add _
  · exact report.warns_add _

theorem warns_gatherChanges (workspace : Workspace) (root : String)
    (pullRequest : Option PullRequest) :
    report.Warns (gatherChanges workspace root pullRequest report).value.2 := by
  cases pullRequest with
  | none => exact .refl report
  | some pullRequest =>
      unfold gatherChanges
      dsimp only
      split
      · exact (report.warns_listingOr _ _).trans (warns_listingOr _ _ _)
      · exact report.warns_add _

end Report

section Inspection

variable {α : Type} (workspace : Workspace) (root eventPath : String) (report : Report)

theorem gatherPullRequest_fst :
    (gatherPullRequest workspace eventPath report).1 =
      (PullRequest.load workspace eventPath).toOption.join := by
  unfold gatherPullRequest
  split <;> simp_all [Except.toOption]

theorem listingOr_fst (notice : String) (listing : Except Failure (List α)) :
    (listingOr notice report listing).1 = listing.toOption.getD [] := by
  cases listing <;> rfl

def tellChanges (workspace : Workspace) (root : String) : Option PullRequest → DiffListings
  | none => .empty
  | some pullRequest =>
    match namedCommit? pullRequest.base, namedCommit? pullRequest.head with
    | some base, some head =>
      ⟨(Git.listPaths workspace root base head).value.toOption.getD [],
        (Git.listChanges workspace root base head).value.toOption.getD []⟩
    | _, _ => .empty

theorem gatherChanges_fst (pullRequest : Option PullRequest) :
    (gatherChanges workspace root pullRequest report).value.1 =
      tellChanges workspace root pullRequest := by
  cases pullRequest with
  | none => rfl
  | some pullRequest =>
      cases base : namedCommit? pullRequest.base <;>
        cases head : namedCommit? pullRequest.head <;>
          simp [gatherChanges, tellChanges, base, head, listingOr_fst]

end Inspection

end PolicyGate
