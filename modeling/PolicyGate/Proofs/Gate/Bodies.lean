import PolicyGate.Proofs.Gate.Failures

/-!
How far the body of a pull request reaches into an assessment. Where no evidence is demanded it is
not looked at. Where it is, it decides what is told of the evidence and how the report closes, and
neither the scope nor anything that the scans start or tell.
-/

namespace PolicyGate

def Verdict.messages (verdict : Verdict) : List Message :=
  (Report.empty.addVerdict verdict).messages

def ScanResult.messages (result : ScanResult) : List Message :=
  (Report.empty.addScan result).messages

namespace Report

variable (report : Report)

theorem addVerdict_messages (verdict : Verdict) :
    (report.addVerdict verdict).messages = report.messages ++ verdict.messages := by
  cases verdict <;> simp [Verdict.messages, addVerdict, add, empty]

theorem addOutput_messages (output : String) :
    (report.addOutput output).messages =
      report.messages ++ if output.isEmpty then [] else [⟨.info, output⟩] := by
  unfold addOutput
  split <;> simp [add]

theorem addScan_messages (result : ScanResult) :
    (report.addScan result).messages = report.messages ++ result.messages := by
  cases result <;> simp [ScanResult.messages, addScan, addOutput_messages, add, empty]

variable (changes : DiffListings) (policy : Policy) (evidence : EvidenceRule)

theorem review_of_unguarded (unguarded : policy.inScope changes.files = false)
    (first second : Option PullRequest) :
    report.review first changes policy evidence = report.review second changes policy evidence := by
  simp [review, unguarded]

theorem review_of_bringing (bringing : policy.bringsInGate changes.changes = true)
    (first second : PullRequest) :
    report.review (some first) changes policy evidence =
      report.review (some second) changes policy evidence := by
  simp [review, checkPullRequest, bringing]

theorem review_of_demanded (guarded : policy.inScope changes.files = true)
    (demanded : policy.bringsInGate changes.changes = false) :
    ∃ opened : Report, report.messages <+: opened.messages ∧ ∀ known : PullRequest,
      report.review (some known) changes policy evidence =
        opened.addVerdict (evidence.verdict known.body) := by
  let counted := report.add .info
    ("reviewed " ++ toString changes.files.length ++ " changed file(s) in scope candidate set")
  let opened := { counted with inScope := true }.add .info
    "governance-sensitive path changes detected; enforcing PR evidence"
  refine ⟨opened, ?_, fun known => ?_⟩
  · simp [opened, counted, add]
  · simp [review, guarded, checkPullRequest, demanded, opened, counted]

end Report

section Assessment

variable (changes : DiffListings) (policy : Policy) (evidence : EvidenceRule)
  (scanners : ScannerPair) (report : Report)

theorem assess_of_review {first second : Option PullRequest}
    (same : report.review first changes policy evidence =
      report.review second changes policy evidence) :
    assess first changes policy evidence scanners report =
      assess second changes policy evidence scanners report := by
  rw [assess, assess, same]

theorem assess_messages (pullRequest : Option PullRequest) :
    (assess pullRequest changes policy evidence scanners report).value.messages =
      (report.review pullRequest changes policy evidence).messages ++
        scanners.secrets.value.messages ++ (scanners.dependencies changes.files).value.messages ++
        [.closing (assess pullRequest changes policy evidence scanners report).value.failed] := by
  simp [assess, Report.messages_conclude, Report.addScan_messages]

/-- Two pull requests are assessed alike where no guarded path changed or the gate is brought in,
and in the first case as if there were none. Elsewhere the scope, the programs started and what the
scans tell are the same, and so is the failure unless only one of the bodies passes. -/
theorem assess_bodies (first second : PullRequest) :
    (policy.inScope changes.files = false ∨ policy.bringsInGate changes.changes = true →
      assess (some first) changes policy evidence scanners report =
        assess (some second) changes policy evidence scanners report) ∧
    (policy.inScope changes.files = false →
      assess (some first) changes policy evidence scanners report =
        assess none changes policy evidence scanners report) ∧
    (assess (some first) changes policy evidence scanners report).value.inScope =
      (assess (some second) changes policy evidence scanners report).value.inScope ∧
    (assess (some first) changes policy evidence scanners report).started =
      (assess (some second) changes policy evidence scanners report).started ∧
    ((evidence.verdict first.body).passes = (evidence.verdict second.body).passes →
      (assess (some first) changes policy evidence scanners report).value.failed =
        (assess (some second) changes policy evidence scanners report).value.failed) ∧
    (policy.inScope changes.files = true → policy.bringsInGate changes.changes = false →
      ∃ opening, ∀ known ∈ [first, second],
        (assess (some known) changes policy evidence scanners report).value.messages =
          report.messages ++ opening ++ (evidence.verdict known.body).messages ++
            (scanners.secrets.value.messages ++
              (scanners.dependencies changes.files).value.messages) ++
            [.closing
              (assess (some known) changes policy evidence scanners report).value.failed]) := by
  refine ⟨?_, ?_, ?_, ?_, ?_, ?_⟩
  · rintro (unguarded | bringing)
    · exact assess_of_review changes policy evidence scanners report
        (report.review_of_unguarded changes policy evidence unguarded _ _)
    · exact assess_of_review changes policy evidence scanners report
        (report.review_of_bringing changes policy evidence bringing _ _)
  · intro unguarded
    exact assess_of_review changes policy evidence scanners report
      (report.review_of_unguarded changes policy evidence unguarded _ _)
  · rw [assess_inScope, assess_inScope]
  · simp [assess]
  · intro alike
    simp only [assess_failed, EvidenceRule.refuses, alike]
  · intro guarded demanded
    obtain ⟨opened, ⟨opening, whole⟩, reviewed⟩ :=
      report.review_of_demanded changes policy evidence guarded demanded
    refine ⟨opening, fun known _ => ?_⟩
    rw [assess_messages, reviewed, Report.addVerdict_messages, whole]
    simp

end Assessment

end PolicyGate
