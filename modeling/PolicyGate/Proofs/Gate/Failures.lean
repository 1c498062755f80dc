import PolicyGate.Proofs.Gate.Steps

/-!
Which failures an assessment adds to a report, and in which order. Every step leaves the messages
before it alone and tells its own failure behind them; the closing message tells whether there is
any. Both scans are run whatever the evidence.
-/

namespace PolicyGate

namespace Traced

variable {α β : Type}

@[simp] theorem started_pure (value : α) : (pure value : Traced α).started = [] := rfl

@[simp] theorem started_bind (first : Traced α) (next : α → Traced β) :
    (first >>= next).started = first.started ++ (next first.value).started := rfl

end Traced

def missingSection (category : String) : String :=
  "missing or incomplete governance section in PR body: " ++ category

def Verdict.category? : Verdict → Option String
  | .missing category => some category
  | _ => none

theorem Verdict.category?_eq_some_iff (verdict : Verdict) (category : String) :
    verdict.category? = some category ↔ verdict = .missing category := by
  cases verdict <;> simp [category?]

theorem Verdict.isSome_category? (verdict : Verdict) :
    verdict.category?.isSome = !verdict.passes := by
  cases verdict <;> rfl

namespace EvidenceRule

variable (evidence : EvidenceRule) (policy : Policy)

def refusal? (records : List Change) : Option PullRequest → Option String
  | none => none
  | some pullRequest =>
    if policy.bringsInGate records then none else (evidence.verdict pullRequest.body).category?

def shortfall? (changes : DiffListings) (pullRequest : Option PullRequest) : Option String :=
  if policy.inScope changes.files then evidence.refusal? policy changes.changes pullRequest
  else none

theorem isSome_refusal? (records : List Change) (pullRequest : Option PullRequest) :
    (evidence.refusal? policy records pullRequest).isSome =
      evidence.refuses policy records pullRequest := by
  cases pullRequest with
  | none => rfl
  | some pullRequest =>
      cases bringing : policy.bringsInGate records <;>
        simp [refusal?, refuses, bringing, Verdict.isSome_category?]

theorem isSome_shortfall? (changes : DiffListings) (pullRequest : Option PullRequest) :
    (evidence.shortfall? policy changes pullRequest).isSome =
      (policy.inScope changes.files && evidence.refuses policy changes.changes pullRequest) := by
  cases guarded : policy.inScope changes.files <;> simp [shortfall?, guarded, isSome_refusal?]

theorem shortfall?_eq_some_iff (changes : DiffListings) (pullRequest : Option PullRequest)
    (category : String) :
    evidence.shortfall? policy changes pullRequest = some category ↔
      policy.inScope changes.files = true ∧ policy.bringsInGate changes.changes = false ∧
        ∃ known, pullRequest = some known ∧ evidence.verdict known.body = .missing category := by
  cases pullRequest with
  | none => simp [shortfall?, refusal?]
  | some known =>
      cases guarded : policy.inScope changes.files <;>
        cases bringing : policy.bringsInGate changes.changes <;>
          simp [shortfall?, refusal?, guarded, bringing, Verdict.category?_eq_some_iff]

end EvidenceRule

def ScanResult.complaint? : ScanResult → Option String
  | .findings tool _ => some (tool ++ " reported issues")
  | _ => none

theorem ScanResult.complaint?_eq_some_iff (result : ScanResult) (text : String) :
    result.complaint? = some text ↔ result.blocks = true ∧
      ∃ tool output, result = .findings tool output ∧ text = tool ++ " reported issues" := by
  cases result <;> simp [complaint?, blocks, eq_comm]

def failureTexts (messages : List Message) : List String :=
  (messages.filter fun message => message.level = .fail).map Message.text

@[simp] theorem failureTexts_append (front back : List Message) :
    failureTexts (front ++ back) = failureTexts front ++ failureTexts back := by
  simp [failureTexts]

theorem isEmpty_failureTexts (messages : List Message) :
    (failureTexts messages).isEmpty = !messages.any fun message => message.level = .fail := by
  induction messages with
  | nil => rfl
  | cons message messages ih =>
      by_cases failure : message.level = .fail
      · simp [failureTexts, failure]
      · simpa [failureTexts, failure] using ih

def Message.closing (failed : Bool) : Message :=
  if failed then ⟨.fail, "governance gate failed"⟩
  else ⟨.pass, "all governance gate checks passed"⟩

theorem failureTexts_closing (failed : Bool) :
    failureTexts [.closing failed] = if failed then ["governance gate failed"] else [] := by
  cases failed <;> rfl

namespace Report

/-- A later report has all messages of an earlier one and behind them others, of which just those
with the given texts are failures. -/
def Adds (report : Report) (failures : List String) (later : Report) : Prop :=
  ∃ added, later.messages = report.messages ++ added ∧ failureTexts added = failures

theorem Adds.trans {first second third : Report} {front back : List String}
    (earlier : first.Adds front second) (later : second.Adds back third) :
    first.Adds (front ++ back) third := by
  obtain ⟨added, whole, told⟩ := earlier
  obtain ⟨more, longer, toldMore⟩ := later
  refine ⟨added ++ more, ?_, ?_⟩
  · rw [longer, whole, List.append_assoc]
  · rw [failureTexts_append, told, toldMore]

variable (report : Report)

theorem adds_fail (text : String) : report.Adds [text] (report.add .fail text) :=
  ⟨[⟨.fail, text⟩], rfl, rfl⟩

theorem adds_nothing (level : Level) (text : String) (harmless : level ≠ .fail := by decide) :
    report.Adds [] (report.add level text) :=
  ⟨[⟨level, text⟩], rfl, by simp [failureTexts, harmless]⟩

theorem adds_addOutput (output : String) : report.Adds [] (report.addOutput output) := by
  unfold addOutput
  split
  · exact ⟨[], (List.append_nil _).symm, rfl⟩
  · exact report.adds_nothing .info output

theorem adds_addScan (result : ScanResult) :
    report.Adds result.complaint?.toList (report.addScan result) := by
  cases result with
  | clean tool => exact report.adds_nothing _ _
  | skipped reason => exact report.adds_nothing _ _
  | tolerated tool output =>
      exact (report.adds_nothing _ _).trans (adds_addOutput _ output)
  | unavailable tool reason => exact report.adds_nothing _ _
  | findings tool output => exact (report.adds_fail _).trans (adds_addOutput _ output)

theorem adds_addVerdict (verdict : Verdict) :
    report.Adds (verdict.category?.toList.map missingSection) (report.addVerdict verdict) := by
  cases verdict with
  | structured => exact report.adds_nothing _ _
  | transitional => exact report.adds_nothing _ _
  | missing category => exact (report.adds_fail _).trans (adds_nothing _ _ _)

variable (pullRequest : Option PullRequest) (changes : DiffListings) (policy : Policy)
  (evidence : EvidenceRule)

theorem adds_checkPullRequest (records : List Change) :
    report.Adds ((evidence.refusal? policy records pullRequest).toList.map missingSection)
      (report.checkPullRequest pullRequest records policy evidence) := by
  cases pullRequest with
  | none => exact report.adds_nothing _ _
  | some pullRequest =>
      simp only [checkPullRequest, EvidenceRule.refusal?]
      split
      · exact report.adds_nothing _ _
      · exact report.adds_addVerdict _

theorem adds_review :
    report.Adds ((evidence.shortfall? policy changes pullRequest).toList.map missingSection)
      (report.review pullRequest changes policy evidence) := by
  have counted : report.Adds [] { report.add .info ("reviewed " ++ toString changes.files.length ++
      " changed file(s) in scope candidate set") with
        inScope := policy.inScope changes.files } := report.adds_nothing _ _
  simp only [review, EvidenceRule.shortfall?]
  split
  · have announced := counted.trans (adds_nothing _ .info
      "governance-sensitive path changes detected; enforcing PR evidence")
    exact announced.trans (adds_checkPullRequest _ _ _ _ _)
  · exact counted.trans (adds_nothing _ _ _)

theorem messages_conclude :
    report.conclude.messages = report.messages ++ [.closing report.failed] := by
  cases failed : report.failed <;> simp [conclude, passed, failed, Message.closing, add]

end Report

section Assessment

variable (pullRequest : Option PullRequest) (changes : DiffListings) (policy : Policy)
  (evidence : EvidenceRule) (scanners : ScannerPair) (report : Report)

/-- An assessment asks for secrets and then for dependencies, once each. It adds the failure of the
evidence, of the secrets, of the dependencies and of the whole, each exactly where there is one,
and no others; the last message tells whether the report has failed. -/
theorem assess_failures :
    (assess pullRequest changes policy evidence scanners report).started =
      scanners.secrets.started ++ (scanners.dependencies changes.files).started ∧
    (∀ category, evidence.shortfall? policy changes pullRequest = some category ↔
      policy.inScope changes.files = true ∧ policy.bringsInGate changes.changes = false ∧
        ∃ known, pullRequest = some known ∧ evidence.verdict known.body = .missing category) ∧
    (∀ (result : ScanResult) (text : String), result.complaint? = some text ↔
      result.blocks = true ∧
        ∃ tool output, result = .findings tool output ∧ text = tool ++ " reported issues") ∧
    ∃ added failed,
      failed = (report.failed || (evidence.shortfall? policy changes pullRequest).isSome ||
        scanners.secrets.value.blocks || (scanners.dependencies changes.files).value.blocks) ∧
      (assess pullRequest changes policy evidence scanners report).value.failed = failed ∧
      (assess pullRequest changes policy evidence scanners report).value.messages =
        report.messages ++ added ∧
      failureTexts added =
        (evidence.shortfall? policy changes pullRequest).toList.map missingSection ++
          scanners.secrets.value.complaint?.toList ++
          (scanners.dependencies changes.files).value.complaint?.toList ++
          (if failed then ["governance gate failed"] else []) ∧
      added.getLast? = some (.closing failed) := by
  refine ⟨by simp [assess], evidence.shortfall?_eq_some_iff policy changes pullRequest,
    ScanResult.complaint?_eq_some_iff, ?_⟩
  have reviewed := report.adds_review pullRequest changes policy evidence
  have scanned := (reviewed.trans (Report.adds_addScan _ scanners.secrets.value)).trans
    (Report.adds_addScan _ (scanners.dependencies changes.files).value)
  obtain ⟨found, whole, told⟩ := scanned
  let failed := report.failed || (evidence.shortfall? policy changes pullRequest).isSome ||
    scanners.secrets.value.blocks || (scanners.dependencies changes.files).value.blocks
  refine ⟨found ++ [.closing failed], failed, rfl, ?_, ?_, ?_, ?_⟩
  · rw [assess_failed, ← evidence.isSome_shortfall?]
  · simp [assess, Report.messages_conclude, whole, evidence.isSome_shortfall?, failed]
  · rw [failureTexts_append, told, failureTexts_closing]
  · exact List.getLast?_concat

end Assessment

end PolicyGate
