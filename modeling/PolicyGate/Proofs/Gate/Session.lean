import PolicyGate.Proofs.Gate.Failures

/-!
One report over a whole session, in which messages are told, events and listings gathered and
change sets assessed, in any order and any number of times. No step takes a message back, and the
report counts as failed exactly when one of its messages is a failure.
-/

namespace PolicyGate

inductive SessionStep where
  | tell (level : Level) (text : String)
  | gatherPullRequest (workspace : Workspace) (eventPath : String)
  | gatherChanges (workspace : Workspace) (root : String) (pullRequest : Option PullRequest)
  | assess (pullRequest : Option PullRequest) (changes : DiffListings) (policy : Policy)
      (evidence : EvidenceRule) (scanners : ScannerPair)

namespace SessionStep

def apply (report : Report) : SessionStep → Report
  | tell level text => report.add level text
  | gatherPullRequest workspace eventPath =>
    (PolicyGate.gatherPullRequest workspace eventPath report).2
  | gatherChanges workspace root pullRequest =>
    (PolicyGate.gatherChanges workspace root pullRequest report).value.2
  | assess pullRequest changes policy evidence scanners =>
    (PolicyGate.assess pullRequest changes policy evidence scanners report).value

def gathers : SessionStep → Bool
  | gatherPullRequest .. | gatherChanges .. => true
  | tell .. | assess .. => false

end SessionStep

namespace Report

/-- The report of a session that began with an empty one. -/
def after (steps : List SessionStep) : Report := steps.foldl SessionStep.apply .empty

/-- A later report has all messages of an earlier one and others behind them, and it has failed if
the earlier one had or if one of the others is a failure. -/
def Continues (report later : Report) : Prop :=
  ∃ failures, report.Adds failures later ∧ later.failed = (report.failed || !failures.isEmpty)

theorem Continues.refl (report : Report) : report.Continues report :=
  ⟨[], ⟨[], by simp, rfl⟩, by simp⟩

theorem Continues.trans {first second third : Report} (earlier : first.Continues second)
    (later : second.Continues third) : first.Continues third := by
  obtain ⟨front, added, flag⟩ := earlier
  obtain ⟨back, addedMore, flagMore⟩ := later
  refine ⟨front ++ back, added.trans addedMore, ?_⟩
  rw [flagMore, flag]
  cases front <;> simp

theorem Continues.messages_prefix {report later : Report} (continues : report.Continues later) :
    report.messages <+: later.messages := by
  obtain ⟨_, ⟨added, whole, _⟩, _⟩ := continues
  exact ⟨added, whole.symm⟩

theorem Continues.failed {report later : Report} (continues : report.Continues later)
    (failed : report.failed = true) : later.failed = true := by
  obtain ⟨_, _, flag⟩ := continues
  rw [flag, failed, Bool.true_or]

theorem Continues.failed_eq_any {report : Report} (continues : Report.empty.Continues report) :
    report.failed = report.messages.any fun message => message.level = .fail := by
  obtain ⟨failures, ⟨added, whole, told⟩, flag⟩ := continues
  rw [flag, whole, ← told, isEmpty_failureTexts]
  simp [empty]

theorem Warns.continues {report later : Report} (warns : report.Warns later) :
    report.Continues later := by
  obtain ⟨warnings, rfl⟩ := warns
  refine ⟨[], ⟨_, rfl, ?_⟩, by simp⟩
  simp [failureTexts]

section Steps

variable (report : Report)

theorem continues_add (level : Level) (text : String) : report.Continues (report.add level text) := by
  by_cases failure : level = .fail
  · subst failure
    exact ⟨_, report.adds_fail text, by simp⟩
  · exact ⟨_, report.adds_nothing level text failure, by simp [failure]⟩

theorem continues_addScan (result : ScanResult) : report.Continues (report.addScan result) := by
  refine ⟨_, report.adds_addScan result, ?_⟩
  rw [addScan_failed]
  cases result <;> rfl

theorem continues_review (pullRequest : Option PullRequest) (changes : DiffListings)
    (policy : Policy) (evidence : EvidenceRule) :
    report.Continues (report.review pullRequest changes policy evidence) := by
  refine ⟨_, report.adds_review pullRequest changes policy evidence, ?_⟩
  rw [review_failed, ← evidence.isSome_shortfall?]
  cases evidence.shortfall? policy changes pullRequest <;> rfl

theorem continues_conclude : report.Continues report.conclude := by
  refine ⟨_, ⟨[.closing report.failed], report.messages_conclude, failureTexts_closing _⟩, ?_⟩
  rw [conclude_failed]
  cases report.failed <;> rfl

end Steps

end Report

section Assessment

variable (pullRequest : Option PullRequest) (changes : DiffListings) (policy : Policy)
  (evidence : EvidenceRule) (scanners : ScannerPair) (report : Report)

theorem assess_concludes :
    ∃ checked, report.Continues checked ∧
      (assess pullRequest changes policy evidence scanners report).value = checked.conclude := by
  have reviewed := report.continues_review pullRequest changes policy evidence
  have scanned := (reviewed.trans (Report.continues_addScan _ scanners.secrets.value)).trans
    (Report.continues_addScan _ (scanners.dependencies changes.files).value)
  exact ⟨_, scanned, rfl⟩

end Assessment

namespace SessionStep

theorem continues (step : SessionStep) (report : Report) : report.Continues (step.apply report) := by
  cases step with
  | tell level text => exact report.continues_add level text
  | gatherPullRequest workspace eventPath =>
      exact (report.warns_gatherPullRequest workspace eventPath).continues
  | gatherChanges workspace root pullRequest =>
      exact (report.warns_gatherChanges workspace root pullRequest).continues
  | assess pullRequest changes policy evidence scanners =>
      obtain ⟨checked, continued, whole⟩ :=
        assess_concludes pullRequest changes policy evidence scanners report
      rw [apply, whole]
      exact continued.trans checked.continues_conclude

theorem warns {step : SessionStep} (gathering : step.gathers = true) (report : Report) :
    report.Warns (step.apply report) := by
  cases step with
  | gatherPullRequest workspace eventPath =>
      exact report.warns_gatherPullRequest workspace eventPath
  | gatherChanges workspace root pullRequest =>
      exact report.warns_gatherChanges workspace root pullRequest
  | tell => contradiction
  | assess => contradiction

end SessionStep

theorem Report.continues_steps (report : Report) (steps : List SessionStep) :
    report.Continues (steps.foldl SessionStep.apply report) := by
  induction steps generalizing report with
  | nil => exact .refl report
  | cons step steps ih => exact (step.continues report).trans (ih (step.apply report))

theorem Report.empty_continues_after (steps : List SessionStep) : empty.Continues (after steps) :=
  empty.continues_steps steps

theorem Report.after_append (steps more : List SessionStep) :
    after (steps ++ more) = more.foldl SessionStep.apply (after steps) :=
  List.foldl_append

section Inspection

variable (workspace : Workspace) (root eventPath : String) (policy : Policy)
  (evidence : EvidenceRule) (scanners : ScannerPair)

theorem inspect_eq_after :
    ∃ pullRequest changes,
      (inspect workspace root eventPath policy evidence scanners).value =
        .after [.gatherPullRequest workspace eventPath, .gatherChanges workspace root pullRequest,
          .assess pullRequest changes policy evidence scanners] :=
  ⟨_, _, rfl⟩

theorem inspect_failed_eq_any :
    (inspect workspace root eventPath policy evidence scanners).value.failed =
      (inspect workspace root eventPath policy evidence scanners).value.messages.any (fun message =>
        message.level = .fail) := by
  obtain ⟨pullRequest, changes, run⟩ :=
    inspect_eq_after workspace root eventPath policy evidence scanners
  rw [run]
  exact (Report.empty_continues_after _).failed_eq_any

theorem inspect_closes :
    ∃ front, (inspect workspace root eventPath policy evidence scanners).value.messages =
      front ++ [.closing (inspect workspace root eventPath policy evidence scanners).value.failed] := by
  have run : ∃ pullRequest changes gathered,
      (inspect workspace root eventPath policy evidence scanners).value =
        (assess pullRequest changes policy evidence scanners gathered).value := ⟨_, _, _, rfl⟩
  obtain ⟨pullRequest, changes, gathered, assessed⟩ := run
  obtain ⟨checked, _, whole⟩ :=
    assess_concludes pullRequest changes policy evidence scanners gathered
  exact ⟨checked.messages, by
    rw [assessed, whole, checked.messages_conclude, checked.conclude_failed]⟩

end Inspection

/-- Whatever is done to a report, in whatever order: it has failed exactly when it holds a failure,
messages stay where they are and a failure stays one, gathering changes neither flag, and an
assessment decides the scope anew and closes with what all messages together come to. -/
theorem session_report (steps more : List SessionStep) :
    ((Report.after steps).failed = true ↔
      ∃ message ∈ (Report.after steps).messages, message.level = .fail) ∧
    ((Report.after steps).exitCode = 1 ↔ (Report.after steps).failed = true) ∧
    (Report.after steps).messages <+: (Report.after (steps ++ more)).messages ∧
    ((Report.after steps).failed = true → (Report.after (steps ++ more)).failed = true) ∧
    (∀ step : SessionStep, step.gathers = true →
      (Report.after (steps ++ [step])).failed = (Report.after steps).failed ∧
      (Report.after (steps ++ [step])).inScope = (Report.after steps).inScope) ∧
    ∀ pullRequest changes policy evidence scanners, ∃ assessed front,
      assessed = Report.after (steps ++ [.assess pullRequest changes policy evidence scanners]) ∧
      assessed.inScope = policy.inScope changes.files ∧
      (Report.after steps).messages <+: front ∧
      assessed.messages = front ++
        [.closing (assessed.messages.any fun message => message.level = .fail)] ∧
      (assessed.messages.any fun message => message.level = .fail) =
        front.any fun message => message.level = .fail := by
  have begun := Report.empty_continues_after steps
  have continued : (Report.after steps).Continues (Report.after (steps ++ more)) := by
    rw [Report.after_append]
    exact Report.continues_steps _ more
  refine ⟨?_, ?_, continued.messages_prefix, continued.failed, ?_, ?_⟩
  · rw [begun.failed_eq_any]
    simp
  · cases failed : (Report.after steps).failed <;> simp [Report.exitCode, failed]
  · intro step gathering
    have warned := SessionStep.warns gathering (Report.after steps)
    rw [Report.after_append]
    exact ⟨warned.failed_eq, warned.inScope_eq⟩
  · intro pullRequest changes policy evidence scanners
    have assessed : Report.after (steps ++ [.assess pullRequest changes policy evidence scanners]) =
        (assess pullRequest changes policy evidence scanners (Report.after steps)).value :=
      Report.after_append _ _
    obtain ⟨checked, continued, whole⟩ :=
      assess_concludes pullRequest changes policy evidence scanners (Report.after steps)
    have flag := (begun.trans continued).failed_eq_any
    have closed := ((begun.trans continued).trans checked.continues_conclude).failed_eq_any
    refine ⟨_, checked.messages, rfl, ?_, continued.messages_prefix, ?_, ?_⟩
    · rw [assessed, assess_inScope]
    · rw [assessed, whole, ← closed, checked.conclude_failed, checked.messages_conclude]
    · rw [assessed, whole, ← closed, checked.conclude_failed, flag]

end PolicyGate
