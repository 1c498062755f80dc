import PolicyGate.Proofs.Gate.Bodies
import PolicyGate.Proofs.Gate.Gathering

/-!
A run whose change set is in scope always decides on the evidence: right behind the notice that
evidence is asked for stands what came of it. An assessment would pass over the evidence where there
is no pull request, but the scope is decided on paths that only a pull request between two commits
can have, so a run never gets there.
-/

namespace PolicyGate

theorem startsWith_append (start rest : String) : startsWith (start ++ rest) start = true := by
  simp [startsWith]

theorem startsWith_extend {text start : String} (begins : startsWith text start = true)
    (more : String) : startsWith (text ++ more) start = true := by
  rw [startsWith_iff] at begins ⊢
  rw [String.toList_append]
  exact begins.trans (List.prefix_append _ _)

theorem endsWith_append (front ending : String) : endsWith (front ++ ending) ending = true := by
  simp [endsWith]

namespace Message

def reviewed (count : Nat) : Message :=
  ⟨.info, "reviewed " ++ toString count ++ " changed file(s) in scope candidate set"⟩

def enforcing : Message :=
  ⟨.info, "governance-sensitive path changes detected; enforcing PR evidence"⟩

def passedOver : Message := ⟨.warn, "no PR body available; skipping PR evidence check"⟩

theorem ne_passedOver_of_level {level : Level} (other : level ≠ .warn) (text : String) :
    (⟨level, text⟩ : Message) ≠ passedOver := by
  intro same
  exact other (congrArg Message.level same)

theorem ne_passedOver_of_start {start text : String} (begins : startsWith text start = true)
    (apart : startsWith passedOver.text start = false) (level : Level) :
    (⟨level, text⟩ : Message) ≠ passedOver := by
  rintro same
  rw [← same, begins] at apart
  contradiction

theorem ne_passedOver_of_ending {ending text : String} (ends : endsWith text ending = true)
    (apart : endsWith passedOver.text ending = false) (level : Level) :
    (⟨level, text⟩ : Message) ≠ passedOver := by
  rintro same
  rw [← same, ends] at apart
  contradiction

theorem ne_passedOver_of_failure (level : Level) (failure : Failure) :
    (⟨level, failure.message⟩ : Message) ≠ passedOver := by
  cases failure with
  | eventUnreadable path fault =>
      have begins := startsWith_append "failed to read event payload " path
      exact ne_passedOver_of_start (startsWith_extend (startsWith_extend begins _) _) (by decide) _
  | eventMalformed path error =>
      have begins := startsWith_append "event payload " path
      exact ne_passedOver_of_start (startsWith_extend (startsWith_extend begins _) _) (by decide) _
  | gitNotStarted arguments fault =>
      have begins := startsWith_append "failed to run `git " arguments
      exact ne_passedOver_of_start (startsWith_extend (startsWith_extend begins _) _) (by decide) _
  | gitExited arguments code errors =>
      have begins := startsWith_extend (startsWith_append "`git " arguments) "` exited with "
      exact ne_passedOver_of_start
        (startsWith_extend (startsWith_extend (startsWith_extend begins _) _) _) (by decide) _
  | policyUnreadable path fault =>
      have begins := startsWith_append "failed to read gate config " path
      exact ne_passedOver_of_start (startsWith_extend (startsWith_extend begins _) _) (by decide) _
  | policyMalformed path =>
      have begins := startsWith_append "invalid gate config " path
      exact ne_passedOver_of_start begins (by decide) _
  | badPattern sectionName pattern =>
      have begins := startsWith_append "invalid heading pattern `" pattern
      exact ne_passedOver_of_start
        (startsWith_extend (startsWith_extend (startsWith_extend begins _) _) _) (by decide) _

end Message

namespace Report

/-- The report does not tell that evidence was passed over. -/
def Enforces (report : Report) : Prop := .passedOver ∉ report.messages

theorem Enforces.add {report : Report} (enforces : report.Enforces) {level : Level} {text : String}
    (other : (⟨level, text⟩ : Message) ≠ .passedOver) : (report.add level text).Enforces := by
  simpa [Enforces, Report.add, other.symm] using enforces

theorem Enforces.tell {report : Report} (enforces : report.Enforces) (level : Level) (text : String)
    (other : level ≠ .warn := by decide) : (report.add level text).Enforces :=
  enforces.add (Message.ne_passedOver_of_level other text)

theorem Enforces.addOutput {report : Report} (enforces : report.Enforces) (output : String) :
    (report.addOutput output).Enforces := by
  unfold Report.addOutput
  split
  · exact enforces
  · exact enforces.tell _ _

theorem Enforces.addScan {report : Report} (enforces : report.Enforces) (result : ScanResult) :
    (report.addScan result).Enforces := by
  cases result with
  | clean tool => exact enforces.tell _ _
  | skipped reason => exact enforces.tell _ _
  | tolerated tool output =>
      have ends := endsWith_append tool
        " failed; leaving as warning because the toolchain may differ in CI"
      exact (enforces.add (Message.ne_passedOver_of_ending ends (by decide) _)).addOutput output
  | unavailable tool reason =>
      have begins := startsWith_extend (startsWith_extend (startsWith_extend
        (startsWith_append "could not run " tool) " (") reason) "); skipping"
      exact enforces.add (Message.ne_passedOver_of_start begins (by decide) _)
  | findings tool output => exact (enforces.tell _ _).addOutput output

theorem Enforces.addVerdict {report : Report} (enforces : report.Enforces) (verdict : Verdict) :
    (report.addVerdict verdict).Enforces := by
  cases verdict with
  | structured => exact enforces.tell _ _
  | transitional => exact enforces.tell _ _
  | missing category => exact (enforces.tell _ _).tell _ _

theorem Enforces.conclude {report : Report} (enforces : report.Enforces) :
    report.conclude.Enforces := by
  unfold Report.conclude
  split
  · exact enforces.tell _ _
  · exact enforces.tell _ _

theorem Enforces.gatherPullRequest {report : Report} (enforces : report.Enforces)
    (workspace : Workspace) (eventPath : String) :
    (gatherPullRequest workspace eventPath report).2.Enforces := by
  unfold PolicyGate.gatherPullRequest
  split
  · exact enforces
  · exact enforces.add (Message.ne_passedOver_of_start (startsWith_append _ _) (by decide) _)
  · exact enforces.add (Message.ne_passedOver_of_failure _ _)

theorem Enforces.listingOr {α : Type} {report : Report} (enforces : report.Enforces)
    {notice : String} (apart : startsWith Message.passedOver.text notice = false)
    (listing : Except Failure (List α)) : (listingOr notice report listing).2.Enforces := by
  cases listing with
  | ok listing => exact enforces
  | error failure =>
      have begins := startsWith_extend (startsWith_append notice ": ") failure.message
      exact enforces.add (Message.ne_passedOver_of_start begins apart _)

theorem Enforces.gatherChanges {report : Report} (enforces : report.Enforces)
    (workspace : Workspace) (root : String) (pullRequest : Option PullRequest) :
    (gatherChanges workspace root pullRequest report).value.2.Enforces := by
  cases pullRequest with
  | none => exact enforces
  | some pullRequest =>
      unfold PolicyGate.gatherChanges
      dsimp only
      split
      · exact (enforces.listingOr (by decide) _).listingOr (by decide) _
      · exact enforces.add (by decide)

end Report

/-- What a pull request whose paths are in scope is told first of its evidence. -/
inductive EvidenceDecision (policy : Policy) (evidence : EvidenceRule) (records : List Change)
    (body : String) : Message → Prop
  | bringsInGate : policy.bringsInGate records = true →
      EvidenceDecision policy evidence records body
        ⟨.info, "bootstrap governance PR detected; skipping strict PR evidence check once"⟩
  | structured : policy.bringsInGate records = false → evidence.verdict body = .structured →
      EvidenceDecision policy evidence records body
        ⟨.pass, "PR body carries all required governance sections"⟩
  | transitional : policy.bringsInGate records = false → evidence.verdict body = .transitional →
      EvidenceDecision policy evidence records body
        ⟨.info, "transitional PR evidence detected; accepting legacy body format"⟩
  | missing (category : String) : policy.bringsInGate records = false →
      evidence.verdict body = .missing category →
        EvidenceDecision policy evidence records body ⟨.fail, missingSection category⟩

section Review

variable (report : Report) (changes : DiffListings) (policy : Policy) (evidence : EvidenceRule)

theorem Report.checkPullRequest_decides (pullRequest : PullRequest) (records : List Change) :
    ∃ decision hints,
      (report.checkPullRequest (some pullRequest) records policy evidence).messages =
        report.messages ++ decision :: hints ∧
      EvidenceDecision policy evidence records pullRequest.body decision := by
  cases bringing : policy.bringsInGate records with
  | true => exact ⟨_, [], by simp [checkPullRequest, bringing, add], .bringsInGate bringing⟩
  | false =>
      simp only [checkPullRequest, bringing, Bool.false_eq_true, if_false]
      cases verdict : evidence.verdict pullRequest.body with
      | structured =>
          exact ⟨_, _, report.addVerdict_messages .structured, .structured bringing verdict⟩
      | transitional =>
          exact ⟨_, _, report.addVerdict_messages .transitional, .transitional bringing verdict⟩
      | missing category =>
          exact ⟨_, _, report.addVerdict_messages (.missing category),
            .missing category bringing verdict⟩

theorem Report.review_reports (pullRequest : Option PullRequest) :
    ∃ rest, (report.review pullRequest changes policy evidence).messages =
      report.messages ++ .reviewed changes.files.length :: rest := by
  simp only [review]
  split
  · obtain ⟨added, whole, _⟩ := adds_checkPullRequest _ pullRequest policy evidence changes.changes
    exact ⟨.enforcing :: added, whole.trans (by simp [add, Message.reviewed, Message.enforcing])⟩
  · exact ⟨_, List.append_assoc report.messages [.reviewed changes.files.length] _⟩

theorem Report.review_decides (guarded : policy.inScope changes.files = true)
    (pullRequest : PullRequest) :
    ∃ decision hints,
      (report.review (some pullRequest) changes policy evidence).messages =
        report.messages ++ [.reviewed changes.files.length] ++ .enforcing :: decision :: hints ∧
      EvidenceDecision policy evidence changes.changes pullRequest.body decision := by
  obtain ⟨decision, hints, told, decides⟩ := checkPullRequest_decides
    ({ report.add .info (Message.reviewed changes.files.length).text with inScope := true }.add
      .info Message.enforcing.text) policy evidence pullRequest changes.changes
  refine ⟨decision, hints, ?_, decides⟩
  simp only [review, guarded, if_true]
  exact told.trans (by simp [add, Message.reviewed, Message.enforcing])

theorem Report.Enforces.review {report : Report} (enforces : report.Enforces)
    (pullRequest : Option PullRequest)
    (known : policy.inScope changes.files = true → pullRequest ≠ none) :
    (report.review pullRequest changes policy evidence).Enforces := by
  have counted : Report.Enforces { report.add .info ("reviewed " ++ toString changes.files.length ++
      " changed file(s) in scope candidate set") with
        inScope := policy.inScope changes.files } := enforces.tell _ _
  simp only [Report.review]
  split
  · next guarded =>
      cases pullRequest with
      | none => exact absurd rfl (known guarded)
      | some pullRequest =>
          simp only [Report.checkPullRequest]
          split
          · exact (counted.tell _ _).tell _ _
          · exact (counted.tell _ _).addVerdict _
  · exact counted.tell _ _

end Review

section Inspection

variable (workspace : Workspace) (root eventPath : String)

/-- The event tells of a pull request between two commits, both with a visible name. -/
structure NamesCommits (pullRequest : PullRequest) (base head : String) : Prop where
  loaded : PullRequest.load workspace eventPath = .ok (some pullRequest)
  base : pullRequest.base = some base ∧ isBlankText base = false
  head : pullRequest.head = some head ∧ isBlankText head = false

theorem listedPaths_cases :
    listedPaths workspace root eventPath = [] ∨
      ∃ pullRequest base head raw, NamesCommits workspace eventPath pullRequest base head ∧
        (Git.output workspace root ["diff", "--name-only", base, head]).value = .ok raw := by
  unfold listedPaths
  split
  · next pullRequest loaded =>
      split
      · next base head hasBase hasHead =>
          split
          · next raw answered =>
              exact Or.inr ⟨pullRequest, base, head, raw, ⟨loaded,
                (namedCommit_eq_some_iff _ _).mp hasBase,
                (namedCommit_eq_some_iff _ _).mp hasHead⟩, answered⟩
          · exact Or.inl rfl
      · exact Or.inl rfl
  · exact Or.inl rfl

theorem tellChanges_changes {pullRequest : PullRequest} {base head : String}
    (names : NamesCommits workspace eventPath pullRequest base head) :
    (tellChanges workspace root (some pullRequest)).changes =
      recordsBetween workspace root base head := by
  have hasBase := (namedCommit_eq_some_iff _ _).mpr names.base
  have hasHead := (namedCommit_eq_some_iff _ _).mpr names.head
  simp [tellChanges, hasBase, hasHead, listChanges_toOption]

variable (policy : Policy) (evidence : EvidenceRule) (scanners : ScannerPair)

theorem inspect_assesses :
    ∃ gathered : Report, Report.empty.Warns gathered ∧ gathered.Enforces ∧
      (inspect workspace root eventPath policy evidence scanners).value =
        (assess (PullRequest.load workspace eventPath).toOption.join
          (tellChanges workspace root (PullRequest.load workspace eventPath).toOption.join)
          policy evidence scanners gathered).value := by
  let known := (PullRequest.load workspace eventPath).toOption.join
  have begun : Report.empty.Enforces := List.not_mem_nil
  have loaded := Report.empty.warns_gatherPullRequest workspace eventPath
  refine ⟨_, loaded.trans (Report.warns_gatherChanges _ workspace root known),
    (begun.gatherPullRequest workspace eventPath).gatherChanges workspace root known, ?_⟩
  simp only [inspect, Traced.value_bind, gatherChanges_fst, gatherPullRequest_fst, known]

theorem inspect_inScope :
    (inspect workspace root eventPath policy evidence scanners).value.inScope =
      policy.inScope (listedPaths workspace root eventPath) := by
  obtain ⟨gathered, _, _, assessed⟩ :=
    inspect_assesses workspace root eventPath policy evidence scanners
  rw [assessed, assess_inScope, tellChanges_files]

theorem Report.Enforces.assess {report : Report} (enforces : report.Enforces)
    (pullRequest : Option PullRequest) (changes : DiffListings)
    (known : policy.inScope changes.files = true → pullRequest ≠ none) :
    (assess pullRequest changes policy evidence scanners report).value.Enforces :=
  (((enforces.review changes policy evidence pullRequest known).addScan _).addScan _).conclude

theorem review_prefix_assess (changes : DiffListings) (report : Report)
    (pullRequest : Option PullRequest) :
    (report.review pullRequest changes policy evidence).messages <+:
      (assess pullRequest changes policy evidence scanners report).value.messages := by
  rw [assess_messages, List.append_assoc, List.append_assoc]
  exact List.prefix_append _ _

theorem assess_reports (changes : DiffListings) (report : Report)
    (pullRequest : Option PullRequest) :
    ∃ rest, (assess pullRequest changes policy evidence scanners report).value.messages =
      report.messages ++ .reviewed changes.files.length :: rest := by
  obtain ⟨told, reviewed⟩ := report.review_reports changes policy evidence pullRequest
  obtain ⟨rest, whole⟩ := review_prefix_assess policy evidence scanners changes report pullRequest
  refine ⟨told ++ rest, ?_⟩
  rw [← whole, reviewed, List.append_assoc, List.cons_append]

theorem assess_decides {changes : DiffListings} (guarded : policy.inScope changes.files = true)
    (report : Report) (pullRequest : PullRequest) :
    ∃ decision back,
      (assess (some pullRequest) changes policy evidence scanners report).value.messages =
        report.messages ++ [.reviewed changes.files.length] ++ .enforcing :: decision :: back ∧
      EvidenceDecision policy evidence changes.changes pullRequest.body decision := by
  obtain ⟨decision, hints, told, decides⟩ :=
    report.review_decides changes policy evidence guarded pullRequest
  obtain ⟨rest, whole⟩ := review_prefix_assess policy evidence scanners changes report pullRequest
  refine ⟨decision, hints ++ rest, ?_, decides⟩
  rw [← whole, told, List.append_assoc, List.cons_append, List.cons_append]

theorem Message.reviewed_ne_enforcing (count : Nat) : reviewed count ≠ enforcing := by
  intro same
  have begins : startsWith (reviewed count).text "reviewed " = true :=
    startsWith_extend (startsWith_append _ _) _
  rw [same] at begins
  exact absurd begins (by decide)

theorem Report.Warns.enforcing_not_mem {gathered : Report} (warns : Report.empty.Warns gathered)
    (count : Nat) : Message.enforcing ∉ gathered.messages ++ [.reviewed count] := by
  obtain ⟨warnings, rfl⟩ := warns
  have counted := Message.reviewed_ne_enforcing count
  have warned : Message.enforcing ∉ warnings.map (⟨.warn, ·⟩) := by simp [Message.enforcing]
  simp [empty, warned, counted.symm]

/-- Where a run has something in scope, its event names two commits, git has listed the paths
between them, and behind the first notice that evidence is asked for stands what came of it. No run
tells that evidence was passed over. Where the event does not name two commits, nothing is in scope
and no path is reviewed. -/
theorem inspect_enforces :
    ((inspect workspace root eventPath policy evidence scanners).value.inScope = true →
      ∃ pullRequest base head raw front decision back,
        NamesCommits workspace eventPath pullRequest base head ∧
        (Git.output workspace root ["diff", "--name-only", base, head]).value = .ok raw ∧
        (inspect workspace root eventPath policy evidence scanners).value.messages =
          front ++ .enforcing :: decision :: back ∧
        Message.enforcing ∉ front ∧
        EvidenceDecision policy evidence (recordsBetween workspace root base head)
          pullRequest.body decision) ∧
    Message.passedOver ∉ (inspect workspace root eventPath policy evidence scanners).value.messages ∧
    ((¬ ∃ pullRequest base head, NamesCommits workspace eventPath pullRequest base head) →
      (inspect workspace root eventPath policy evidence scanners).value.inScope = false ∧
      ∃ (warnings : List String) (rest : List Message),
        (inspect workspace root eventPath policy evidence scanners).value.messages =
          warnings.map (⟨.warn, ·⟩) ++ .reviewed 0 :: rest) := by
  obtain ⟨gathered, warns, enforces, assessed⟩ :=
    inspect_assesses workspace root eventPath policy evidence scanners
  have unlisted : policy.inScope [] = false := rfl
  refine ⟨?_, ?_, ?_⟩
  · intro guarded
    rw [inspect_inScope] at guarded
    rcases listedPaths_cases workspace root eventPath with
      none | ⟨pullRequest, base, head, raw, names, answered⟩
    · simp [none, unlisted] at guarded
    · have listed := tellChanges_files workspace root eventPath
      rw [names.loaded] at listed assessed
      change (tellChanges workspace root (some pullRequest)).files = _ at listed
      rw [← listed] at guarded
      obtain ⟨decision, back, told, decides⟩ :=
        assess_decides policy evidence scanners guarded gathered pullRequest
      rw [tellChanges_changes workspace root eventPath names] at decides
      rw [assessed]
      exact ⟨pullRequest, base, head, raw, _, decision, back, names, answered, told,
        warns.enforcing_not_mem _, decides⟩
  · rw [assessed]
    apply enforces.assess
    intro guarded unknown
    rw [unknown] at guarded
    simp [tellChanges, DiffListings.empty, unlisted] at guarded
  · intro unnamed
    have none : listedPaths workspace root eventPath = [] := by
      refine (listedPaths_cases workspace root eventPath).resolve_right ?_
      rintro ⟨pullRequest, base, head, raw, names, _⟩
      exact unnamed ⟨pullRequest, base, head, names⟩
    refine ⟨by rw [inspect_inScope, none, unlisted], ?_⟩
    rw [assessed]
    obtain ⟨warnings, rfl⟩ := warns
    obtain ⟨rest, told⟩ := assess_reports policy evidence scanners
      (tellChanges workspace root (PullRequest.load workspace eventPath).toOption.join) _
      (PullRequest.load workspace eventPath).toOption.join
    rw [tellChanges_files, none] at told
    exact ⟨warnings, rest, told⟩

end Inspection

def bareEvent : String :=
  "\x7b\"pull_request\": \x7b\"base\": \x7b\"sha\": \"a\"\x7d, \"head\": " ++
    "\x7b\"sha\": \"b\"\x7d\x7d\x7d"

def guardedWorkspace : Workspace where
  look _ := .ok (.file bareEvent.toByteArray 0o644)
  searchPath := none
  scratch := "scratch"
  start _ := .ok ⟨"GOVERNANCE/a".toByteArray, .empty, .code 0⟩

def guardedRun : Report :=
  (inspect guardedWorkspace "." "event.json" .builtIn ⟨[], Policy.builtIn.transitional⟩
    (.ofWorkspace guardedWorkspace "." .builtIn)).value

theorem listedPaths_guardedWorkspace :
    listedPaths guardedWorkspace "." "event.json" = ["GOVERNANCE/a"] := by
  have read : guardedWorkspace.readText "event.json" = .ok bareEvent :=
    Workspace.readText_of_look rfl
  have loaded : PullRequest.load guardedWorkspace "event.json" =
      .ok (some ⟨"", some "a", some "b"⟩) := by
    rw [PullRequest.load, read]
    rfl
  rw [listedPaths, loaded]
  decide +kernel

theorem inspect_enforces_guardedPath :
    guardedRun.inScope = true ∧
    ∃ front decision back, guardedRun.messages = front ++ .enforcing :: decision :: back := by
  unfold guardedRun
  have guarded : (inspect guardedWorkspace "." "event.json" .builtIn
      ⟨[], Policy.builtIn.transitional⟩
      (.ofWorkspace guardedWorkspace "." .builtIn)).value.inScope = true := by
    rw [inspect_inScope, listedPaths_guardedWorkspace]
    decide +kernel
  obtain ⟨_, _, _, _, front, decision, back, _, _, told, _⟩ :=
    (inspect_enforces guardedWorkspace "." "event.json" .builtIn _ _).1 guarded
  exact ⟨guarded, front, decision, back, told⟩

end PolicyGate
