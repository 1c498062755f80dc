import PolicyGate.Proofs.Gate.Decision
import PolicyGate.Proofs.Gate.Failures

/-!
What is gathered for a run when some of it cannot be had. Each problem leaves one warning and takes
away what it concerns and nothing else: without an event there is no pull request, without its
commits git is not asked at all, and of the two listings one may fail and the other be read.
-/

namespace PolicyGate

/-- The report with warnings behind its messages. -/
def Report.warned (report : Report) (warnings : List String) : Report :=
  { report with messages := report.messages ++ warnings.map (⟨.warn, ·⟩) }

theorem Report.add_warn (report : Report) (text : String) :
    report.add .warn text = report.warned [text] := by
  simp [add, warned]

@[simp] theorem Report.warned_nil (report : Report) : report.warned [] = report := by
  simp [warned]

@[simp] theorem Report.warned_warned (report : Report) (warnings more : List String) :
    (report.warned warnings).warned more = report.warned (warnings ++ more) := by
  simp [warned]

theorem Report.warned_eq_self_iff (report : Report) (warnings : List String) :
    report.warned warnings = report ↔ warnings = [] := by
  constructor
  · intro same
    have messages := congrArg Report.messages same
    simpa [warned] using messages
  · rintro rfl
    exact report.warned_nil

theorem Workspace.readText_of_look {workspace : Workspace} {path text : String} {mode : Nat}
    (found : workspace.look path = .ok (.file text.toByteArray mode)) :
    workspace.readText path = .ok text := by
  simp [readText, found, Entry.file, String.fromUTF8?, String.fromUTF8, text.isValidUTF8]

section Event

variable (workspace : Workspace) (eventPath : String) (report : Report)

theorem gatherPullRequest_cases :
    (∃ pullRequest, PullRequest.load workspace eventPath = .ok (some pullRequest) ∧
      gatherPullRequest workspace eventPath report = (some pullRequest, report)) ∨
    ∃ warning, gatherPullRequest workspace eventPath report = (none, report.warned [warning]) := by
  unfold gatherPullRequest
  split
  · next pullRequest loaded => exact Or.inl ⟨pullRequest, loaded, rfl⟩
  · exact Or.inr ⟨_, by rw [report.add_warn]⟩
  · exact Or.inr ⟨_, by rw [report.add_warn]⟩

theorem PullRequest.Payload.fields_of_decode {source : String} {pullRequest : PullRequest}
    (decoded : decode source = .ok (some pullRequest)) :
    ∃ fields : RequestFields, pullRequest = fields.toPullRequest := by
  rw [decode] at decoded
  cases read : Json.Reader.document payload source with
  | error error => simp [read, bind, Except.bind] at decoded
  | ok fields =>
      simp only [read, bind, Except.bind, pure, Except.pure, Except.ok.injEq,
        Option.map_eq_some_iff] at decoded
      obtain ⟨found, _, rfl⟩ := decoded
      exact ⟨found, rfl⟩

theorem PullRequest.decoded_of_load {pullRequest : PullRequest}
    (loaded : PullRequest.load workspace eventPath = .ok (some pullRequest)) :
    ∃ source, Payload.decode source = .ok (some pullRequest) := by
  unfold load at loaded
  split at loaded
  · simp at loaded
  · split at loaded
    · contradiction
    · next source _ =>
        refine ⟨source, ?_⟩
        split at loaded
        · contradiction
        · next decoded =>
            cases loaded
            exact decoded

theorem PullRequest.load_named {pullRequest : PullRequest}
    (loaded : PullRequest.load workspace eventPath = .ok (some pullRequest)) {commit : String}
    (tells : pullRequest.base = some commit ∨ pullRequest.head = some commit) :
    isBlankText commit = false := by
  obtain ⟨source, decoded⟩ := decoded_of_load workspace eventPath loaded
  obtain ⟨fields, rfl⟩ := Payload.fields_of_decode decoded
  have named (ref : Option Payload.CommitFields) (told : ref.bind (·.name?) = some commit) :
      isBlankText commit = false := by
    obtain ⟨held, _, name⟩ := Option.bind_eq_some_iff.mp told
    exact ((namedCommit_eq_some_iff _ _).mp name).2
  exact tells.elim (named _) (named _)

theorem gatherPullRequest_eq_none_iff :
    (gatherPullRequest workspace eventPath report).1 = none ↔
      ∃ warning, (gatherPullRequest workspace eventPath report).2 = report.warned [warning] := by
  rcases gatherPullRequest_cases workspace eventPath report with
    ⟨known, _, gathered⟩ | ⟨warning, gathered⟩
  · have silent : ∀ warning, report ≠ report.warned [warning] := by
      intro warning same
      simpa using (report.warned_eq_self_iff [warning]).mp same.symm
    simpa [gathered] using silent
  · simpa [gathered] using ⟨warning, rfl⟩

theorem gatherPullRequest_ne_none_iff :
    (gatherPullRequest workspace eventPath report).1 ≠ none ↔
      (gatherPullRequest workspace eventPath report).2 = report := by
  rcases gatherPullRequest_cases workspace eventPath report with
    ⟨known, _, gathered⟩ | ⟨warning, gathered⟩
  · simp [gathered]
  · simp [gathered, report.warned_eq_self_iff]

theorem gatherPullRequest_named {known : PullRequest}
    (gathered : (gatherPullRequest workspace eventPath report).1 = some known) {commit : String}
    (tells : known.base = some commit ∨ known.head = some commit) :
    ∃ c ∈ commit.toList, Text.isBlank c = false := by
  have loaded : PullRequest.load workspace eventPath = .ok (some known) := by
    rcases gatherPullRequest_cases workspace eventPath report with
      ⟨found, loaded, whole⟩ | ⟨warning, whole⟩
    · rw [whole, Option.some.injEq] at gathered
      rw [loaded, gathered]
    · simp [whole] at gathered
  have visible := PullRequest.load_named workspace eventPath loaded tells
  simpa [isBlankText] using visible

end Event

namespace Git

def diff (root kind base head : String) : Command := ⟨"git", ["diff", kind, base, head], some root⟩

/-- What becomes of one run of git: its output is read, or there is no listing and one warning. -/
inductive Listed {α : Type} (read : String → List α) :
    Except AccessFault Completion → List α → List String → Prop
  | printed {completion : Completion} : completion.status = .code 0 →
      Listed read (.ok completion) (read (.ofList (Text.decodeLossy completion.output))) []
  | exited {completion : Completion} (warning : String) : completion.status ≠ .code 0 →
      Listed read (.ok completion) [] [warning]
  | notStarted (fault : AccessFault) (warning : String) : Listed read (.error fault) [] [warning]

theorem Listed.listing_eq {α : Type} {read : String → List α}
    {run : Except AccessFault Completion} {listing other : List α} {warnings more : List String}
    (first : Listed read run listing warnings) (second : Listed read run other more) :
    listing = other := by
  cases first with
  | printed succeeded =>
      cases second with
      | printed => rfl
      | exited _ failed => exact absurd succeeded failed
  | exited _ failed =>
      cases second with
      | printed succeeded => exact absurd succeeded failed
      | exited => rfl
  | notStarted =>
      cases second
      rfl

theorem listed_listingOr {α : Type} (read : String → List α) (workspace : Workspace)
    (root kind base head notice : String) (report : Report) :
    ∃ warnings,
      (listingOr notice report ((output workspace root ["diff", kind, base, head]).value.map
        read)).2 = report.warned warnings ∧
      Listed read (workspace.run (diff root kind base head)).value
        (listingOr notice report ((output workspace root ["diff", kind, base, head]).value.map
          read)).1 warnings := by
  simp only [output, diff, Traced.value_bind]
  cases run : (workspace.run ⟨"git", ["diff", kind, base, head], some root⟩).value with
  | error fault => exact ⟨_, report.add_warn _, .notStarted fault _⟩
  | ok completion =>
      by_cases succeeded : completion.status = .code 0
      · simp only [ExitStatus.succeeded, succeeded, decide_true, if_true]
        exact ⟨[], report.warned_nil.symm, .printed succeeded⟩
      · simp only [ExitStatus.succeeded, succeeded, decide_false, Bool.false_eq_true, if_false]
        exact ⟨_, report.add_warn _, .exited _ succeeded⟩

theorem started_output (workspace : Workspace) (root kind base head : String) :
    (output workspace root ["diff", kind, base, head]).started =
      (workspace.run (diff root kind base head)).started := by
  simp only [output, diff, Traced.started_bind]
  split
  · simp
  · split <;> simp

end Git

/-- A commit that is missing or has a blank name. -/
def Unnamed (name : Option String) : Prop := ∀ commit ∈ name, isBlankText commit = true

theorem namedCommit_eq_none_iff (name : Option String) :
    namedCommit? name = none ↔ Unnamed name := by
  simp [namedCommit?, Unnamed]

def unnamedCommits : String :=
  "pull request payload has no base/head sha; treating change set as empty"

section Changes

variable (workspace : Workspace) (root : String) (report : Report)

theorem gatherChanges_unnamed {pullRequest : PullRequest}
    (unnamed : Unnamed pullRequest.base ∨ Unnamed pullRequest.head) :
    gatherChanges workspace root (some pullRequest) report =
      ⟨(.empty, report.warned [unnamedCommits]), []⟩ := by
  simp only [← namedCommit_eq_none_iff] at unnamed
  rcases unnamed with noBase | noHead
  · simp only [gatherChanges, noBase, report.add_warn]
    rfl
  · cases hasBase : namedCommit? pullRequest.base <;>
      simp only [gatherChanges, hasBase, noHead, report.add_warn] <;> rfl

/-- Both listings are asked for between the same commits, the paths first. Each comes with warnings
of its own. -/
structure AskedForBoth (base head : String) (gathered : Traced (DiffListings × Report)) : Prop where
  started : gathered.started =
    (workspace.run (Git.diff root "--name-only" base head)).started ++
      (workspace.run (Git.diff root "--name-status" base head)).started
  listed : ∃ warnings more,
    gathered.value.2 = report.warned (warnings ++ more) ∧
    Git.Listed parsePaths (workspace.run (Git.diff root "--name-only" base head)).value
      gathered.value.1.files warnings ∧
    Git.Listed Change.parseListing
      (workspace.run (Git.diff root "--name-status" base head)).value
      gathered.value.1.changes more

theorem askedForBoth_gatherChanges {pullRequest : PullRequest} {base head : String}
    (hasBase : namedCommit? pullRequest.base = some base)
    (hasHead : namedCommit? pullRequest.head = some head) :
    AskedForBoth workspace root report base head
      (gatherChanges workspace root (some pullRequest) report) := by
  obtain ⟨warnings, warned, listed⟩ := Git.listed_listingOr parsePaths workspace root
    "--name-only" base head "could not compute git diff for changed files" report
  obtain ⟨more, warnedMore, listedMore⟩ := Git.listed_listingOr Change.parseListing workspace root
    "--name-status" base head "could not compute git diff status for changed files"
    (report.warned warnings)
  constructor
  · simp [gatherChanges, hasBase, hasHead, Git.listPaths, Git.listChanges, Git.started_output]
  · refine ⟨warnings, more, ?_, ?_, ?_⟩
    · simp [gatherChanges, hasBase, hasHead, Git.listPaths, Git.listChanges, warned, warnedMore]
    · simpa [gatherChanges, hasBase, hasHead, Git.listPaths, Git.listChanges] using listed
    · simpa [gatherChanges, hasBase, hasHead, Git.listPaths, Git.listChanges, warned]
        using listedMore

theorem gatherChanges_apart {pullRequest : PullRequest} {base head : String}
    (hasBase : namedCommit? pullRequest.base = some base)
    (hasHead : namedCommit? pullRequest.head = some head) (other : Workspace) :
    ((other.run (Git.diff root "--name-only" base head)).value =
        (workspace.run (Git.diff root "--name-only" base head)).value →
      (gatherChanges other root (some pullRequest) report).value.1.files =
        (gatherChanges workspace root (some pullRequest) report).value.1.files) ∧
    ((other.run (Git.diff root "--name-status" base head)).value =
        (workspace.run (Git.diff root "--name-status" base head)).value →
      (gatherChanges other root (some pullRequest) report).value.1.changes =
        (gatherChanges workspace root (some pullRequest) report).value.1.changes) := by
  obtain ⟨_, _, _, paths, records⟩ :=
    (askedForBoth_gatherChanges workspace root report hasBase hasHead).listed
  obtain ⟨_, _, _, otherPaths, otherRecords⟩ :=
    (askedForBoth_gatherChanges other root report hasBase hasHead).listed
  constructor
  · intro same
    rw [same] at otherPaths
    exact otherPaths.listing_eq paths
  · intro same
    rw [same] at otherRecords
    exact otherRecords.listing_eq records

/-- There is a pull request and no warning, or one warning and no pull request. Without commits to
compare there is one warning, nothing is started and a blank name counts as none. With them git
is asked for both listings, and each is read or missing with one warning, whatever becomes of the
other. No flag of the report changes. -/
theorem gathering_degrades (eventPath : String) (pullRequest : PullRequest) :
    ((gatherPullRequest workspace eventPath report).1 = none ↔
      ∃ warning, (gatherPullRequest workspace eventPath report).2 = report.warned [warning]) ∧
    ((gatherPullRequest workspace eventPath report).1 ≠ none ↔
      (gatherPullRequest workspace eventPath report).2 = report) ∧
    (∀ known ∈ (gatherPullRequest workspace eventPath report).1, ∀ commit,
      known.base = some commit ∨ known.head = some commit →
        ∃ c ∈ commit.toList, Text.isBlank c = false) ∧
    gatherChanges workspace root none report = ⟨(.empty, report), []⟩ ∧
    (Unnamed pullRequest.base ∨ Unnamed pullRequest.head →
      gatherChanges workspace root (some pullRequest) report =
        ⟨(.empty, report.warned [unnamedCommits]), []⟩) ∧
    (∀ blank, isBlankText blank = true →
      gatherChanges workspace root (some { pullRequest with base := some blank }) report =
        gatherChanges workspace root (some { pullRequest with base := none }) report ∧
      gatherChanges workspace root (some { pullRequest with head := some blank }) report =
        gatherChanges workspace root (some { pullRequest with head := none }) report) ∧
    ∀ base head, pullRequest.base = some base → isBlankText base = false →
      pullRequest.head = some head → isBlankText head = false →
        AskedForBoth workspace root report base head
          (gatherChanges workspace root (some pullRequest) report) ∧
        ∀ other : Workspace,
          ((other.run (Git.diff root "--name-only" base head)).value =
              (workspace.run (Git.diff root "--name-only" base head)).value →
            (gatherChanges other root (some pullRequest) report).value.1.files =
              (gatherChanges workspace root (some pullRequest) report).value.1.files) ∧
          ((other.run (Git.diff root "--name-status" base head)).value =
              (workspace.run (Git.diff root "--name-status" base head)).value →
            (gatherChanges other root (some pullRequest) report).value.1.changes =
              (gatherChanges workspace root (some pullRequest) report).value.1.changes) := by
  refine ⟨?_, ?_, ?_, rfl, ?_, ?_, ?_⟩
  · exact gatherPullRequest_eq_none_iff workspace eventPath report
  · exact gatherPullRequest_ne_none_iff workspace eventPath report
  · exact fun known gathered commit => gatherPullRequest_named workspace eventPath report gathered
  · exact gatherChanges_unnamed workspace root report
  · intro blank allBlank
    have blankUnnamed : Unnamed (some blank) := by simpa [Unnamed] using allBlank
    have noneUnnamed : Unnamed none := by simp [Unnamed]
    constructor
    · rw [gatherChanges_unnamed _ _ _ (Or.inl blankUnnamed),
        gatherChanges_unnamed _ _ _ (Or.inl noneUnnamed)]
    · rw [gatherChanges_unnamed _ _ _ (Or.inr blankUnnamed),
        gatherChanges_unnamed _ _ _ (Or.inr noneUnnamed)]
  · intro base head hasBase visibleBase hasHead visibleHead
    have namedBase := (namedCommit_eq_some_iff _ _).mpr ⟨hasBase, visibleBase⟩
    have namedHead := (namedCommit_eq_some_iff _ _).mpr ⟨hasHead, visibleHead⟩
    exact ⟨askedForBoth_gatherChanges workspace root report namedBase namedHead,
      gatherChanges_apart workspace root report namedBase namedHead⟩

end Changes

def recordsOnly : Workspace where
  look _ := .error .missing
  searchPath := none
  scratch := "scratch"
  start command :=
    if command.arguments.contains "--name-only" then .ok ⟨.empty, .empty, .code 128⟩
    else .ok ⟨"A\ta\nM\tb\n".toByteArray, .empty, .code 0⟩

theorem gathering_degrades_recordsOnly :
    AskedForBoth recordsOnly "." .empty "a" "b"
      (gatherChanges recordsOnly "." (some ⟨"", some "a", some "b"⟩) .empty) ∧
    (gatherChanges recordsOnly "." (some ⟨"", some "a", some "b"⟩) .empty).value.1.files = [] ∧
    (gatherChanges recordsOnly "." (some ⟨"", some "a", some "b"⟩) .empty).value.1.changes.map
      Change.path = ["a", "b"] := by
  obtain ⟨_, _, _, _, _, _, named⟩ :=
    gathering_degrades recordsOnly "." .empty "event.json" ⟨"", some "a", some "b"⟩
  have asked := (named "a" "b" rfl (by decide) rfl (by decide)).1
  exact ⟨asked, by decide +kernel, by decide +kernel⟩

end PolicyGate
