import PolicyGate.CommandLine.Session
import PolicyGate.Proofs.Evidence.BuiltIn
import PolicyGate.Proofs.Evidence.Reading
import PolicyGate.Proofs.Gate.Gathering
import PolicyGate.Proofs.Gate.Session
import PolicyGate.Proofs.Text.Lines

/-!
What a call of the program that asks for a run comes to. Either its policy cannot be had, and then
it ends before anything else is looked at or started, or it ends with the report of a run, whose
exit code, messages and last line tell the same.
-/

namespace PolicyGate

namespace CommandLine

/-- Why a run is refused: its policy file cannot be read, is no policy, or asks for headings by
something that is no pattern. -/
inductive Refused (workspace : Workspace) (options : Options) : Prop
  | unreadable (path : String) (fault : AccessFault) : options.config = some path →
      workspace.readText path = .error fault → Refused workspace options
  | malformed (path text : String) : options.config = some path →
      workspace.readText path = .ok text → Policy.ofText? text = none → Refused workspace options
  | badPattern (policy : Policy) (rule : SectionRule) (text : String) :
      Policy.load workspace options.config = .ok policy → rule ∈ policy.requiredSections →
        text ∈ rule.patterns → Pattern.ofText? text = none → Refused workspace options

section Preparation

variable {workspace : Workspace} {options : Options}

theorem refused_of_load_error {failure : Failure}
    (refused : Policy.load workspace options.config = .error failure) :
    Refused workspace options := by
  cases config : options.config with
  | none => simp [config, Policy.load] at refused
  | some path =>
      cases read : workspace.readText path with
      | error fault => exact .unreadable path fault config read
      | ok text =>
          cases found : Policy.ofText? text with
          | none => exact .malformed path text config read found
          | some policy => simp [config, Policy.load, read, found] at refused

theorem refused_iff_of_load {policy : Policy}
    (loaded : Policy.load workspace options.config = .ok policy) :
    Refused workspace options ↔ ∀ evidence, EvidenceRule.ofPolicy policy ≠ .ok evidence := by
  constructor
  · intro refused evidence compiled
    have readable := (EvidenceRule.ofPolicy_isOk_iff policy).mp ⟨evidence, compiled⟩
    cases refused with
    | unreadable path fault config read => simp [config, Policy.load, read] at loaded
    | malformed path text config read bad => simp [config, Policy.load, read, bad] at loaded
    | badPattern other rule text told member among bad =>
        rw [loaded, Except.ok.injEq] at told
        subst told
        exact readable rule member text among bad
  · intro uncompiled
    by_contra accepted
    have readable : ∀ rule ∈ policy.requiredSections, ∀ text ∈ rule.patterns,
        Pattern.ofText? text ≠ none := by
      intro rule member text among bad
      exact accepted (.badPattern policy rule text loaded member among bad)
    obtain ⟨evidence, compiled⟩ := (EvidenceRule.ofPolicy_isOk_iff policy).mpr readable
    exact uncompiled evidence compiled

variable (workspace options)

theorem prepare_cases :
    (Refused workspace options ∧ ∃ failure, prepare workspace options = .error failure) ∨
      ¬ Refused workspace options ∧ ∃ policy evidence,
        Policy.load workspace options.config = .ok policy ∧
        EvidenceRule.ofPolicy policy = .ok evidence ∧
        prepare workspace options = .ok (policy, evidence) := by
  cases loaded : Policy.load workspace options.config with
  | error failure =>
      exact Or.inl ⟨refused_of_load_error loaded, failure, by rw [prepare, loaded]; rfl⟩
  | ok policy =>
      rw [refused_iff_of_load loaded]
      cases read : EvidenceRule.ofPolicy policy with
      | error failure =>
          exact Or.inl ⟨by simp, failure, by simp [prepare, loaded, read, bind, Except.bind]⟩
      | ok evidence =>
          refine Or.inr ⟨by simp, policy, evidence, rfl, read, ?_⟩
          simp [prepare, loaded, read, bind, Except.bind, pure, Except.pure]

theorem prepare_congr {other : Workspace}
    (same : ∀ path ∈ options.config, other.readText path = workspace.readText path) :
    prepare other options = prepare workspace options := by
  have loaded : Policy.load other options.config = Policy.load workspace options.config := by
    cases config : options.config with
    | none => rfl
    | some path => simp only [Policy.load, same path config]
  rw [prepare, prepare, loaded]

theorem not_refused_of_builtIn (config : options.config = none) : ¬ Refused workspace options := by
  have loaded : Policy.load workspace options.config = .ok .builtIn := by rw [config]; rfl
  rw [refused_iff_of_load loaded]
  exact fun refused => refused _ EvidenceRule.ofPolicy_builtIn

end Preparation

def lastLine (text : String) : Option String := (Text.lines text.toList).getLast?.map .ofList

theorem Answer.toList_output_ofReport (report : Report) :
    (ofReport report).output.toList =
      Text.unlines (report.messages.map fun message => message.render.toList) := by
  simp [ofReport, Text.unlines, List.flatMap_map]

theorem Answer.lastLine_ofReport {report : Report} {front : List Message} {message : Message}
    (whole : report.messages = front ++ [message]) (isLine : Text.IsLine message.render.toList) :
    lastLine (ofReport report).output = some message.render := by
  have alone : Text.lines (message.render.toList ++ ['\n']) = [message.render.toList] :=
    isLine.lines_append []
  rw [lastLine, toList_output_ofReport, whole, List.map_append, Text.unlines, List.flatMap_append,
    ← Text.unlines]
  simp [Text.lines_unlines_append, alone]

theorem Answer.lastLine_closing {report : Report} {front : List Message}
    (whole : report.messages = front ++ [.closing report.failed]) :
    (lastLine (ofReport report).output = some "ok: all governance gate checks passed" ↔
      report.exitCode = 0) ∧
    (lastLine (ofReport report).output = some "error: governance gate failed" ↔
      report.exitCode = 1) := by
  have isLine : Text.IsLine (Message.closing report.failed).render.toList := by
    cases report.failed <;> exact ⟨by decide, by decide⟩
  rw [lastLine_ofReport whole isLine, Report.exitCode]
  cases report.failed <;> decide

/-- The answer tells what a report holds: its messages, by its exit code whether one of them is a
failure, and by its last line the same. -/
structure Answer.Tells (reply : Answer) (report : Report) : Prop where
  exits : reply.exitCode = 0 ∨ reply.exitCode = 1
  output : reply.output = .join (report.messages.map (·.render ++ "\n"))
  failure : reply.exitCode = 1 ↔ ∃ message ∈ report.messages, message.level = .fail
  passed : lastLine reply.output = some "ok: all governance gate checks passed" ↔
    reply.exitCode = 0
  failed : lastLine reply.output = some "error: governance gate failed" ↔ reply.exitCode = 1

theorem Answer.tells_ofReport {report : Report} {front : List Message}
    (flag : report.failed = report.messages.any fun message => message.level = .fail)
    (whole : report.messages = front ++ [.closing report.failed]) :
    (Answer.ofReport report).Tells report where
  exits := by
    cases failed : report.failed <;> simp [ofReport, Report.exitCode, failed]
  output := rfl
  failure := by
    have exits : (ofReport report).exitCode = 1 ↔ report.failed = true := by
      cases failed : report.failed <;> simp [ofReport, Report.exitCode, failed]
    simpa [flag] using exits
  passed := (lastLine_closing whole).1
  failed := (lastLine_closing whole).2

/-- A call that asks for a run and has no usable policy exits with 2, prints nothing and starts
nothing; whatever else its surroundings hold, it comes to the same. Any other one tells what the
report of its run holds. Without a policy file none is refused. -/
theorem answer_outcome {arguments : List String} {eventVariable : Option String} {options : Options}
    (accepted : Request.ofArguments arguments eventVariable = .run options)
    (workspace : Workspace) :
    (Refused workspace options →
      (answer workspace arguments eventVariable).value.exitCode = 2 ∧
      (answer workspace arguments eventVariable).value.output = "" ∧
      (answer workspace arguments eventVariable).started = [] ∧
      ∀ other : Workspace,
        (∀ path ∈ options.config, other.readText path = workspace.readText path) →
          answer other arguments eventVariable = answer workspace arguments eventVariable) ∧
    (¬ Refused workspace options → ∃ policy evidence,
      Policy.load workspace options.config = .ok policy ∧
      EvidenceRule.ofPolicy policy = .ok evidence ∧
      (answer workspace arguments eventVariable).value.Tells
        (inspect workspace options.repoRoot options.eventFile policy evidence
          (.ofWorkspace workspace options.repoRoot policy)).value) ∧
    (options.config = none → ¬ Refused workspace options) := by
  have answered (surroundings : Workspace) :
      answer surroundings arguments eventVariable = run surroundings options := by
    rw [answer, accepted]
  simp only [answered]
  refine ⟨?_, ?_, not_refused_of_builtIn workspace options⟩
  · intro refused
    rcases prepare_cases workspace options with ⟨_, failure, failing⟩ | ⟨usable, _⟩
    · have ended : run workspace options = pure (.ofFailure failure) := by
        rw [run, failing]
      refine ⟨by rw [ended]; rfl, by rw [ended]; rfl, by rw [ended]; rfl, fun other same => ?_⟩
      rw [ended, run, prepare_congr workspace options same, failing]
    · exact absurd refused usable
  · intro usable
    rcases prepare_cases workspace options with
      ⟨refused, _⟩ | ⟨_, policy, evidence, loaded, read, prepared⟩
    · exact absurd refused usable
    · refine ⟨policy, evidence, loaded, read, ?_⟩
      obtain ⟨front, closed⟩ := inspect_closes workspace options.repoRoot options.eventFile policy
        evidence (.ofWorkspace workspace options.repoRoot policy)
      have told : (run workspace options).value = .ofReport (inspect workspace options.repoRoot
          options.eventFile policy evidence
            (.ofWorkspace workspace options.repoRoot policy)).value := by
        rw [run, prepared]
        rfl
      rw [told]
      exact Answer.tells_ofReport (inspect_failed_eq_any ..) closed

def unclosedGroup : String :=
  "[[required_sections]]\nname = \"log\"\npatterns = [\"log\", \"(log\"]\n"

def unclosedWorkspace : Workspace where
  look path :=
    if path = "gates.toml" then .ok (.file unclosedGroup.toByteArray 0o644) else .error .missing
  searchPath := none
  scratch := "scratch"
  start _ := .error .missing

def unclosedRule : SectionRule := ⟨"log", ["log", "(log"], .substantive⟩

theorem load_unclosedGroup : Policy.load unclosedWorkspace (some "gates.toml") =
    .ok { Policy.builtIn with requiredSections := [unclosedRule] } := by
  have read : unclosedWorkspace.readText "gates.toml" = .ok unclosedGroup :=
    Workspace.readText_of_look rfl
  have found : Policy.ofText? unclosedGroup =
      some { Policy.builtIn with requiredSections := [unclosedRule] } := by
    decide
  simp only [Policy.load, read, found]

theorem answer_outcome_unclosedGroup :
    (answer unclosedWorkspace ["--config=gates.toml"] none).value.exitCode = 2 ∧
    (answer unclosedWorkspace ["--config=gates.toml"] none).started = [] ∧
    ∃ report, (answer unclosedWorkspace [] none).value.Tells report := by
  have refused : Refused unclosedWorkspace ⟨".", none, some "gates.toml", false⟩ :=
    .badPattern _ unclosedRule "(log" load_unclosedGroup (by decide) (by decide) rfl
  have configured : Request.ofArguments ["--config=gates.toml"] none =
      .run ⟨".", none, some "gates.toml", false⟩ := rfl
  have plain : Request.ofArguments [] none = .run ⟨".", none, none, false⟩ := rfl
  have ended := (answer_outcome configured unclosedWorkspace).1 refused
  have went := answer_outcome plain unclosedWorkspace
  obtain ⟨policy, evidence, _, _, tells⟩ := went.2.1 (went.2.2 rfl)
  exact ⟨ended.1, ended.2.2.1, _, tells⟩

end CommandLine

end PolicyGate
