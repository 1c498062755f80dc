import PolicyGate.CommandLine.Arguments
import PolicyGate.CommandLine.Help
import PolicyGate.Gate.Inspection
import PolicyGate.Policy.File

/-!
One call of the program, from its arguments to what it prints and its exit code.
-/

namespace PolicyGate.CommandLine

structure Answer where
  exitCode : Nat
  output : String
  error : Option String
  deriving DecidableEq

namespace Answer

def ofText (text : String) : Answer := ⟨0, text, none⟩

/-- An argument that is quoted in the message may go on behind a line end; the report does not. -/
def ofUsageError (error : UsageError) : Answer :=
  ⟨2, "", some ("error: " ++ .ofList (error.message.toList.takeWhile (· ≠ '\n')))⟩

def ofFailure (failure : Failure) : Answer :=
  ⟨2, "", some (programName ++ ": " ++ failure.fullMessage)⟩

def ofReport (report : Report) : Answer :=
  ⟨report.exitCode, .join (report.messages.map (·.render ++ "\n")), none⟩

end Answer

/-- The policy of the options with its patterns read. Until both are there nothing is started. -/
def prepare (workspace : Workspace) (options : Options) :
    Except Failure (Policy × EvidenceRule) := do
  let policy ← Policy.load workspace options.config
  return (policy, ← EvidenceRule.ofPolicy policy)

def run (workspace : Workspace) (options : Options) : Traced Answer :=
  match prepare workspace options with
  | .error failure => pure (.ofFailure failure)
  | .ok (policy, evidence) => do
    let scanners := ScannerPair.ofWorkspace workspace options.repoRoot policy
    let report ← inspect workspace options.repoRoot options.eventFile policy evidence
      scanners
    return .ofReport report

def answer (workspace : Workspace) (arguments : List String) (eventVariable : Option String) :
    Traced Answer :=
  match Request.ofArguments arguments eventVariable with
  | .run options => run workspace options
  | .help => pure (.ofText (helpText eventVariable))
  | .version => pure (.ofText versionText)
  | .refuse error => pure (.ofUsageError error)

end PolicyGate.CommandLine
