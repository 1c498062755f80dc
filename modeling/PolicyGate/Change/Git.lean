import PolicyGate.Change.Listing
import PolicyGate.Failure
import PolicyGate.Workspace.Basic

/-!
Asking git for the two listings of a diff.
-/

namespace PolicyGate.Git

def joined (arguments : List String) : String := " ".intercalate arguments

def exitText : ExitStatus → String
  | .code value => toString value
  | .killed => "signal"

def output (workspace : Workspace) (root : String) (arguments : List String) :
    Traced (Except Failure String) := do
  match ← workspace.run ⟨"git", arguments, some root⟩ with
  | .error fault => return .error (.gitNotStarted (joined arguments) fault)
  | .ok completion =>
    if completion.status.succeeded then
      return .ok (.ofList (Text.decodeLossy completion.output))
    else
      let errors := String.ofList (Text.trim (Text.decodeLossy completion.errors))
      return .error (.gitExited (joined arguments) (exitText completion.status) errors)

def listPaths (workspace : Workspace) (root base head : String) :
    Traced (Except Failure (List String)) := do
  return (← output workspace root ["diff", "--name-only", base, head]).map parsePaths

def listChanges (workspace : Workspace) (root base head : String) :
    Traced (Except Failure (List Change)) := do
  return (← output workspace root ["diff", "--name-status", base, head]).map Change.parseListing

end PolicyGate.Git
