import PolicyGate.Json.Error
import PolicyGate.Workspace.Access

/-!
Everything that can go wrong on the way to a verdict, with the texts that tell of it.
-/

namespace PolicyGate

inductive Failure where
  | eventUnreadable (path : String) (fault : AccessFault)
  | eventMalformed (path : String) (error : Json.Error)
  | gitNotStarted (arguments : String) (fault : AccessFault)
  | gitExited (arguments : String) (code : String) (errors : String)
  | policyUnreadable (path : String) (fault : AccessFault)
  | policyMalformed (path : String)
  | badPattern (sectionName : String) (pattern : String)

namespace Failure

def message : Failure → String
  | eventUnreadable path fault => "failed to read event payload " ++ path ++ ": " ++ fault.message
  | eventMalformed path error =>
    "event payload " ++ path ++ " is not valid JSON: " ++ error.message
  | gitNotStarted arguments fault => "failed to run `git " ++ arguments ++ "`: " ++ fault.message
  | gitExited arguments code errors =>
    "`git " ++ arguments ++ "` exited with " ++ code ++ ": " ++ errors
  | policyUnreadable path fault => "failed to read gate config " ++ path ++ ": " ++ fault.message
  | policyMalformed path => "invalid gate config " ++ path
  | badPattern sectionName pattern =>
    "invalid heading pattern `" ++ pattern ++ "` for section `" ++ sectionName ++ "`"

def cause? : Failure → Option String
  | eventUnreadable _ fault | gitNotStarted _ fault | policyUnreadable _ fault =>
    some fault.message
  | eventMalformed _ error => some error.message
  | gitExited .. | policyMalformed _ | badPattern .. => none

def fullMessage (failure : Failure) : String :=
  match failure.cause? with
  | some cause => failure.message ++ ": " ++ cause
  | none => failure.message

end Failure

end PolicyGate
