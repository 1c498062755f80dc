/-!
The report of a run: messages in the order in which they came up, and whether one of them is a
failure.
-/

namespace PolicyGate

inductive Level where
  | info
  | pass
  | warn
  | fail
  deriving DecidableEq

structure Message where
  level : Level
  text : String
  deriving DecidableEq

structure Report where
  inScope : Bool
  failed : Bool
  messages : List Message
  deriving DecidableEq

def Level.label : Level → String
  | .info => "info:"
  | .pass => "ok:"
  | .warn => "warning:"
  | .fail => "error:"

def Message.render (message : Message) : String := message.level.label ++ " " ++ message.text

namespace Report

def empty : Report := ⟨false, false, []⟩

def add (report : Report) (level : Level) (text : String) : Report :=
  { report with
    failed := report.failed || level = .fail
    messages := report.messages ++ [⟨level, text⟩] }

def passed (report : Report) : Bool := !report.failed

def exitCode (report : Report) : Nat := if report.failed then 1 else 0

end Report

end PolicyGate
