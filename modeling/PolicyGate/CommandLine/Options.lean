import PolicyGate.Workspace.Path

/-!
What the command line can ask for, and why it may be refused.
-/

namespace PolicyGate.CommandLine

inductive Setting where
  | repoRoot
  | eventPath
  | config
  deriving DecidableEq

def Setting.name : Setting → String
  | .repoRoot => "repo-root"
  | .eventPath => "event-path"
  | .config => "config"

def Setting.placeholder : Setting → String
  | .repoRoot => "REPO_ROOT"
  | .eventPath => "EVENT_PATH"
  | .config => "CONFIG"

def Setting.shown (setting : Setting) : String :=
  "--" ++ setting.name ++ " <" ++ setting.placeholder ++ ">"

def Setting.named? (name : String) : Option Setting :=
  [Setting.repoRoot, .eventPath, .config].find? (·.name = name)

inductive Switch where
  | verbose
  | help
  | version
  deriving DecidableEq

def Switch.name : Switch → String
  | .verbose => "verbose"
  | .help => "help"
  | .version => "version"

def Switch.letter : Switch → Char
  | .verbose => 'v'
  | .help => 'h'
  | .version => 'V'

def Switch.shown (switch : Switch) : String := "--" ++ switch.name

def Switch.named? (name : String) : Option Switch :=
  [Switch.verbose, .help, .version].find? (·.name = name)

def Switch.lettered? (letter : Char) : Option Switch :=
  [Switch.verbose, .help, .version].find? (·.letter = letter)

inductive UsageError where
  | unexpectedArgument (argument : String)
  | missingValue (setting : Setting)
  | unexpectedValue (value : String) (switch : Switch)
  | repeatedSetting (setting : Setting)
  | repeatedSwitch (switch : Switch)
  deriving DecidableEq

def UsageError.message : UsageError → String
  | unexpectedArgument argument => "unexpected argument '" ++ argument ++ "' found"
  | missingValue setting =>
    "a value is required for '" ++ setting.shown ++ "' but none was supplied"
  | unexpectedValue value switch =>
    "unexpected value '" ++ value ++ "' for '" ++ switch.shown ++
      "' found; no more were expected"
  | repeatedSetting setting =>
    "the argument '" ++ setting.shown ++ "' cannot be used multiple times"
  | repeatedSwitch switch =>
    "the argument '" ++ switch.shown ++ "' cannot be used multiple times"

structure Options where
  repoRoot : String
  eventPath : Option String
  config : Option String
  verbose : Bool
  deriving DecidableEq

/-- Without an option for it, the event lies in the repository. -/
def Options.eventFile (options : Options) : String :=
  options.eventPath.getD (Path.join options.repoRoot "event.json")

inductive Request where
  | run (options : Options)
  | help
  | version
  | refuse (error : UsageError)

end PolicyGate.CommandLine
