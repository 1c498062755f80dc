import PolicyGate.CommandLine.Options

/-!
The texts that tell of the program itself.
-/

namespace PolicyGate.CommandLine

def programName : String := "gov-gates"

def versionText : String := programName ++ " 0.1.0\n"

def eventVariableName : String := "GITHUB_EVENT_PATH"

def helpColumn : Nat := 33

def helpLine (option description : String) : String :=
  let gap (width : Nat) : List Char := List.replicate (helpColumn - width) ' '
  let indented := description.toList.flatMap fun c => if c = '\n' then c :: gap 0 else [c]
  .ofList (option.toList ++ gap option.length ++ indented ++ ['\n'])

def helpText (eventVariable : Option String) : String :=
  let long (text : String) : String := "      " ++ text
  "Governance/security gate for pull requests touching policy-sensitive paths\n\n" ++
  "Usage: " ++ programName ++ " [OPTIONS]\n\n" ++
  "Options:\n" ++
  helpLine (long Setting.repoRoot.shown)
    "Repository checkout to diff and scan [default: .]" ++
  helpLine (long Setting.eventPath.shown)
    ("CI event payload (defaults to <repo-root>/event.json) [env: " ++ eventVariableName ++ "=" ++
      eventVariable.getD "" ++ "]") ++
  helpLine (long Setting.config.shown)
    "TOML gate policy overriding the built-in policy" ++
  helpLine "  -v, --verbose" "Emit debug diagnostics on stderr" ++
  helpLine "  -h, --help" "Print help" ++
  helpLine "  -V, --version" "Print version"

end PolicyGate.CommandLine
