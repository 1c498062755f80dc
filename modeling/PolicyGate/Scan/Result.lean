import PolicyGate.Gate.Report

/-!
What a scanner found, and what the report says of it.
-/

namespace PolicyGate

inductive ScanResult where
  | clean (tool : String)
  | skipped (reason : String)
  /-- Problems that must not stop the pull request. -/
  | tolerated (tool : String) (output : String)
  | unavailable (tool : String) (reason : String)
  | findings (tool : String) (output : String)
  deriving DecidableEq

def ScanResult.blocks : ScanResult → Bool
  | .findings .. => true
  | _ => false

def Report.addOutput (report : Report) (output : String) : Report :=
  if output.isEmpty then report else report.add .info output

def Report.addScan (report : Report) : ScanResult → Report
  | .clean tool => report.add .pass (tool ++ ": no findings")
  | .skipped reason => report.add .info reason
  | .tolerated tool output =>
    (report.add .warn
      (tool ++ " failed; leaving as warning because the toolchain may differ in CI")).addOutput
        output
  | .unavailable tool reason =>
    report.add .warn ("could not run " ++ tool ++ " (" ++ reason ++ "); skipping")
  | .findings tool output => (report.add .fail (tool ++ " reported issues")).addOutput output

end PolicyGate
