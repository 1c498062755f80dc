import PolicyGate.CommandLine.Session

/-!
The program. It reads the two files that a run may ask for and leaves the rest to the library.
From here no other program is started, so each counts as one that is not installed.
-/

namespace PolicyGate.CommandLine

def faultOf : IO.Error → AccessFault
  | .permissionDenied .. => .denied
  | .inappropriateType _ _ "not a directory" => .notDirectory
  | .inappropriateType .. => .isDirectory
  | _ => .missing

def readEntry (path : String) : IO (String × Except AccessFault Entry) := do
  match ← (IO.FS.readBinFile path).toBaseIO with
  | .ok contents => return (path, .ok (.file contents 0o644))
  | .error error =>
    let fault := faultOf error
    match ← (IO.FS.realPath path).toBaseIO with
    | .ok _ => return (path, .ok ⟨.special, .error fault⟩)
    | .error _ => return (path, .error fault)

def Request.inputs : Request → List String
  | .run options => options.eventFile :: options.config.toList
  | _ => []

def fixedWorkspace (files : List (String × Except AccessFault Entry)) : Workspace where
  look path := (files.lookup path).getD (.error .missing)
  searchPath := none
  scratch := "/tmp"
  start _ := .error .missing

def program (arguments : List String) : IO UInt32 := do
  let eventVariable ← IO.getEnv eventVariableName
  let files ← (Request.ofArguments arguments eventVariable).inputs.mapM readEntry
  let reply := (answer (fixedWorkspace files) arguments eventVariable).value
  IO.print reply.output
  match reply.error with
  | some error => IO.eprintln error
  | none => pure ()
  return reply.exitCode.toUInt32

end PolicyGate.CommandLine

def main (arguments : List String) : IO UInt32 := PolicyGate.CommandLine.program arguments
