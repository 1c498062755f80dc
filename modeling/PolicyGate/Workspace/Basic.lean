import PolicyGate.Workspace.Access
import PolicyGate.Text.Utf8

/-!
The surroundings of a run: the files it can see, where programs are looked for, and what becomes
of a program that is started. Nothing else from outside enters a decision.
-/

namespace PolicyGate

inductive EntryKind where
  | file (mode : Nat)
  | directory
  | special

/-- What can be seen of a path and what comes of opening it. A file that is seen may still refuse
to be read. -/
structure Entry where
  kind : EntryKind
  contents : Except AccessFault ByteArray

namespace Entry

def file (contents : ByteArray) (mode : Nat) : Entry := ⟨.file mode, .ok contents⟩

def directory : Entry := ⟨.directory, .error .isDirectory⟩

end Entry

/-- A program to start. Without a directory it runs where the gate runs. -/
structure Command where
  program : String
  arguments : List String
  directory : Option String

def Command.hasNul (command : Command) : Bool :=
  (command.program :: command.arguments ++ command.directory.toList).any fun part =>
    part.toList.contains '\x00'

inductive ExitStatus where
  | code (value : Nat)
  | killed
  deriving DecidableEq

def ExitStatus.succeeded (status : ExitStatus) : Bool := status = .code 0

structure Completion where
  output : ByteArray
  errors : ByteArray
  status : ExitStatus

structure Workspace where
  look : String → Except AccessFault Entry
  searchPath : Option String
  scratch : String
  start : Command → Except AccessFault Completion

/-- A result together with the programs that were started for it, in order. -/
structure Traced (α : Type) where
  value : α
  started : List Command

namespace Traced

instance : Monad Traced where
  pure value := ⟨value, []⟩
  bind first next :=
    let second := next first.value
    ⟨second.value, first.started ++ second.started⟩

end Traced

namespace Workspace

def present (workspace : Workspace) (path : String) : Bool :=
  match workspace.look path with
  | .ok _ => true
  | .error _ => false

def readText (workspace : Workspace) (path : String) : Except AccessFault String :=
  match workspace.look path with
  | .error fault => .error fault
  | .ok entry =>
    match entry.contents with
    | .error fault => .error fault
    | .ok contents =>
      match String.fromUTF8? contents with
      | some text => .ok text
      | none => .error .notUtf8

def run (workspace : Workspace) (command : Command) :
    Traced (Except AccessFault Completion) :=
  if command.hasNul then ⟨.error .nulByte, []⟩
  else
    match workspace.start command with
    | .ok completion => ⟨.ok completion, [command]⟩
    | .error fault => ⟨.error fault, []⟩

end Workspace

end PolicyGate
