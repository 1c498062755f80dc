import PolicyGate.Workspace.SearchPath

/-!
A workspace held in memory: a tree of files and an answer for every program in it.
-/

namespace PolicyGate

structure Tree where
  entries : List (List String × Entry)

namespace Tree

def entry? (tree : Tree) (location : List String) : Option Entry :=
  match tree.entries.find? (·.1 = location) with
  | some (_, entry) => some entry
  | none =>
    if location = [] ∨ tree.entries.any (location.isPrefixOf ·.1) then some .directory else none

def kind? (tree : Tree) (location : List String) : Option EntryKind :=
  (tree.entry? location).map Entry.kind

def walk (tree : Tree) (location : List String) : List String → Except AccessFault (List String)
  | [] => .ok location
  | part :: rest =>
    match tree.kind? location with
    | none => .error .missing
    | some (.file _) | some .special => .error .notDirectory
    | some .directory =>
      if part = "" ∨ part = "." then walk tree location rest
      else if part = ".." then
        if location = [] then .error .missing else walk tree location.dropLast rest
      else walk tree (location ++ [part]) rest

def locate (tree : Tree) (path : String) : Except AccessFault (List String) :=
  if path = "" ∨ path.toList.head? = some '/' then .error .missing
  else tree.walk [] (Path.parts path)

def look (tree : Tree) (path : String) : Except AccessFault Entry :=
  match tree.locate path with
  | .error fault => .error fault
  | .ok location =>
    match tree.entry? location with
    | some entry => .ok entry
    | none => .error .missing

end Tree

namespace Workspace

/-- The file that a program name stands for: the path itself, or the first executable file of
that name on the search path; if there are only others, they must not be started. -/
def resolveProgram (workspace : Workspace) (program : String) : Except AccessFault String :=
  if program.toList.contains '/' then
    match workspace.look program with
    | .error fault => .error fault
    | .ok entry => if entry.kind.isExecutable then .ok program else .error .denied
  else
    match workspace.findTool program with
    | some path => .ok path
    | none =>
      let candidates := (searchDirectories (workspace.searchPath.getD "")).map (Path.join · program)
      if candidates.any workspace.present then .error .denied else .error .missing

def ofTree (tree : Tree) (searchPath : Option String) (scratch : String)
    (respond : Command → Option Completion) : Workspace :=
  let files : Workspace := ⟨tree.look, searchPath, scratch, fun _ => .error .missing⟩
  let start (command : Command) : Except AccessFault Completion := do
    let place ← tree.look (command.directory.getD ".")
    match place.kind with
    | .file _ | .special => .error .notDirectory
    | .directory =>
      let _ ← files.resolveProgram command.program
      match respond command with
      | some completion => .ok completion
      | none => .error .missing
  { files with start }

end Workspace

end PolicyGate
