import PolicyGate.Workspace.Basic
import PolicyGate.Workspace.Path

/-!
Finding a tool: the first directory of a list that holds an executable file of its name.
-/

namespace PolicyGate

def EntryKind.isExecutable : EntryKind → Bool
  | .file mode => mode &&& 0o111 != 0
  | .directory | .special => false

namespace Workspace

def isExecutable (workspace : Workspace) (path : String) : Bool :=
  match workspace.look path with
  | .ok entry => entry.kind.isExecutable
  | .error _ => false

def findToolFrom (workspace : Workspace) (name : String) : List String → Option String
  | [] => none
  | directory :: rest =>
    if directory = "" then findToolFrom workspace name rest
    else
      let candidate := Path.join directory name
      if workspace.isExecutable candidate then some candidate
      else findToolFrom workspace name rest

/-- Empty entries of the list and a blank name match nothing. -/
def findToolIn (workspace : Workspace) (name : String) (directories : List String) :
    Option String :=
  if isBlankText name then none else findToolFrom workspace name directories

def searchDirectories (searchPath : String) : List String :=
  (Text.split (· = ':') searchPath.toList).map .ofList

def findTool (workspace : Workspace) (name : String) : Option String :=
  match workspace.searchPath with
  | none => none
  | some searchPath => workspace.findToolIn name (searchDirectories searchPath)

end Workspace

end PolicyGate
