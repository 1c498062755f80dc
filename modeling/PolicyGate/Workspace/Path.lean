import PolicyGate.Text.Blank

/-!
Paths as texts whose parts are divided by slashes.
-/

namespace PolicyGate.Path

/-- The path of a name inside a directory; an absolute name stands for itself. -/
def join (directory name : String) : String :=
  if name.toList.head? = some '/' then name
  else if directory = "" ∨ directory.toList.getLast? = some '/' then directory ++ name
  else directory ++ "/" ++ name

def parts (path : String) : List String :=
  (Text.split (· = '/') path.toList).map .ofList

def fileName (path : String) : String := (parts path).getLastD ""

end PolicyGate.Path
