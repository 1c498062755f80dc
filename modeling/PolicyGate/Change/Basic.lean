/-!
Changed files as a diff lists them.
-/

namespace PolicyGate

inductive ChangeKind where
  | added
  | modified
  | deleted
  | renamed
  | copied
  | typeChanged
  | unmerged
  | other (letter : Char)
  deriving DecidableEq

namespace ChangeKind

def ofLetter (letter : Char) : ChangeKind :=
  match letter.toUpper with
  | 'A' => added
  | 'M' => modified
  | 'D' => deleted
  | 'R' => renamed
  | 'C' => copied
  | 'T' => typeChanged
  | 'U' => unmerged
  | letter => other letter

def letter : ChangeKind → Char
  | added => 'A'
  | modified => 'M'
  | deleted => 'D'
  | renamed => 'R'
  | copied => 'C'
  | typeChanged => 'T'
  | unmerged => 'U'
  | other letter => letter

end ChangeKind

structure Change where
  path : String
  source : Option String
  kind : ChangeKind
  deriving DecidableEq

def Change.paths (change : Change) : List String := change.path :: change.source.toList

structure DiffListings where
  files : List String
  changes : List Change

def DiffListings.empty : DiffListings := ⟨[], []⟩

end PolicyGate
