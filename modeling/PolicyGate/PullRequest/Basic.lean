import PolicyGate.Text.Blank

/-!
What the gate knows about the pull request under review.
-/

namespace PolicyGate

structure PullRequest where
  body : String
  base : Option String
  head : Option String
  deriving DecidableEq

def namedCommit? (name : Option String) : Option String :=
  name.filter fun text => !isBlankText text

end PolicyGate
