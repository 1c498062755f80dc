import PolicyGate.Change.Basic
import PolicyGate.Policy.Basic
import PolicyGate.Text.Search

/-!
Which changes the policy concerns: guarded paths, dependency manifests, and the one change set
that brings in the gate itself.
-/

namespace PolicyGate.Policy

/-- A guard that ends in a slash covers a directory, any other one a file at the root and all that
begins like it. -/
def guards (policy : Policy) (path : String) : Bool :=
  policy.guardPaths.any fun guardPath => startsWith path guardPath

def inScope (policy : Policy) (files : List String) : Bool := files.any policy.guards

def isManifest (policy : Policy) (path : String) : Bool :=
  policy.dependencyManifests.any fun manifest => endsWith path manifest

def changesManifest (policy : Policy) (files : List String) : Bool :=
  files.any policy.isManifest

def allowsAtBootstrap (policy : Policy) (path : String) : Bool :=
  policy.bootstrap.allowedFiles.any (· = path) ||
    policy.bootstrap.allowedPrefixes.any fun start => startsWith path start

def addsGate (policy : Policy) (change : Change) : Bool :=
  change.path = policy.gateScript && change.kind = .added

def bringsInGate (policy : Policy) (changes : List Change) : Bool :=
  changes.any policy.addsGate &&
    changes.all fun change => change.paths.all policy.allowsAtBootstrap

end PolicyGate.Policy
