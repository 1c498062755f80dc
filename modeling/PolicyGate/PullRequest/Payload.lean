import PolicyGate.Json.Values
import PolicyGate.PullRequest.Basic
import PolicyGate.Workspace.Basic
import PolicyGate.Failure

/-!
The event payload of a pull request: an object whose member `pull_request` holds a body and the
commits `base` and `head`. Every member may be left out or null, and others are passed over.
-/

namespace PolicyGate.PullRequest.Payload

open Json (Reader)
open Json.Reader

/-- A member as it is read: not met, or met with its value. -/
abbrev Field (α : Type) := Option (Option α)

def field {α : Type} (name : String) (before : Field α) (reader : Reader α) :
    Reader (Field α) := do
  if before.isSome then duplicate name
  else
    colon
    some <$> optional reader

def placed {α : Type} (reader : Reader α) : Reader (Field α) := some <$> optional reader

def unknown {σ : Type} (record : σ) : Reader σ := do
  colon
  skipValue
  pure record

structure CommitFields where
  sha : Field String := none

def commit : Reader CommitFields :=
  Json.Reader.record "struct CommitRef"
    (fun key fields =>
      if key = "sha" then do pure { fields with sha := ← field "sha" fields.sha text }
      else unknown fields)
    [fun fields => do pure { fields with sha := ← placed text }]
    {}

structure RequestFields where
  body : Field String := none
  base : Field CommitFields := none
  head : Field CommitFields := none

def request : Reader RequestFields :=
  Json.Reader.record "struct PullRequest"
    (fun key fields =>
      if key = "body" then do pure { fields with body := ← field "body" fields.body text }
      else if key = "base" then do pure { fields with base := ← field "base" fields.base commit }
      else if key = "head" then do pure { fields with head := ← field "head" fields.head commit }
      else unknown fields)
    [fun fields => do pure { fields with body := ← placed text },
      fun fields => do pure { fields with base := ← placed commit },
      fun fields => do pure { fields with head := ← placed commit }]
    {}

structure PayloadFields where
  pullRequest : Field RequestFields := none

def payload : Reader PayloadFields :=
  Json.Reader.record "struct EventPayload"
    (fun key fields =>
      if key = "pull_request" then do
        pure { fields with pullRequest := ← field "pull_request" fields.pullRequest request }
      else unknown fields)
    [fun fields => do pure { fields with pullRequest := ← placed request }]
    {}

def CommitFields.name? (fields : CommitFields) : Option String := namedCommit? fields.sha.join

def RequestFields.toPullRequest (fields : RequestFields) : PullRequest where
  body := fields.body.join.getD ""
  base := fields.base.join.bind CommitFields.name?
  head := fields.head.join.bind CommitFields.name?

def decode (source : String) : Except Json.Error (Option PullRequest) := do
  let fields ← document payload source
  pure (fields.pullRequest.join.map RequestFields.toPullRequest)

end PolicyGate.PullRequest.Payload

namespace PolicyGate.PullRequest

def load (workspace : Workspace) (path : String) : Except Failure (Option PullRequest) :=
  if !workspace.present path then .ok none
  else
    match workspace.readText path with
    | .error fault => .error (.eventUnreadable path fault)
    | .ok source =>
      match Payload.decode source with
      | .error error => .error (.eventMalformed path error)
      | .ok found => .ok found

end PolicyGate.PullRequest
