import PolicyGate.Failure
import PolicyGate.Policy.Basic
import PolicyGate.Toml.Document
import PolicyGate.Toml.Record
import PolicyGate.Workspace.Basic

/-!
Policy files: TOML documents whose entries replace parts of the built-in policy. An entry that is
left out keeps its built-in value, on every level; entries of other names mean nothing.
-/

namespace PolicyGate

open Toml (Value Entries)

namespace ContentRule

def named? : String → Option ContentRule
  | "substantive" => some .substantive
  | "intentional" => some .intentional
  | _ => none

/-- A rule is given by its name, or by a table whose only key it is and which holds nothing. -/
def ofValue? : Value → Option ContentRule
  | .string name => named? name
  | .table _ [(name, .table _ [])] => named? name
  | .table _ [(name, .array [])] => named? name
  | _ => none

end ContentRule

def SectionRule.ofValue? (value : Value) : Option SectionRule := do
  let entries ← value.record? ["name", "patterns", "content"]
  some {
    name := ← entries.required? "name" Value.text?
    patterns := ← entries.required? "patterns" Value.texts?
    content := ← entries.optional? "content" ContentRule.ofValue? .substantive }

def BootstrapRule.ofValue? (default : BootstrapRule) (value : Value) : Option BootstrapRule := do
  let entries ← value.record? ["allowed_prefixes", "allowed_files"]
  some {
    allowedPrefixes :=
      ← entries.optional? "allowed_prefixes" Value.texts? default.allowedPrefixes
    allowedFiles := ← entries.optional? "allowed_files" Value.texts? default.allowedFiles }

def TransitionalRule.ofValue? (default : TransitionalRule) (value : Value) :
    Option TransitionalRule := do
  let entries ← value.record? ["keywords", "min_keywords"]
  some {
    keywords := ← entries.optional? "keywords" Value.texts? default.keywords
    minKeywords := ← entries.optional? "min_keywords" Value.natural? default.minKeywords }

namespace Policy

def ofEntries? (default : Policy) (entries : Entries) : Option Policy := do
  some {
    gateScript := ← entries.optional? "gate_script" Value.text? default.gateScript
    guardPaths := ← entries.optional? "guard_paths" Value.texts? default.guardPaths
    bootstrap := ← entries.optional? "bootstrap"
      (BootstrapRule.ofValue? default.bootstrap) default.bootstrap
    requiredSections := ← entries.optional? "required_sections"
      (Value.listOf? SectionRule.ofValue?) default.requiredSections
    transitional := ← entries.optional? "transitional"
      (TransitionalRule.ofValue? default.transitional) default.transitional
    dependencyManifests :=
      ← entries.optional? "dependency_manifests" Value.texts? default.dependencyManifests }

def ofText? (text : String) : Option Policy := do builtIn.ofEntries? (← Toml.parse text)

def load (workspace : Workspace) : Option String → Except Failure Policy
  | none => .ok builtIn
  | some path =>
    match workspace.readText path with
    | .error fault => .error (.policyUnreadable path fault)
    | .ok text =>
      match ofText? text with
      | some policy => .ok policy
      | none => .error (.policyMalformed path)

end Policy

end PolicyGate
