import Mathlib.Data.List.Forall2
import PolicyGate.Policy.File
import PolicyGate.Proofs.Toml.Expressible

/-!
What a policy file changes: the parts of the built-in policy that it names, and nothing else.
-/

namespace PolicyGate

open Toml (Value Entries)

structure SectionChoice where
  name : String
  patterns : List String
  content? : Option ContentRule

def SectionChoice.rule (choice : SectionChoice) : SectionRule :=
  ⟨choice.name, choice.patterns, choice.content?.getD .substantive⟩

/-- The parts of a policy that a file may set, each of them or not. -/
structure Overrides where
  gateScript? : Option String
  guardPaths? : Option (List String)
  allowedPrefixes? : Option (List String)
  allowedFiles? : Option (List String)
  requiredSections? : Option (List SectionChoice)
  keywords? : Option (List String)
  minKeywords? : Option Nat
  dependencyManifests? : Option (List String)

def Overrides.applyTo (overrides : Overrides) (policy : Policy) : Policy where
  gateScript := overrides.gateScript?.getD policy.gateScript
  guardPaths := overrides.guardPaths?.getD policy.guardPaths
  bootstrap := {
    allowedPrefixes := overrides.allowedPrefixes?.getD policy.bootstrap.allowedPrefixes
    allowedFiles := overrides.allowedFiles?.getD policy.bootstrap.allowedFiles }
  requiredSections :=
    (overrides.requiredSections?.map (·.map SectionChoice.rule)).getD policy.requiredSections
  transitional := {
    keywords := overrides.keywords?.getD policy.transitional.keywords
    minKeywords := overrides.minKeywords?.getD policy.transitional.minKeywords }
  dependencyManifests := overrides.dependencyManifests?.getD policy.dependencyManifests

def textsValue (texts : List String) : Value := .array (texts.map .string)

def naturalValue (number : Nat) : Value := .integer number

def ContentRule.title : ContentRule → String
  | .substantive => "substantive"
  | .intentional => "intentional"

/-- Whether a table gives a section, whatever else it has. -/
structure SectionChoice.ToldBy (choice : SectionChoice) (entries : Entries) : Prop where
  name : entries.find? "name" = some (.string choice.name)
  patterns : entries.find? "patterns" = some (textsValue choice.patterns)
  content : entries.find? "content" = choice.content?.map fun rule => .string rule.title

/-- Sections stand in an array of tables, or each under a header in double brackets. -/
inductive SectionsValue : List SectionChoice → Value → Prop
  | array {choices : List SectionChoice} {items : List Value} :
      List.Forall₂ (fun choice item => ∃ origin entries,
        item = .table origin entries ∧ SectionChoice.ToldBy choice entries) choices items →
      SectionsValue choices (.array items)
  | headers {choices : List SectionChoice} {elements : List Entries} :
      List.Forall₂ SectionChoice.ToldBy choices elements.reverse →
      SectionsValue choices (.tables elements)

inductive InnerTable : Option Value → Entries → Prop
  | absent : InnerTable none []
  | table (origin : Toml.Origin) (entries : Entries) :
      InnerTable (some (.table origin entries)) entries

/-- Whether a document gives these parts of a policy and no others, told by what it has under each
key. Nothing is said of any further key. -/
structure Overrides.ToldBy (overrides : Overrides) (found? : String → Option Value) : Prop where
  gateScript : found? "gate_script" = overrides.gateScript?.map .string
  guardPaths : found? "guard_paths" = overrides.guardPaths?.map textsValue
  bootstrap : ∃ inner, InnerTable (found? "bootstrap") inner ∧
    inner.find? "allowed_prefixes" = overrides.allowedPrefixes?.map textsValue ∧
    inner.find? "allowed_files" = overrides.allowedFiles?.map textsValue
  requiredSections :
    Option.Rel SectionsValue overrides.requiredSections? (found? "required_sections")
  transitional : ∃ inner, InnerTable (found? "transitional") inner ∧
    inner.find? "keywords" = overrides.keywords?.map textsValue ∧
    inner.find? "min_keywords" = overrides.minKeywords?.map naturalValue
  dependencyManifests :
    found? "dependency_manifests" = overrides.dependencyManifests?.map textsValue

theorem mapM_of_forall₂ {α β γ : Type} {read : β → Option γ} {result : α → γ} {items : List α}
    {values : List β} (reads : List.Forall₂ (fun item value => read value = some (result item))
      items values) : values.mapM read = some (items.map result) := by
  induction reads with
  | nil => rfl
  | cons first _ ih => simp [first, ih]

theorem texts?_textsValue (texts : List String) : (textsValue texts).texts? = some texts := by
  have reads : List.Forall₂ (fun text value => Value.text? value = some (id text)) texts
      (texts.map Value.string) :=
    List.forall₂_map_right_iff.mpr (List.forall₂_same.mpr fun _ _ => rfl)
  have read := mapM_of_forall₂ reads
  rwa [List.map_id] at read

theorem text?_string (text : String) : (Value.string text).text? = some text := rfl

theorem natural?_naturalValue (number : Nat) : (naturalValue number).natural? = some number := by
  simp [naturalValue, Value.natural?]

theorem ContentRule.ofValue?_title (rule : ContentRule) :
    ContentRule.ofValue? (.string rule.title) = some rule := by
  cases rule <;> rfl

theorem optional?_of_told {α : Type} {entries : Entries} {name : String} {choice? : Option α}
    {written : α → Value} {read : Value → Option α}
    (told : entries.find? name = choice?.map written)
    (reads : ∀ choice, read (written choice) = some choice) (default : α) :
    entries.optional? name read default = some (choice?.getD default) := by
  rw [Entries.optional?, told]
  cases choice? with
  | none => rfl
  | some choice => exact reads choice

theorem SectionChoice.ToldBy.ofValue?_eq {choice : SectionChoice} {entries : Entries}
    (told : choice.ToldBy entries) (origin : Toml.Origin) :
    SectionRule.ofValue? (.table origin entries) = some choice.rule := by
  have content := optional?_of_told told.content ContentRule.ofValue?_title .substantive
  simp [SectionRule.ofValue?, Value.record?, Entries.required?, told.name, told.patterns,
    texts?_textsValue, content, Value.text?, SectionChoice.rule]

theorem SectionsValue.listOf?_eq {choices : List SectionChoice} {value : Value}
    (given : SectionsValue choices value) :
    value.listOf? SectionRule.ofValue? = some (choices.map SectionChoice.rule) := by
  cases given with
  | array given =>
      refine mapM_of_forall₂ (.imp ?_ given)
      rintro choice item ⟨origin, entries, rfl, told⟩
      exact told.ofValue?_eq origin
  | headers given =>
      rw [Value.listOf?, Value.items?, Option.bind_eq_bind, Option.bind_some]
      refine mapM_of_forall₂ (List.forall₂_map_right_iff.mpr (.imp ?_ given))
      intro choice entries told
      exact told.ofValue?_eq .header

theorem InnerTable.optional?_eq {α : Type} {entries inner : Entries} {name : String}
    (given : InnerTable (entries.find? name) inner) {read : Value → Option α} {result default : α}
    (reads : ∀ origin, read (.table origin inner) = some result)
    (empty : read (.table .header []) = some default) :
    entries.optional? name read default = some result := by
  rw [Entries.optional?]
  generalize entries.find? name = found? at given
  cases given with
  | absent => rw [← reads .header, empty]
  | table origin => exact reads origin

namespace Overrides.ToldBy

variable {overrides : Overrides} {entries : Entries}

theorem bootstrap_eq (told : overrides.ToldBy entries.find?) (default : Policy) :
    entries.optional? "bootstrap" (BootstrapRule.ofValue? default.bootstrap) default.bootstrap =
      some (overrides.applyTo default).bootstrap := by
  obtain ⟨inner, given, prefixes, files⟩ := told.bootstrap
  have prefixesRead :=
    optional?_of_told prefixes texts?_textsValue default.bootstrap.allowedPrefixes
  have filesRead := optional?_of_told files texts?_textsValue default.bootstrap.allowedFiles
  refine given.optional?_eq ?_ rfl
  intro origin
  simp only [BootstrapRule.ofValue?, Value.record?, prefixesRead, filesRead, Option.bind_eq_bind,
    Option.bind_some, applyTo]

theorem transitional_eq (told : overrides.ToldBy entries.find?) (default : Policy) :
    entries.optional? "transitional" (TransitionalRule.ofValue? default.transitional)
      default.transitional = some (overrides.applyTo default).transitional := by
  obtain ⟨inner, given, keywords, minimum⟩ := told.transitional
  have keywordsRead := optional?_of_told keywords texts?_textsValue default.transitional.keywords
  have minimumRead :=
    optional?_of_told minimum natural?_naturalValue default.transitional.minKeywords
  refine given.optional?_eq ?_ rfl
  intro origin
  simp only [TransitionalRule.ofValue?, Value.record?, keywordsRead, minimumRead,
    Option.bind_eq_bind, Option.bind_some, applyTo]

theorem requiredSections_eq (told : overrides.ToldBy entries.find?) (default : Policy) :
    entries.optional? "required_sections" (Value.listOf? SectionRule.ofValue?)
      default.requiredSections = some (overrides.applyTo default).requiredSections := by
  have sections := told.requiredSections
  rw [Entries.optional?, applyTo]
  generalize entries.find? "required_sections" = found?, overrides.requiredSections? = choices?
    at sections
  cases sections with
  | none => rfl
  | some given => exact given.listOf?_eq

theorem ofEntries?_eq (told : overrides.ToldBy entries.find?) (default : Policy) :
    default.ofEntries? entries = some (overrides.applyTo default) := by
  have script := optional?_of_told told.gateScript text?_string default.gateScript
  have paths := optional?_of_told told.guardPaths texts?_textsValue default.guardPaths
  have manifests :=
    optional?_of_told told.dependencyManifests texts?_textsValue default.dependencyManifests
  simp only [Policy.ofEntries?, script, paths, told.bootstrap_eq, told.requiredSections_eq,
    told.transitional_eq, manifests, Option.bind_eq_bind, Option.bind_some]
  rfl

end Overrides.ToldBy

theorem Policy.load_of_readText {workspace : Workspace} {path text : String} {policy : Policy}
    (read : workspace.readText path = .ok text) (given : ofText? text = some policy) :
    load workspace (some path) = .ok policy := by
  simp only [load, read, given]

theorem Overrides.load_of_document {overrides : Overrides} {lines : List Toml.Line}
    {entries : Entries} {text : String} (document : Toml.IsDocument lines text)
    (built : Toml.tableOf? lines = some entries) (told : overrides.ToldBy entries.find?)
    {workspace : Workspace} {path : String} (read : workspace.readText path = .ok text) :
    Policy.load workspace (some path) = .ok (overrides.applyTo .builtIn) := by
  have parsed := (Toml.parse_of_isDocument document).trans built
  apply Policy.load_of_readText read
  rw [Policy.ofText?, parsed, Option.bind_eq_bind, Option.bind_some, told.ofEntries?_eq]

/-! Every choice has a document: one entry for each part that it sets. -/

def SectionChoice.fields (choice : SectionChoice) : List (String × Option Value) := [
  ("name", some (.string choice.name)),
  ("patterns", some (textsValue choice.patterns)),
  ("content", choice.content?.map fun rule => .string rule.title)]

def sectionsValue (choices : List SectionChoice) : Value :=
  .array (choices.map fun choice => .table .inline (Toml.offered choice.fields))

namespace Overrides

variable (overrides : Overrides)

def bootstrapFields : List (String × Option Value) := [
  ("allowed_prefixes", overrides.allowedPrefixes?.map textsValue),
  ("allowed_files", overrides.allowedFiles?.map textsValue)]

def transitionalFields : List (String × Option Value) := [
  ("keywords", overrides.keywords?.map textsValue),
  ("min_keywords", overrides.minKeywords?.map naturalValue)]

def fields : List (String × Option Value) := [
  ("gate_script", overrides.gateScript?.map .string),
  ("guard_paths", overrides.guardPaths?.map textsValue),
  ("bootstrap", some (.table .inline (Toml.offered overrides.bootstrapFields))),
  ("required_sections", overrides.requiredSections?.map sectionsValue),
  ("transitional", some (.table .inline (Toml.offered overrides.transitionalFields))),
  ("dependency_manifests", overrides.dependencyManifests?.map textsValue)]

end Overrides

theorem SectionChoice.fields_differ (choice : SectionChoice) :
    (choice.fields.map Prod.fst).Nodup := by
  simp [fields]

theorem SectionChoice.toldBy_fields (choice : SectionChoice) :
    choice.ToldBy (Toml.offered choice.fields) := by
  have found := Toml.find?_offered choice.fields_differ
  exact ⟨found "name", found "patterns", found "content"⟩

theorem sectionsValue_gives (choices : List SectionChoice) :
    SectionsValue choices (sectionsValue choices) := by
  apply SectionsValue.array
  rw [List.forall₂_map_right_iff, List.forall₂_same]
  intro choice _
  exact ⟨.inline, _, rfl, choice.toldBy_fields⟩

namespace Overrides

variable (overrides : Overrides)

theorem bootstrapFields_differ : (overrides.bootstrapFields.map Prod.fst).Nodup := by
  simp [bootstrapFields]

theorem transitionalFields_differ : (overrides.transitionalFields.map Prod.fst).Nodup := by
  simp [transitionalFields]

theorem fields_differ : (overrides.fields.map Prod.fst).Nodup := by
  simp [fields]

theorem toldBy_fields : overrides.ToldBy (Toml.offered overrides.fields).find? := by
  have found := Toml.find?_offered overrides.fields_differ
  refine ⟨found "gate_script", found "guard_paths", ⟨Toml.offered overrides.bootstrapFields, ?_⟩,
    ?_, ⟨Toml.offered overrides.transitionalFields, ?_⟩, found "dependency_manifests"⟩
  · have inner := Toml.find?_offered overrides.bootstrapFields_differ
    rw [found "bootstrap"]
    exact ⟨.table .inline _, inner "allowed_prefixes", inner "allowed_files"⟩
  · rw [found "required_sections"]
    change Option.Rel _ _ (overrides.requiredSections?.map sectionsValue)
    cases overrides.requiredSections? with
    | none => exact .none
    | some choices => exact .some (sectionsValue_gives choices)
  · have inner := Toml.find?_offered overrides.transitionalFields_differ
    rw [found "transitional"]
    exact ⟨.table .inline _, inner "keywords", inner "min_keywords"⟩

end Overrides

section Expressing

open Toml (Expressible)

variable {depth : Nat}

theorem expressible_map {α : Type} {choice? : Option α} {written : α → Value}
    (each : ∀ choice ∈ choice?, Expressible depth (written choice)) :
    ∀ value ∈ choice?.map written, Expressible depth value := by
  intro value member
  obtain ⟨choice, chosen, rfl⟩ := Option.map_eq_some_iff.mp member
  exact each choice chosen

theorem expressible_some {value : Value} (given : Expressible depth value) :
    ∀ other ∈ some value, Expressible depth other := by
  rintro other ⟨rfl⟩
  exact given

theorem expressible_texts (texts : List String) : Expressible (depth + 1) (textsValue texts) := by
  apply Expressible.array
  intro value member
  obtain ⟨text, _, rfl⟩ := List.mem_map.mp member
  exact .string text

theorem expressible_sections (choices : List SectionChoice) :
    Expressible (depth + 3) (sectionsValue choices) := by
  apply Expressible.array
  intro value member
  obtain ⟨choice, _, rfl⟩ := List.mem_map.mp member
  apply Expressible.record choice.fields_differ
  simp only [SectionChoice.fields, List.forall_mem_cons, List.not_mem_nil, false_implies,
    implies_true, and_true]
  exact ⟨expressible_some (.string _), expressible_some (expressible_texts _),
    expressible_map fun _ _ => .string _⟩

theorem Overrides.expressible_fields {overrides : Overrides}
    (small : ∀ number ∈ overrides.minKeywords?, number < Nat.pow 2 63) :
    ∀ field ∈ overrides.fields, ∀ value ∈ field.2, Expressible (depth + 3) value := by
  have bootstrap : Expressible (depth + 3)
      (.table .inline (Toml.offered overrides.bootstrapFields)) := by
    apply Expressible.record overrides.bootstrapFields_differ
    simp only [bootstrapFields, List.forall_mem_cons, List.not_mem_nil, false_implies,
      implies_true, and_true]
    exact ⟨expressible_map fun _ _ => expressible_texts _,
      expressible_map fun _ _ => expressible_texts _⟩
  have transitional : Expressible (depth + 3)
      (.table .inline (Toml.offered overrides.transitionalFields)) := by
    apply Expressible.record overrides.transitionalFields_differ
    simp only [transitionalFields, List.forall_mem_cons, List.not_mem_nil, false_implies,
      implies_true, and_true]
    exact ⟨expressible_map fun _ _ => expressible_texts _,
      expressible_map fun number chosen => .integer (small number chosen)⟩
  simp only [fields, List.forall_mem_cons, List.not_mem_nil, false_implies, implies_true, and_true]
  exact ⟨expressible_map fun _ _ => .string _, expressible_map fun _ _ => expressible_texts _,
    expressible_some bootstrap, expressible_map fun _ _ => expressible_sections _,
    expressible_some transitional, expressible_map fun _ _ => expressible_texts _⟩

end Expressing

/-- A file replaces the parts that it names and no others, wherever in it they stand and whatever
else it has, and there is a file for every choice of parts. -/
theorem load_overrides (overrides : Overrides) :
    (∀ (lines : List Toml.Line) (entries : Entries) (text : String),
      Toml.IsDocument lines text → Toml.tableOf? lines = some entries →
      overrides.ToldBy entries.find? →
      ∀ (workspace : Workspace) (path : String), workspace.readText path = .ok text →
        Policy.load workspace (some path) = .ok (overrides.applyTo .builtIn)) ∧
    (∀ (outline : Toml.Outline) (text : String), outline.Plain →
      Toml.IsDocument outline.lines text → overrides.ToldBy outline.value? →
      ∀ (workspace : Workspace) (path : String), workspace.readText path = .ok text →
        Policy.load workspace (some path) = .ok (overrides.applyTo .builtIn)) ∧
    ((∀ number ∈ overrides.minKeywords?, number < Nat.pow 2 63) →
      ∃ (outline : Toml.Outline) (text : String), outline.Plain ∧
        Toml.IsDocument outline.lines text ∧ overrides.ToldBy outline.value?) := by
  refine ⟨?_, ?_, ?_⟩
  · intro lines entries text document built told workspace path read
    exact Overrides.load_of_document document built told read
  · intro outline text plain document told workspace path read
    obtain ⟨entries, built, holds⟩ := Toml.Outline.exists_tableOf? plain
    rw [← funext holds] at told
    exact Overrides.load_of_document document built told read
  · intro small
    have different := overrides.fields_differ.sublist (Toml.names_offered overrides.fields)
    have each : ∀ entry ∈ Toml.offered overrides.fields,
        Toml.Expressible (Toml.depthLimit - 1) entry.2 :=
      Toml.Expressible.offered (@Overrides.expressible_fields 76 overrides small)
    obtain ⟨text, document⟩ := Toml.Outline.exists_document different each
    refine ⟨_, text, ⟨?_, .nil⟩, document, ?_⟩
    · simp
    · have told := overrides.toldBy_fields
      rwa [← funext (Toml.Outline.value?_ofEntries different)] at told

example : Policy.ofText? "unknown = 1\n[transitional]\nmin_keywords = 4 # of six\n" = some {
    Policy.builtIn with transitional := ⟨Policy.builtIn.transitional.keywords, 4⟩ } := by
  cbv

end PolicyGate
