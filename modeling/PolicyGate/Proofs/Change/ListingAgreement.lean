import PolicyGate.Change.Listing
import PolicyGate.Proofs.Policy.Coverage
import PolicyGate.Proofs.Text.LineReaders

/-!
The two listings of one diff, read side by side. Whatever paths its records have, blank and
untrimmed ones among them, both readers keep and drop the same records and trim the paths alike, so
the scope is decided on the paths that the records are judged by.
-/

namespace PolicyGate

/-- A field that tabs and line ends can enclose. It may be blank. -/
structure ListedField where
  text : String
  untabbed : '\t' ∉ text.toList := by decide
  unbroken : '\n' ∉ text.toList := by decide

/-- A record of a diff, of which only the status has to show something. -/
structure ListedRecord where
  status : ListedField
  visible : isBlankText status.text = false := by decide
  source : Option ListedField
  path : ListedField

def pathOfLine? (line : List Char) : Option String :=
  if Text.trim line = [] then none else some (.ofList (Text.trim line))

theorem sparesLineEnds_pathOfLine? : Text.SparesLineEnds pathOfLine? where
  empty := rfl
  returned line := by simp only [pathOfLine?, Text.trim_concat (c := '\r') rfl]

theorem parsePaths_eq_filterMap (raw : String) :
    parsePaths raw = (Text.lines raw.toList).filterMap pathOfLine? := by
  rw [parsePaths]
  induction Text.lines raw.toList with
  | nil => rfl
  | cons line lines ih =>
      rw [List.filterMap_cons, ← ih]
      by_cases blank : Text.trim line = [] <;> simp [pathOfLine?, blank]

theorem Change.sparesLineEnds_ofLine? : Text.SparesLineEnds ofLine? where
  empty := rfl
  returned line := by
    have fields : (Text.split (· = '\t') (line ++ ['\r'])).map Text.trim =
        (Text.split (· = '\t') line).map Text.trim :=
      Text.map_trim_splitFrom_concat rfl rfl [] line
    simp only [ofLine?, fields]

namespace ListedRecord

def fields (record : ListedRecord) : List ListedField :=
  record.status :: (record.source.toList ++ [record.path])

def statusLine (record : ListedRecord) : List Char :=
  ['\t'].intercalate (record.fields.map fun field => field.text.toList)

def statusListing (closed : Bool) (records : List ListedRecord) : String :=
  .ofList (Text.joinLines closed (records.map statusLine))

def pathListing (closed : Bool) (records : List ListedRecord) : String :=
  .ofList (Text.joinLines closed (records.map fun record => record.path.text.toList))

theorem split_statusLine (record : ListedRecord) :
    Text.split (· = '\t') record.statusLine =
      record.fields.map fun field => field.text.toList := by
  apply Text.split_intercalate (by simp) (by simp [fields])
  intro text member c among
  obtain ⟨field, _, rfl⟩ := List.mem_map.mp member
  exact decide_eq_false fun tab => field.untabbed (tab ▸ among)

theorem statusLine_unbroken (record : ListedRecord) : '\n' ∉ record.statusLine := by
  intro feed
  rcases Text.mem_intercalate feed with tab | ⟨text, member, among⟩
  · simp at tab
  · obtain ⟨field, _, rfl⟩ := List.mem_map.mp member
    exact field.unbroken among

theorem ofCode?_status (record : ListedRecord) :
    ∃ kind, ChangeKind.ofCode? (Text.trim record.status.text.toList) = some kind := by
  have shown : Text.trim record.status.text.toList ≠ [] := by
    rw [ne_eq, Text.trim_eq_nil_iff, Bool.not_eq_true]
    exact record.visible
  obtain ⟨letter, more, whole⟩ := List.exists_cons_of_ne_nil shown
  refine ⟨.ofLetter letter, ?_⟩
  rw [ChangeKind.ofCode?, (Text.snug_trim _).trim_eq, whole, List.head?_cons, Option.map_some]

theorem path_ofLine?_statusLine (record : ListedRecord) :
    (Change.ofLine? record.statusLine).map Change.path =
      pathOfLine? record.path.text.toList := by
  obtain ⟨kind, told⟩ := record.ofCode?_status
  rw [Change.ofLine?, split_statusLine]
  cases source : record.source <;> by_cases blank : Text.trim record.path.text.toList = [] <;>
    simp [fields, source, told, blank, pathOfLine?]

theorem parsePaths_pathListing (closed : Bool) (records : List ListedRecord) :
    parsePaths (pathListing closed records) =
      records.filterMap fun record => pathOfLine? record.path.text.toList := by
  rw [parsePaths_eq_filterMap, pathListing, String.toList_ofList,
    sparesLineEnds_pathOfLine?.filterMap_lines_joinLines, List.filterMap_map]
  · rfl
  · intro row member
    obtain ⟨record, _, rfl⟩ := List.mem_map.mp member
    exact record.path.unbroken

theorem paths_parseListing_statusListing (closed : Bool) (records : List ListedRecord) :
    (Change.parseListing (statusListing closed records)).map Change.path =
      records.filterMap fun record => pathOfLine? record.path.text.toList := by
  rw [Change.parseListing, statusListing, String.toList_ofList,
    Change.sparesLineEnds_ofLine?.filterMap_lines_joinLines, List.filterMap_map,
    List.map_filterMap]
  · exact congrArg (records.filterMap ·) (funext path_ofLine?_statusLine)
  · intro row member
    obtain ⟨record, _, rfl⟩ := List.mem_map.mp member
    exact record.statusLine_unbroken

theorem filterMap_pathOfLine? (records : List ListedRecord) :
    (records.filterMap fun record => pathOfLine? record.path.text.toList) =
      (records.map fun record => trimmed record.path.text).filter (· ≠ "") := by
  induction records with
  | nil => rfl
  | cons record records ih =>
      rw [List.filterMap_cons, List.map_cons, List.filter_cons, ih]
      by_cases blank : Text.trim record.path.text.toList = [] <;>
        simp [pathOfLine?, trimmed, blank]

theorem parsePaths_eq_paths (closedPaths closedRecords : Bool) (records : List ListedRecord) :
    parsePaths (pathListing closedPaths records) =
      (Change.parseListing (statusListing closedRecords records)).map Change.path := by
  rw [parsePaths_pathListing, paths_parseListing_statusListing]

end ListedRecord

/-- The paths alone and the records tell the same paths, in the same order and as often: those that
are not blank, trimmed. So the scope is the one of the records' paths, and where the records bring
in the gate, its script and nothing but what may come along is among the paths. -/
theorem listings_agree (policy : Policy) (closedPaths closedRecords : Bool)
    (records : List ListedRecord) :
    parsePaths (ListedRecord.pathListing closedPaths records) =
      (Change.parseListing (ListedRecord.statusListing closedRecords records)).map Change.path ∧
    parsePaths (ListedRecord.pathListing closedPaths records) =
      (records.map fun record => trimmed record.path.text).filter (· ≠ "") ∧
    policy.inScope (parsePaths (ListedRecord.pathListing closedPaths records)) =
      (Change.parseListing (ListedRecord.statusListing closedRecords records)).any (fun change =>
        policy.guards change.path) ∧
    (policy.bringsInGate
        (Change.parseListing (ListedRecord.statusListing closedRecords records)) = true →
      policy.gateScript ∈ parsePaths (ListedRecord.pathListing closedPaths records) ∧
        ∀ path ∈ parsePaths (ListedRecord.pathListing closedPaths records), policy.Admits path) := by
  have agree := ListedRecord.parsePaths_eq_paths closedPaths closedRecords records
  refine ⟨agree, ?_, ?_, ?_⟩
  · rw [ListedRecord.parsePaths_pathListing, ListedRecord.filterMap_pathOfLine?]
  · rw [agree, Policy.inScope, List.any_map]
    rfl
  · intro bringing
    obtain ⟨⟨change, member, adds⟩, admitted⟩ := (policy.bringsInGate_iff _).mp bringing
    rw [agree]
    constructor
    · rw [← ((policy.addsGate_iff change).mp adds).1]
      exact List.mem_map_of_mem member
    · intro path listed
      obtain ⟨other, among, rfl⟩ := List.mem_map.mp listed
      exact admitted other among other.path List.mem_cons_self

example : parsePaths (ListedRecord.pathListing true [
    { status := { text := "R100" }, source := some { text := "a" }, path := { text := " b \r" } },
    { status := { text := " M" }, source := none, path := { text := " \r" } },
    { status := { text := "x" }, source := some { text := "" }, path := { text := "b" } }]) =
      ["b", "b"] := by decide

end PolicyGate
