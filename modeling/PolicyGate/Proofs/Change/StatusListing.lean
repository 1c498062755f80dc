import PolicyGate.Change.Listing
import PolicyGate.Proofs.Policy.Coverage
import PolicyGate.Proofs.Text.Lines
import PolicyGate.Proofs.Unicode.Tables

/-!
Listings of records with their status, and what is read from them. Every record is read back with
both its ends, wherever it stands, so whether a listing brings in the gate can be told from its
records.
-/

namespace PolicyGate

structure FieldPath where
  text : String
  nonempty : text ≠ "" := by decide
  untabbed : '\t' ∉ text.toList := by decide
  unbroken : '\n' ∉ text.toList := by decide
  snug : Text.Snug text.toList := by decide

/-- A letter, and whatever follows it, such as how alike two files are. -/
structure StatusCode where
  letter : Char
  more : String
  visible : Text.isBlank letter = false := by decide
  untabbed : '\t' ∉ more.toList := by decide
  unbroken : '\n' ∉ more.toList := by decide

structure StatusRecord where
  code : StatusCode
  source : Option FieldPath
  path : FieldPath

namespace StatusRecord

def ends (record : StatusRecord) : List FieldPath := record.path :: record.source.toList

def fields (record : StatusRecord) : List (List Char) :=
  (record.code.letter :: record.code.more.toList) ::
    (record.source.toList ++ [record.path]).map fun path => path.text.toList

def line (record : StatusRecord) : List Char := ['\t'].intercalate record.fields

def listing (closed : Bool) (records : List StatusRecord) : String :=
  .ofList (Text.joinLines closed (records.map line))

def change (record : StatusRecord) : Change :=
  ⟨record.path.text, record.source.map FieldPath.text, .ofLetter record.code.letter⟩

theorem change_paths (record : StatusRecord) :
    record.change.paths = record.ends.map FieldPath.text := by
  cases record with
  | mk code source path => cases source <;> rfl

theorem fields_spare (record : StatusRecord) :
    ∀ field ∈ record.fields, ∀ c ∈ field, c ≠ '\t' ∧ c ≠ '\n' := by
  intro field member c among
  rcases List.mem_cons.mp member with rfl | path
  · rcases List.mem_cons.mp among with rfl | later
    · constructor
      · rintro same
        exact absurd (same ▸ record.code.visible) (by decide)
      · rintro same
        exact absurd (same ▸ record.code.visible) (by decide)
    · exact ⟨fun tab => record.code.untabbed (tab ▸ later),
        fun feed => record.code.unbroken (feed ▸ later)⟩
  · obtain ⟨held, _, rfl⟩ := List.mem_map.mp path
    exact ⟨fun tab => held.untabbed (tab ▸ among), fun feed => held.unbroken (feed ▸ among)⟩

theorem split_line (record : StatusRecord) :
    Text.split (· = '\t') record.line = record.fields := by
  apply Text.split_intercalate (by simp) (List.cons_ne_nil _ _)
  intro field member c among
  simpa using (record.fields_spare field member c among).1

theorem path_suffix_line (record : StatusRecord) : record.path.text.toList <:+ record.line := by
  let before := (record.code.letter :: record.code.more.toList) ::
    record.source.toList.map fun path => path.text.toList
  have whole : record.fields = before ++ [record.path.text.toList] := by simp [fields, before]
  have ending := Text.intercalate_suffix ['\t'] before [record.path.text.toList]
  rwa [List.intercalate_singleton, ← whole] at ending

theorem isLine_line (record : StatusRecord) : Text.IsLine record.line ∧ record.line ≠ [] := by
  have filled : record.path.text.toList ≠ [] := by simpa using record.path.nonempty
  obtain ⟨front, whole⟩ := record.path_suffix_line
  refine ⟨Text.IsLine.of_snug ?_ ?_, ?_⟩
  · intro broken
    rcases Text.mem_intercalate broken with tab | ⟨field, member, among⟩
    · simp at tab
    · exact (record.fields_spare field member '\n' among).2 rfl
  · intro c last
    rw [← whole, List.getLast?_append] at last
    cases found : record.path.text.toList.getLast? with
    | none => exact absurd (List.getLast?_eq_none_iff.mp found) filled
    | some d =>
        rw [found, Option.some_or] at last
        exact record.path.snug.2 c (found.trans last)
  · rw [← whole]
    exact List.append_ne_nil_of_right_ne_nil _ filled

theorem ofCode?_code (code : StatusCode) :
    ChangeKind.ofCode? (Text.trim (code.letter :: code.more.toList)) =
      some (.ofLetter code.letter) := by
  rw [ChangeKind.ofCode?, (Text.snug_trim _).trim_eq, Text.head?_trim_cons code.visible,
    Option.map_some]

theorem ofLine?_line (record : StatusRecord) :
    Change.ofLine? record.line = some record.change := by
  cases record with
  | mk code source path =>
      cases source with
      | none =>
          simp [Change.ofLine?, split_line, fields, ofCode?_code, path.snug.trim_eq, path.nonempty,
            change]
      | some source =>
          simp [Change.ofLine?, split_line, fields, ofCode?_code, path.snug.trim_eq, path.nonempty,
            source.snug.trim_eq, source.nonempty, change]

theorem parseListing_listing (closed : Bool) (records : List StatusRecord) :
    Change.parseListing (listing closed records) = records.map change := by
  have areLines : ∀ row ∈ records.map line, Text.IsLine row ∧ row ≠ [] := by
    intro row member
    obtain ⟨record, _, rfl⟩ := List.mem_map.mp member
    exact record.isLine_line
  rw [Change.parseListing, listing, String.toList_ofList, Text.lines_joinLines closed areLines,
    List.filterMap_map]
  have readBack : Change.ofLine? ∘ line = some ∘ change := funext ofLine?_line
  rw [readBack, List.filterMap_eq_map]

example : listing true [{
    code := { letter := 'R', more := "100" }
    source := some { text := "src/auth/check.rs" }
    path := { text := "GOVERNANCE/check.rs" } }] =
      "R100\tsrc/auth/check.rs\tGOVERNANCE/check.rs\n" := by decide

end StatusRecord

theorem ChangeKind.toUpper_eq_A_iff (letter : Char) :
    letter.toUpper = 'A' ↔ letter = 'A' ∨ letter = 'a' := by
  by_cases ascii : letter.toNat < 128
  · have checked := Unicode.forall_ascii (fun c => decide (c.toUpper = 'A' ↔ c = 'A' ∨ c = 'a'))
      (by decide) letter ascii
    exact of_decide_eq_true checked
  · have kept : letter.toUpper = letter := by
      refine dif_neg fun small => ascii ?_
      have bound : letter.toNat ≤ 'z'.toNat := small.2
      exact Nat.lt_of_le_of_lt bound (by decide)
    have notSmall : letter ≠ 'a' := by
      rintro rfl
      exact ascii (by decide)
    simp [kept, notSmall]

theorem ChangeKind.ofLetter_eq_added_iff (letter : Char) :
    ofLetter letter = .added ↔ letter = 'A' ∨ letter = 'a' := by
  rw [← toUpper_eq_A_iff, ofLetter]
  split <;> simp_all

theorem StatusRecord.addsGate_change_iff (policy : Policy) (record : StatusRecord) :
    policy.addsGate record.change = true ↔ record.path.text = policy.gateScript ∧
      (record.code.letter = 'A' ∨ record.code.letter = 'a') := by
  rw [policy.addsGate_iff, ← ChangeKind.ofLetter_eq_added_iff]
  rfl

theorem bringsInGate_parseListing_iff (policy : Policy) (closed : Bool)
    (records : List StatusRecord) :
    policy.bringsInGate (Change.parseListing (StatusRecord.listing closed records)) = true ↔
      (∃ record ∈ records, record.path.text = policy.gateScript ∧
        (record.code.letter = 'A' ∨ record.code.letter = 'a')) ∧
      ∀ record ∈ records, ∀ path ∈ record.ends, policy.Admits path.text := by
  simp only [StatusRecord.parseListing_listing, Policy.bringsInGate, StatusRecord.change_paths,
    List.any_map, List.all_map, Bool.and_eq_true, List.any_eq_true, List.all_eq_true,
    Function.comp_apply, StatusRecord.addsGate_change_iff, policy.allowsAtBootstrap_iff]

/-- A listing brings in the gate if and only if one of its records adds the script and both ends of
all of them may come along. So one end that may not, in any record and under any status, rules it
out, and so does a script that is changed, renamed or copied and nowhere added. -/
theorem bringsInGate_listing (policy : Policy) (closed : Bool) (records : List StatusRecord) :
    (policy.bringsInGate (Change.parseListing (StatusRecord.listing closed records)) = true ↔
      (∃ record ∈ records, record.path.text = policy.gateScript ∧
        (record.code.letter = 'A' ∨ record.code.letter = 'a')) ∧
      ∀ record ∈ records, ∀ path ∈ record.ends, policy.Admits path.text) ∧
    ((∃ record ∈ records, ∃ path ∈ record.ends, ¬ policy.Admits path.text) →
      policy.bringsInGate (Change.parseListing (StatusRecord.listing closed records)) = false) ∧
    ((∀ record ∈ records, record.path.text = policy.gateScript →
        record.code.letter ≠ 'A' ∧ record.code.letter ≠ 'a') →
      policy.bringsInGate (Change.parseListing (StatusRecord.listing closed records)) = false) := by
  have told := bringsInGate_parseListing_iff policy closed records
  refine ⟨told, ?_, ?_⟩
  · rintro ⟨record, member, path, isEnd, outside⟩
    rw [Bool.eq_false_iff, ne_eq, told]
    intro exempt
    exact outside (exempt.2 record member path isEnd)
  · intro unadded
    rw [Bool.eq_false_iff, ne_eq, told]
    rintro ⟨⟨record, member, script, adds⟩, _⟩
    obtain ⟨notCapital, notSmall⟩ := unadded record member script
    exact adds.elim notCapital notSmall

end PolicyGate
