import PolicyGate.Proofs.Gate.Steps
import PolicyGate.Proofs.Policy.Scope

/-!
Renames and the scope. A renamed file is listed where it is now, so the scope of a change set
depends on how far renames were detected: what was moved out of a guarded path counts where the
move is told as a deletion and an addition, and does not where it is told as a rename.
-/

namespace PolicyGate

def DiffListings.ofRecords (records : List Change) : DiffListings :=
  ⟨records.map Change.path, records⟩

/-- A record as it is told when renames are not detected. -/
def Change.undetected (record : Change) : List Change :=
  match record.kind, record.source with
  | .renamed, some source => [⟨source, none, .deleted⟩, ⟨record.path, none, .added⟩]
  | _, _ => [record]

def Change.LeftBehind (record : Change) (path : String) : Prop :=
  record.kind = .renamed ∧ record.source = some path

theorem Change.mem_undetected_paths (record : Change) (path : String) :
    path ∈ record.undetected.map Change.path ↔ path = record.path ∨ record.LeftBehind path := by
  unfold undetected LeftBehind
  split
  · next source renamed left =>
      simp [renamed, left, or_comm, eq_comm]
  · next kept =>
      simp only [List.map_cons, List.map_nil, List.mem_singleton]
      constructor
      · exact Or.inl
      · rintro (same | ⟨renamed, left⟩)
        · exact same
        · exact absurd left (kept path renamed)

namespace Policy

/-- Some file is guarded where the records leave it. -/
def Arrives (policy : Policy) (records : List Change) : Prop :=
  ∃ record ∈ records, ∃ guardPath ∈ policy.guardPaths, guardPath.toList <+: record.path.toList

/-- Some renamed file was guarded where it came from. -/
def Departs (policy : Policy) (records : List Change) : Prop :=
  ∃ record ∈ records, ∃ path, record.LeftBehind path ∧
    ∃ guardPath ∈ policy.guardPaths, guardPath.toList <+: path.toList

theorem inScope_ofRecords_iff (policy : Policy) (records : List Change) :
    policy.inScope (DiffListings.ofRecords records).files = true ↔ policy.Arrives records := by
  simp only [inScope_iff, DiffListings.ofRecords, List.mem_map, Arrives, ← guards_iff]
  constructor
  · rintro ⟨_, ⟨record, member, rfl⟩, guarded⟩
    exact ⟨record, member, guarded⟩
  · rintro ⟨record, member, guarded⟩
    exact ⟨record.path, ⟨record, member, rfl⟩, guarded⟩

theorem inScope_undetected_iff (policy : Policy) (records : List Change) :
    policy.inScope (DiffListings.ofRecords (records.flatMap Change.undetected)).files = true ↔
      policy.Arrives records ∨ policy.Departs records := by
  simp only [inScope_iff, DiffListings.ofRecords, List.map_flatMap, List.mem_flatMap,
    Change.mem_undetected_paths, Arrives, Departs, ← guards_iff]
  constructor
  · rintro ⟨path, ⟨record, member, rfl | left⟩, guarded⟩
    · exact Or.inl ⟨record, member, guarded⟩
    · exact Or.inr ⟨record, member, path, left, guarded⟩
  · rintro (⟨record, member, guarded⟩ | ⟨record, member, path, left, guarded⟩)
    · exact ⟨record.path, ⟨record, member, Or.inl rfl⟩, guarded⟩
    · exact ⟨path, ⟨record, member, Or.inr left⟩, guarded⟩

end Policy

/-- The scope is decided by destinations alone. Telling every rename as a deletion and an addition
adds the places that were left, so both ways agree unless only such places are guarded. -/
theorem assess_inScope_renames (pullRequest : Option PullRequest) (records : List Change)
    (policy : Policy) (evidence : EvidenceRule) (scanners : ScannerPair) (report : Report) :
    ((assess pullRequest (.ofRecords records) policy evidence scanners report).value.inScope = true ↔
      policy.Arrives records) ∧
    ((assess pullRequest (.ofRecords (records.flatMap Change.undetected)) policy evidence scanners
      report).value.inScope = true ↔ policy.Arrives records ∨ policy.Departs records) ∧
    ((assess pullRequest (.ofRecords records) policy evidence scanners report).value.inScope =
      (assess pullRequest (.ofRecords (records.flatMap Change.undetected)) policy evidence scanners
        report).value.inScope ↔ (policy.Departs records → policy.Arrives records)) := by
  simp only [assess_inScope]
  have detected := policy.inScope_ofRecords_iff records
  have undetected := policy.inScope_undetected_iff records
  refine ⟨detected, undetected, ?_⟩
  rw [Bool.eq_iff_iff, detected, undetected]
  constructor
  · intro same departs
    exact same.mpr (Or.inr departs)
  · intro follows
    exact ⟨Or.inl, fun either => either.elim id follows⟩

theorem moved_out_of_scope :
    ¬ ∀ (records : List Change) (pullRequest : Option PullRequest) (policy : Policy)
      (evidence : EvidenceRule) (scanners : ScannerPair) (report : Report),
      (∃ record ∈ records, record.kind = .renamed ∧ record.paths.any policy.guards = true) →
        (assess pullRequest (.ofRecords records) policy evidence scanners report).value.inScope =
          true := by
  intro always
  have moved := always [⟨"docs/SECURITY.md", some "SECURITY.md", .renamed⟩] none .builtIn
    ⟨[], ⟨[], 0⟩⟩ ⟨pure (.skipped ""), fun _ => pure (.skipped "")⟩ .empty
  rw [assess_inScope] at moved
  exact absurd (moved (by decide +kernel)) (by decide +kernel)

end PolicyGate
