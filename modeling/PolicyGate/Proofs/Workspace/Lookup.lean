import PolicyGate.Workspace.SearchPath

/-!
Where a tool is found: in the first directory that offers it. Directories that do not are passed
over, whatever is in them.
-/

namespace PolicyGate.Workspace

/-- The directory has a file of this name that may be executed. -/
def Offers (workspace : Workspace) (name directory : String) : Prop :=
  directory ≠ "" ∧ ∃ entry mode, workspace.look (Path.join directory name) = .ok entry ∧
    entry.kind = .file mode ∧ mode &&& 0o111 ≠ 0

theorem isExecutable_kind_iff (kind : EntryKind) :
    kind.isExecutable = true ↔ ∃ mode, kind = .file mode ∧ mode &&& 0o111 ≠ 0 := by
  cases kind <;> simp [EntryKind.isExecutable]

variable (workspace : Workspace) (name : String)

theorem isExecutable_iff (path : String) :
    workspace.isExecutable path = true ↔ ∃ entry mode, workspace.look path = .ok entry ∧
      entry.kind = .file mode ∧ mode &&& 0o111 ≠ 0 := by
  cases found : workspace.look path with
  | error fault => simp [isExecutable, found]
  | ok entry => simp [isExecutable, found, isExecutable_kind_iff]

theorem findToolFrom_cons_of_offers {directory : String}
    (offers : workspace.Offers name directory) (rest : List String) :
    workspace.findToolFrom name (directory :: rest) = some (Path.join directory name) := by
  obtain ⟨named, executable⟩ := offers
  rw [← isExecutable_iff] at executable
  simp [findToolFrom, named, executable]

theorem findToolFrom_cons_of_not_offers {directory : String}
    (lacks : ¬ workspace.Offers name directory) (rest : List String) :
    workspace.findToolFrom name (directory :: rest) = workspace.findToolFrom name rest := by
  rw [findToolFrom]
  split
  · rfl
  · next named =>
      rw [if_neg]
      intro executable
      exact lacks ⟨named, (workspace.isExecutable_iff _).mp executable⟩

theorem findToolFrom_eq_some_iff (directories : List String) (path : String) :
    workspace.findToolFrom name directories = some path ↔
      ∃ before directory after, directories = before ++ directory :: after ∧
        (∀ other ∈ before, ¬ workspace.Offers name other) ∧
        workspace.Offers name directory ∧ path = Path.join directory name := by
  induction directories with
  | nil => simp [findToolFrom]
  | cons first rest ih =>
      by_cases offers : workspace.Offers name first
      · rw [findToolFrom_cons_of_offers workspace name offers, Option.some.injEq]
        constructor
        · intro same
          exact ⟨[], first, rest, rfl, by simp, offers, same.symm⟩
        · rintro ⟨before, directory, after, whole, lacking, _, rfl⟩
          cases before with
          | nil => rw [(List.cons.inj whole).1]
          | cons other before =>
              have same := (List.cons.inj whole).1
              exact absurd (same ▸ offers) (lacking other List.mem_cons_self)
      · rw [findToolFrom_cons_of_not_offers workspace name offers, ih]
        constructor
        · rintro ⟨before, directory, after, rfl, lacking, found⟩
          exact ⟨first :: before, directory, after, rfl,
            List.forall_mem_cons.mpr ⟨offers, lacking⟩, found⟩
        · rintro ⟨before, directory, after, whole, lacking, found⟩
          cases before with
          | nil => exact absurd ((List.cons.inj whole).1 ▸ found.1) offers
          | cons other before =>
              exact ⟨before, directory, after, (List.cons.inj whole).2,
                (List.forall_mem_cons.mp lacking).2, found⟩

def Supplies (path : String) : Prop :=
  ∃ searchPath before directory after, workspace.searchPath = some searchPath ∧
    searchDirectories searchPath = before ++ directory :: after ∧
    (∀ other ∈ before, ¬ workspace.Offers name other) ∧
    workspace.Offers name directory ∧ path = Path.join directory name

theorem findTool_eq_some_iff (visible : isBlankText name = false) (path : String) :
    workspace.findTool name = some path ↔ workspace.Supplies name path := by
  cases found : workspace.searchPath with
  | none => simp [findTool, Supplies, found]
  | some searchPath =>
      simp [findTool, findToolIn, Supplies, found, visible, findToolFrom_eq_some_iff]

end PolicyGate.Workspace
