import PolicyGate.Proofs.Text.Lines
import PolicyGate.Proofs.Workspace.Lookup
import PolicyGate.Workspace.Tree

/-!
A lookup goes by the first directory that offers the tool, and directories that lack it have no
part in it. In a tree of files, a directory offers what is directly inside it.
-/

namespace PolicyGate

structure Path.IsStep (name : String) : Prop where
  single : '/' ∉ name.toList
  nonempty : name ≠ ""
  notHere : name ≠ "."
  notUp : name ≠ ".."

namespace Path

variable {name : String}

theorem parts_of_single (single : '/' ∉ name.toList) : parts name = [name] := by
  have joins : ∀ c ∈ name.toList, decide (c = '/') = false := by
    intro c member
    simpa using fun same : c = '/' => single (same ▸ member)
  rw [parts, Text.split_of_joins joins, List.map_singleton, String.ofList_toList]

theorem parts_append (directory : String) (single : '/' ∉ name.toList) :
    parts (directory ++ "/" ++ name) = parts directory ++ [name] := by
  rw [← parts_of_single single]
  simp [parts, Text.split, Text.splitFrom_append]

theorem head?_join {directory : String} (named : directory ≠ "") (single : '/' ∉ name.toList) :
    (join directory name).toList.head? = directory.toList.head? := by
  have relative : name.toList.head? ≠ some '/' :=
    fun first => single (List.mem_of_head? first)
  have opened : directory.toList ≠ [] := by simpa using named
  obtain ⟨c, rest, whole⟩ := List.exists_cons_of_ne_nil opened
  rw [join, if_neg relative]
  split <;> simp [whole]

/-- With the slash that divides it from the name, or with the one that it ends in. -/
theorem parts_join {directory : String} (named : directory ≠ "") (single : '/' ∉ name.toList) :
    (parts (join directory name) = parts directory ++ [name]) ∨
    ∃ front, parts directory = front ++ [""] ∧ parts (join directory name) = front ++ [name] := by
  have relative : name.toList.head? ≠ some '/' :=
    fun first => single (List.mem_of_head? first)
  rw [join, if_neg relative]
  split
  · next closed =>
      obtain ⟨front, whole⟩ := List.getLast?_eq_some_iff.mp (closed.resolve_left named)
      have cut : directory = String.ofList front ++ "/" ++ "" := by
        rw [← String.toList_inj, whole]
        simp
      refine Or.inr ⟨parts (.ofList front), ?_, ?_⟩
      · rw [cut, parts_append _ (by simp)]
      · rw [cut, String.append_empty, parts_append _ single]
  · exact Or.inl (parts_append directory single)

end Path

namespace Tree

variable (tree : Tree) {location there : List String}

def Holds (directory name : String) (entry : Entry) : Prop :=
  ∃ location, tree.locate directory = .ok location ∧
    tree.kind? location = some .directory ∧ tree.entry? (location ++ [name]) = some entry

theorem walk_append (location front back : List String) :
    tree.walk location (front ++ back) = (tree.walk location front >>= (tree.walk · back)) := by
  induction front generalizing location with
  | nil => rfl
  | cons part front ih =>
      simp only [List.cons_append, walk]
      split
      · rfl
      · rfl
      · rfl
      · split
        · exact ih location
        · split
          · split
            · rfl
            · exact ih _
          · exact ih _

theorem walk_append_eq_ok_iff {front back : List String} :
    tree.walk location (front ++ back) = .ok there ↔
      ∃ middle, tree.walk location front = .ok middle ∧ tree.walk middle back = .ok there := by
  rw [walk_append]
  cases tree.walk location front <;> simp [bind, Except.bind]

theorem walk_empty_eq_ok_iff :
    tree.walk location [""] = .ok there ↔
      tree.kind? location = some .directory ∧ there = location := by
  rw [walk]
  split
  · next found => simp [found]
  · next found => simp [found]
  · next found => simp [found]
  · next found =>
      rw [if_pos (Or.inl rfl), walk, Except.ok.injEq]
      exact ⟨fun same => ⟨found, same.symm⟩, fun both => both.2.symm⟩

theorem walk_step_eq_ok_iff {name : String} (step : Path.IsStep name) :
    tree.walk location [name] = .ok there ↔
      tree.kind? location = some .directory ∧ there = location ++ [name] := by
  rw [walk]
  split
  · next found => simp [found]
  · next found => simp [found]
  · next found => simp [found]
  · next found =>
      rw [if_neg (by simp [step.nonempty, step.notHere]), if_neg step.notUp, walk, Except.ok.injEq]
      exact ⟨fun same => ⟨found, same.symm⟩, fun both => both.2.symm⟩

theorem locate_join_eq_ok_iff {directory name : String} (named : directory ≠ "")
    (step : Path.IsStep name) :
    tree.locate (Path.join directory name) = .ok there ↔
      ∃ location, tree.locate directory = .ok location ∧
        tree.kind? location = some .directory ∧ there = location ++ [name] := by
  have same := Path.head?_join named step.single
  have joined : Path.join directory name ≠ "" := by
    rintro nothing
    rw [nothing] at same
    exact named (by simpa using same.symm)
  rw [locate, locate, same]
  simp only [joined, named, false_or]
  split
  · simp
  · rcases Path.parts_join named step.single with parted | ⟨front, closed, parted⟩
    · simp only [parted, walk_append_eq_ok_iff, tree.walk_step_eq_ok_iff step]
    · simp only [parted, closed, walk_append_eq_ok_iff, tree.walk_step_eq_ok_iff step,
        walk_empty_eq_ok_iff]
      constructor
      · rintro ⟨location, leads, isDirectory, rfl⟩
        exact ⟨location, ⟨location, leads, isDirectory, rfl⟩, isDirectory, rfl⟩
      · rintro ⟨location, ⟨_, leads, isDirectory, rfl⟩, _, rfl⟩
        exact ⟨_, leads, isDirectory, rfl⟩

theorem look_eq_ok_iff {path : String} {entry : Entry} :
    tree.look path = .ok entry ↔
      ∃ location, tree.locate path = .ok location ∧ tree.entry? location = some entry := by
  rw [look]
  cases tree.locate path with
  | error fault => simp
  | ok location => cases found : tree.entry? location <;> simp [found]

theorem look_join_eq_ok_iff {directory name : String} {entry : Entry} (named : directory ≠ "")
    (step : Path.IsStep name) :
    tree.look (Path.join directory name) = .ok entry ↔ tree.Holds directory name entry := by
  simp only [look_eq_ok_iff, tree.locate_join_eq_ok_iff named step, Holds]
  constructor
  · rintro ⟨_, ⟨location, leads, isDirectory, rfl⟩, found⟩
    exact ⟨location, leads, isDirectory, found⟩
  · rintro ⟨location, leads, isDirectory, found⟩
    exact ⟨_, ⟨location, leads, isDirectory, rfl⟩, found⟩

end Tree

namespace Workspace

variable (workspace : Workspace) (name : String)

/-- Why a directory does not offer the tool. -/
inductive Lacks : String → Prop
  | unnamed : Lacks ""
  | unseen {directory : String} {fault : AccessFault} :
      workspace.look (Path.join directory name) = .error fault → Lacks directory
  | notFile {directory : String} {entry : Entry} :
      workspace.look (Path.join directory name) = .ok entry →
      (∀ mode, entry.kind ≠ .file mode) → Lacks directory
  | notExecutable {directory : String} {entry : Entry} {mode : Nat} :
      workspace.look (Path.join directory name) = .ok entry → entry.kind = .file mode →
      mode &&& 0o111 = 0 → Lacks directory

theorem lacks_iff (directory : String) :
    workspace.Lacks name directory ↔ ¬ workspace.Offers name directory := by
  constructor
  · rintro lacks ⟨named, entry, mode, found, isFile, executable⟩
    cases lacks with
    | unnamed => exact named rfl
    | unseen unseen => simp [unseen] at found
    | notFile seen other =>
        rw [seen, Except.ok.injEq] at found
        exact other mode (found ▸ isFile)
    | notExecutable seen same plain =>
        rw [seen, Except.ok.injEq] at found
        rw [found, isFile, EntryKind.file.injEq] at same
        exact executable (same ▸ plain)
  · intro lacking
    by_cases named : directory = ""
    · exact named ▸ .unnamed
    · cases found : workspace.look (Path.join directory name) with
      | error fault => exact .unseen found
      | ok entry =>
          by_cases isFile : ∃ mode, entry.kind = .file mode
          · obtain ⟨mode, same⟩ := isFile
            refine .notExecutable found same ?_
            by_contra executable
            exact lacking ⟨named, entry, mode, found, same, executable⟩
          · exact .notFile found (not_exists.mp isFile)

theorem findToolFrom_append (before after : List String) :
    workspace.findToolFrom name (before ++ after) =
      (workspace.findToolFrom name before).or (workspace.findToolFrom name after) := by
  induction before with
  | nil => rfl
  | cons directory before ih =>
      rw [List.cons_append]
      by_cases offers : workspace.Offers name directory
      · rw [findToolFrom_cons_of_offers workspace name offers,
          findToolFrom_cons_of_offers workspace name offers, Option.some_or]
      · rw [findToolFrom_cons_of_not_offers workspace name offers,
          findToolFrom_cons_of_not_offers workspace name offers, ih]

theorem findToolFrom_eq_none_iff (directories : List String) :
    workspace.findToolFrom name directories = none ↔
      ∀ directory ∈ directories, workspace.Lacks name directory := by
  simp only [lacks_iff]
  induction directories with
  | nil => simp [findToolFrom]
  | cons directory directories ih =>
      rw [List.forall_mem_cons]
      by_cases offers : workspace.Offers name directory
      · simp [findToolFrom_cons_of_offers workspace name offers, offers]
      · rw [findToolFrom_cons_of_not_offers workspace name offers, ih]
        simp [offers]

variable {name}

theorem offers_iff_holds {tree : Tree} (seen : workspace.look = tree.look)
    (step : Path.IsStep name) (directory : String) :
    workspace.Offers name directory ↔
      directory ≠ "" ∧ ∃ entry mode, tree.Holds directory name entry ∧
        entry.kind = .file mode ∧ mode &&& 0o111 ≠ 0 := by
  rw [Offers, seen]
  refine and_congr_right fun named => ?_
  simp only [tree.look_join_eq_ok_iff named step]

/-- The first directory that offers a tool decides where it is found. Directories that lack it
change nothing, wherever they stand, and neither do directories behind the first. -/
theorem findToolIn_first_match (visible : ∃ c ∈ name.toList, Text.isBlank c = false) :
    (∀ directories path, workspace.findToolIn name directories = some path ↔
      ∃ before directory after, directories = before ++ directory :: after ∧
        (∀ other ∈ before, workspace.Lacks name other) ∧
        workspace.Offers name directory ∧ path = Path.join directory name) ∧
    (∀ directories, workspace.findToolIn name directories = none ↔
      ∀ directory ∈ directories, workspace.Lacks name directory) ∧
    (∀ before lacking after, (∀ directory ∈ lacking, workspace.Lacks name directory) →
      workspace.findToolIn name (before ++ lacking ++ after) =
        workspace.findToolIn name (before ++ after)) ∧
    (∀ directories more path, workspace.findToolIn name directories = some path →
      workspace.findToolIn name (directories ++ more) = some path) ∧
    (∀ tree : Tree, workspace.look = tree.look → Path.IsStep name → ∀ directory,
      workspace.Offers name directory ↔ directory ≠ "" ∧ ∃ entry mode,
        tree.Holds directory name entry ∧ entry.kind = .file mode ∧ mode &&& 0o111 ≠ 0) := by
  have shown : isBlankText name = false := by simpa [isBlankText] using visible
  simp only [findToolIn, shown, Bool.false_eq_true, if_false]
  refine ⟨?_, workspace.findToolFrom_eq_none_iff name, ?_, ?_,
    fun tree seen step => workspace.offers_iff_holds seen step⟩
  · intro directories path
    simp only [findToolFrom_eq_some_iff, lacks_iff]
  · intro before lacking after lacks
    rw [← findToolFrom_eq_none_iff] at lacks
    simp only [findToolFrom_append, lacks, Option.or_none]
  · intro directories more path found
    rw [findToolFrom_append, found, Option.some_or]

def shadowed : Workspace :=
  .ofTree ⟨[(["plain", "pnpm"], .file .empty 0o644), (["folder", "pnpm"], .directory),
    (["tools", "pnpm"], .file .empty 0o755)]⟩ none "scratch" fun _ => none

theorem findToolIn_first_match_shadowed :
    (∃ c ∈ "pnpm".toList, Text.isBlank c = false) ∧
    shadowed.findToolIn "pnpm" ["", "missing", "plain", "folder", "tools", "other"] =
      some "tools/pnpm" ∧
    ∀ more, shadowed.findToolIn "pnpm"
      (["", "missing", "plain", "folder", "tools", "other"] ++ more) = some "tools/pnpm" := by
  have visible : ∃ c ∈ "pnpm".toList, Text.isBlank c = false := ⟨'p', by decide, by decide⟩
  obtain ⟨first, _, _, kept, _⟩ := shadowed.findToolIn_first_match visible
  have found : shadowed.findToolIn "pnpm" ["", "missing", "plain", "folder", "tools", "other"] =
      some "tools/pnpm" := by
    refine (first _ _).mpr
      ⟨["", "missing", "plain", "folder"], "tools", ["other"], rfl, ?_, ?_, rfl⟩
    · simp only [List.forall_mem_cons, List.not_mem_nil, false_implies, implies_true, and_true]
      exact ⟨.unnamed, .unseen rfl, .notExecutable rfl rfl rfl, .notFile rfl nofun⟩
    · exact ⟨by decide, _, _, rfl, rfl, by decide⟩
  exact ⟨visible, found, fun more => kept _ more _ found⟩

end Workspace

end PolicyGate
