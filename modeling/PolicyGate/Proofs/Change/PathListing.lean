import PolicyGate.Change.Listing
import PolicyGate.Proofs.Policy.Scope
import PolicyGate.Proofs.Text.Lines

/-!
Listings of paths as git prints them, and what is read from them. A path of plain characters is
printed as it is and read back without the spaces at its ends; any other one is printed in quotes.
-/

namespace PolicyGate

namespace Git

def isPlain (c : Char) : Bool :=
  0x20 ≤ c.toNat && c.toNat < 0x7F && c ≠ '"' && c ≠ '\\'

/-- What follows the backslash: a letter for a byte that has one, else three octal digits. -/
def escapeCode (byte : UInt8) : List Char :=
  match byte.toNat with
  | 7 => ['a']
  | 8 => ['b']
  | 9 => ['t']
  | 10 => ['n']
  | 11 => ['v']
  | 12 => ['f']
  | 13 => ['r']
  | 34 => ['"']
  | 92 => ['\\']
  | value => [value / 64, value / 8 % 8, value % 8].map Nat.digitChar

def escape (c : Char) : List Char :=
  if isPlain c then [c] else (String.utf8EncodeChar c).flatMap fun byte => '\\' :: escapeCode byte

def printsVerbatim (path : String) : Bool := path.toList.all isPlain

def printedPath (path : String) : List Char :=
  if printsVerbatim path then path.toList else '"' :: (path.toList.flatMap escape ++ ['"'])

def pathListing (paths : List String) : String := .ofList (Text.unlines (paths.map printedPath))

example : pathListing ["docs/a b.md", "GOVERNANCE/é.md"] =
    "docs/a b.md\n\"GOVERNANCE/\\303\\251.md\"\n" := by decide

theorem digitChar_printable {digit : Nat} (octal : digit < 8) :
    0x20 ≤ digit.digitChar.toNat ∧ digit.digitChar.toNat < 0x7F := by
  have checked : ∀ value < 8, 0x20 ≤ value.digitChar.toNat ∧ value.digitChar.toNat < 0x7F := by
    decide
  exact checked digit octal

theorem escapeCode_printable (byte : UInt8) :
    ∀ c ∈ escapeCode byte, 0x20 ≤ c.toNat ∧ c.toNat < 0x7F := by
  have bound := byte.toNat_lt
  unfold escapeCode
  split
  case h_10 =>
    intro c member
    obtain ⟨digit, among, rfl⟩ := List.mem_map.mp member
    apply digitChar_printable
    simp only [List.mem_cons, List.not_mem_nil, or_false] at among
    omega
  all_goals simp

theorem isPlain_printable {c : Char} (plain : isPlain c = true) :
    0x20 ≤ c.toNat ∧ c.toNat < 0x7F := by
  simp only [isPlain, Bool.and_eq_true, decide_eq_true_eq] at plain
  exact plain.1.1

theorem escape_printable (source : Char) :
    ∀ c ∈ escape source, 0x20 ≤ c.toNat ∧ c.toNat < 0x7F := by
  intro c member
  unfold escape at member
  split at member
  · next plain =>
      rw [List.mem_singleton.mp member]
      exact isPlain_printable plain
  · obtain ⟨byte, _, among⟩ := List.mem_flatMap.mp member
    rcases List.mem_cons.mp among with rfl | code
    · decide
    · exact escapeCode_printable byte c code

theorem printedPath_printable (path : String) :
    ∀ c ∈ printedPath path, 0x20 ≤ c.toNat ∧ c.toNat < 0x7F := by
  intro c member
  unfold printedPath at member
  split at member
  · next plain => exact isPlain_printable (List.all_eq_true.mp plain c member)
  · rcases List.mem_cons.mp member with rfl | inside
    · decide
    · rcases List.mem_append.mp inside with escaped | closing
      · obtain ⟨source, _, among⟩ := List.mem_flatMap.mp escaped
        exact escape_printable source c among
      · rw [List.mem_singleton.mp closing]
        decide

theorem isLine_printedPath (path : String) : Text.IsLine (printedPath path) := by
  have printable := printedPath_printable path
  constructor
  · intro feed
    exact absurd (printable '\n' feed) (by decide)
  · intro last
    exact absurd (printable '\r' (List.mem_of_getLast? last)) (by decide)

def listedAs (path : String) : String := .ofList (Text.trim (printedPath path))

theorem listedAs_verbatim {path : String} (verbatim : printsVerbatim path = true) :
    listedAs path = trimmed path := by
  rw [listedAs, printedPath, if_pos verbatim, trimmed]

theorem parsePaths_pathListing (paths : List String) :
    parsePaths (pathListing paths) = (paths.map listedAs).filter (· ≠ "") := by
  have areLines : ∀ row ∈ paths.map printedPath, Text.IsLine row := by
    intro row member
    obtain ⟨path, _, rfl⟩ := List.mem_map.mp member
    exact isLine_printedPath path
  rw [parsePaths, pathListing, String.toList_ofList, Text.lines_unlines areLines]
  have told : paths.map listedAs = ((paths.map printedPath).map Text.trim).map String.ofList := by
    simp [listedAs]
  have nonempty : (fun listed : String => decide (listed ≠ "")) ∘ String.ofList =
      fun characters => decide (characters ≠ []) := by
    funext characters
    simp
  rw [told, ← nonempty, ← List.filter_map]

theorem parsePaths_pathListing_verbatim {paths : List String}
    (verbatim : ∀ path ∈ paths, printsVerbatim path = true) :
    parsePaths (pathListing paths) = (paths.map trimmed).filter (· ≠ "") := by
  rw [parsePaths_pathListing]
  congr 1
  exact List.map_congr_left fun path member => listedAs_verbatim (verbatim path member)

theorem parsePaths_pathListing_append (front back : List String) :
    parsePaths (pathListing (front ++ back)) =
      parsePaths (pathListing front) ++ parsePaths (pathListing back) := by
  simp only [parsePaths_pathListing, List.map_append, List.filter_append]

theorem parsePaths_eq_self_iff {paths : List String}
    (verbatim : ∀ path ∈ paths, printsVerbatim path = true) :
    parsePaths (pathListing paths) = paths ↔ ∀ path ∈ paths, path ≠ "" ∧ Text.Snug path.toList := by
  rw [parsePaths_pathListing_verbatim verbatim]
  constructor
  · intro same path member
    rw [← same] at member
    obtain ⟨among, filled⟩ := List.mem_filter.mp member
    obtain ⟨source, _, rfl⟩ := List.mem_map.mp among
    refine ⟨of_decide_eq_true filled, ?_⟩
    rw [trimmed, String.toList_ofList]
    exact Text.snug_trim source.toList
  · intro plain
    have kept : paths.map trimmed = paths := by
      refine (List.map_congr_left fun path member => ?_).trans (List.map_id paths)
      rw [trimmed, (plain path member).2.trim_eq, String.ofList_toList, id_eq]
    rw [kept, List.filter_eq_self]
    exact fun path member => decide_eq_true (plain path member).1

theorem inScope_of_verbatim (policy : Policy) {paths : List String} {path guardPath : String}
    (member : path ∈ paths) (verbatim : printsVerbatim path = true)
    (guarding : guardPath ∈ policy.guardPaths) (nonempty : guardPath ≠ "")
    (snug : Text.Snug guardPath.toList) (starts : guardPath.toList <+: path.toList) :
    policy.inScope (parsePaths (pathListing paths)) = true := by
  have kept : guardPath.toList <+: Text.trim path.toList :=
    Text.prefix_trim_of_snug (by simpa using nonempty) snug starts
  have guarded : policy.guards (trimmed path) = true :=
    (policy.guards_iff _).mpr ⟨guardPath, guarding, by simpa [trimmed] using kept⟩
  rw [policy.inScope_iff]
  refine ⟨trimmed path, ?_, guarded⟩
  rw [parsePaths_pathListing, List.mem_filter]
  refine ⟨List.mem_map.mpr ⟨path, member, listedAs_verbatim verbatim⟩, decide_eq_true ?_⟩
  intro empty
  have none : Text.trim path.toList = [] := by simpa [trimmed] using empty
  rw [none, List.prefix_nil] at kept
  exact nonempty (by simpa using kept)

end Git

/-- Paths printed as they are come back in order without the spaces at their ends, between whatever
is read from the paths around them. So by themselves they come back unchanged if and only if they
have no spaces there, and a guard entry that begins and ends with something visible never overlooks
one. -/
theorem verbatim_paths_listed (policy : Policy) (front paths back : List String)
    (verbatim : ∀ path ∈ paths, Git.printsVerbatim path = true) :
    parsePaths (Git.pathListing (front ++ paths ++ back)) =
      parsePaths (Git.pathListing front) ++ (paths.map trimmed).filter (· ≠ "") ++
        parsePaths (Git.pathListing back) ∧
    parsePaths (Git.pathListing paths) = (paths.map trimmed).filter (· ≠ "") ∧
    (parsePaths (Git.pathListing paths) = paths ↔
      ∀ path ∈ paths, path ≠ "" ∧ Text.Snug path.toList) ∧
    ((∀ path ∈ paths, path ≠ "" ∧ Text.Snug path.toList) →
      policy.inScope (parsePaths (Git.pathListing paths)) = policy.inScope paths) ∧
    ∀ path ∈ paths, ∀ guardPath ∈ policy.guardPaths, guardPath ≠ "" →
      Text.Snug guardPath.toList → guardPath.toList <+: path.toList →
        policy.inScope (parsePaths (Git.pathListing (front ++ paths ++ back))) = true := by
  have alone := Git.parsePaths_pathListing_verbatim verbatim
  have same := Git.parsePaths_eq_self_iff verbatim
  refine ⟨?_, alone, same, fun plain => by rw [same.mpr plain], ?_⟩
  · rw [Git.parsePaths_pathListing_append, Git.parsePaths_pathListing_append, alone]
  · intro path member guardPath guarding nonempty snug starts
    have among : path ∈ front ++ paths ++ back :=
      List.mem_append_left _ (List.mem_append_right _ member)
    exact Git.inScope_of_verbatim policy among (verbatim path member) guarding nonempty snug starts

theorem spaced_paths_listed :
    (∀ path ∈ [" docs/a b.md", "SECURITY.md "], Git.printsVerbatim path = true) ∧
    parsePaths (Git.pathListing
        (["GOVERNANCE/é.md"] ++ [" docs/a b.md", "SECURITY.md "] ++ ["docs/\t.md"])) =
      parsePaths (Git.pathListing ["GOVERNANCE/é.md"]) ++ ["docs/a b.md", "SECURITY.md"] ++
        parsePaths (Git.pathListing ["docs/\t.md"]) ∧
    Policy.builtIn.inScope (parsePaths (Git.pathListing
      (["GOVERNANCE/é.md"] ++ [" docs/a b.md", "SECURITY.md "] ++ ["docs/\t.md"]))) = true := by
  have verbatim : ∀ path ∈ [" docs/a b.md", "SECURITY.md "], Git.printsVerbatim path = true := by
    decide
  obtain ⟨listed, _, _, _, guarded⟩ := verbatim_paths_listed .builtIn ["GOVERNANCE/é.md"]
    [" docs/a b.md", "SECURITY.md "] ["docs/\t.md"] verbatim
  refine ⟨verbatim, listed, ?_⟩
  exact guarded "SECURITY.md " (by decide) "SECURITY.md" (by decide) (by decide) (by decide)
    (by decide)

/-- A space in front of a path is lost, and brings it into scope. -/
theorem listed_paths_differ :
    parsePaths (Git.pathListing [" SECURITY.md"]) = ["SECURITY.md"] ∧
    Policy.builtIn.inScope [" SECURITY.md"] = false ∧
    Policy.builtIn.inScope (parsePaths (Git.pathListing [" SECURITY.md"])) = true ∧
    ¬ ∀ (policy : Policy) (paths : List String),
      (∀ path ∈ paths, path ≠ "" ∧ '\x00' ∉ path.toList) →
        parsePaths (Git.pathListing paths) = paths ∧
          policy.inScope (parsePaths (Git.pathListing paths)) = policy.inScope paths := by
  refine ⟨by decide +kernel, by decide +kernel, by decide +kernel, ?_⟩
  intro faithful
  have same := (faithful .builtIn [" SECURITY.md"] (by decide)).1
  exact absurd same (by decide +kernel)

end PolicyGate
