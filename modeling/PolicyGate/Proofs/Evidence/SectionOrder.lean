import PolicyGate.Proofs.Evidence.Blocks
import PolicyGate.Proofs.Evidence.BuiltIn
import PolicyGate.Proofs.Evidence.Selection

/-!
The order of sections does not matter as long as no requirement has to choose between two of them:
the same blocks in another order meet the same requirements, and the first one that they do not
meet is the same.
-/

namespace PolicyGate

theorem find?_eq_of_perm {α : Type} {wanted : α → Bool} {items reordered : List α}
    (perm : items.Perm reordered)
    (unique : ∀ item ∈ items, ∀ other ∈ items, wanted item = true → wanted other = true →
      item = other) : reordered.find? wanted = items.find? wanted := by
  cases found : items.find? wanted with
  | none =>
      rw [List.find?_eq_none] at found ⊢
      exact fun item member => found item (perm.mem_iff.mpr member)
  | some item =>
      have member := List.mem_of_find?_eq_some found
      have holds := List.find?_some found
      have some : (reordered.find? wanted).isSome = true := by
        rw [List.find?_isSome]
        exact ⟨item, perm.mem_iff.mp member, holds⟩
      obtain ⟨other, same⟩ := Option.isSome_iff_exists.mp some
      have among := perm.mem_iff.mpr (List.mem_of_find?_eq_some same)
      rw [same, unique item member other among holds (List.find?_some same)]

namespace BodySection

variable {introduction : List (List Char)} {blocks reordered : List Block}

theorem split_blockBody_perm
    (introLines : ∀ line ∈ introduction, Text.IsLine line ∧ headingOf? line = none)
    (distinct : (preamble :: blocks.map Block.key).Nodup) (perm : blocks.Perm reordered) :
    (split (blockBody introduction blocks)).Perm (split (blockBody introduction reordered)) := by
  have stillDistinct : (preamble :: reordered.map Block.key).Nodup :=
    ((perm.map Block.key).cons preamble).nodup_iff.mp distinct
  have lines := fun line member => (introLines line member).1
  have plain := fun line member => (introLines line member).2
  rw [split_blockBody lines, split_blockBody lines, sectionsOf_blockRows plain distinct,
    sectionsOf_blockRows plain stillDistinct]
  exact (perm.map Block.toSection).cons _

theorem eq_of_heading_eq {body : String} {part other : BodySection} (member : part ∈ split body)
    (among : other ∈ split body) (same : part.heading = other.heading) : part = other := by
  obtain ⟨key, _, rfl⟩ := mem_split member
  obtain ⟨otherKey, _, rfl⟩ := mem_split among
  have keys := congrArg String.toList same
  rw [sectionAt_heading, sectionAt_heading] at keys
  rw [keys]

/-- Blocks in any order leave the same requirement missing, or none, if no requirement matches
the headings of two sections. -/
theorem firstMissing_reordered
    (introLines : ∀ line ∈ introduction, Text.IsLine line ∧ headingOf? line = none)
    (distinct : (preamble :: blocks.map Block.key).Nodup) (perm : blocks.Perm reordered)
    {requirements : List Requirement}
    (unique : ∀ requirement ∈ requirements,
      ∀ part ∈ split (blockBody introduction blocks),
      ∀ other ∈ split (blockBody introduction blocks),
        requirement.recognizes part.heading = true → requirement.recognizes other.heading = true →
          part.heading = other.heading) :
    firstMissing (split (blockBody introduction reordered)) requirements =
      firstMissing (split (blockBody introduction blocks)) requirements := by
  apply firstMissing_congr
  intro requirement member
  have found := find?_eq_of_perm (split_blockBody_perm introLines distinct perm)
    fun part among other alsoAmong matching alsoMatching =>
      eq_of_heading_eq among alsoAmong
        (unique requirement member part among other alsoAmong matching alsoMatching)
  rw [Requirement.isMet, Requirement.isMet, found]

def threatBlock : Block where
  opening := "## Threat Model".toList
  key := "threat model".toList
  below := ["".toList, "Forged tokens".toList]
  opens := by decide
  plain := by decide
  areLines := by decide

def notesBlock : Block where
  opening := "##Release  notes".toList
  key := "release notes".toList
  below := ["".toList]
  opens := by decide
  plain := by decide
  areLines := by decide

theorem firstMissing_reordered_notesFirst :
    firstMissing (split (blockBody ["Intro".toList] [threatBlock, notesBlock]))
        [.threatModel, .releaseNotes] = some "release notes" ∧
      firstMissing (split (blockBody ["Intro".toList] [notesBlock, threatBlock]))
        [.threatModel, .releaseNotes] = some "release notes" := by
  have inOrder : firstMissing (split (blockBody ["Intro".toList] [threatBlock, notesBlock]))
      [.threatModel, .releaseNotes] = some "release notes" := by
    decide +kernel
  exact ⟨inOrder, (firstMissing_reordered (by decide +kernel) (by decide +kernel) (.swap _ _ _)
    (by decide +kernel)).trans inOrder⟩

end BodySection

end PolicyGate
