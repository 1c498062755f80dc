import PolicyGate.Evidence.Verdict
import PolicyGate.Proofs.Evidence.Heading
import PolicyGate.Proofs.Evidence.Selection
import PolicyGate.Proofs.Text.Mapped
import PolicyGate.Proofs.Unicode.LetterCase

/-!
The verdict does not depend on the case of ASCII letters. A body and the same in small letters have
the same headings, sections with the same texts in small letters, the same template text and the
same normal form, so whatever is asked of the one is asked of the other.
-/

namespace PolicyGate

open Unicode

theorem toList_toLower (text : String) : text.toLower.toList = text.toList.map Char.toLower :=
  String.toList_map

theorem normalChars_map_toLower (text : List Char) :
    normalChars (text.map Char.toLower) = normalChars text := by
  have between : [' '].map Char.toLower = [' '] := rfl
  have joined := Text.map_intercalate Char.toLower [' '] (Text.words text)
  rw [between] at joined
  rw [normalChars, normalChars, Text.words_map isBlank_toLower, ← joined, lowercase_map_toLower]

theorem leads_map_toLower (needle text : List Char) :
    leads needle (text.map Char.toLower) = leads needle text := by
  induction needle generalizing text with
  | nil => rfl
  | cons wanted needle ih =>
      cases text with
      | nil => rfl
      | cons c text => rw [List.map_cons, leads, leads, simpleFold_toLower, ih]

namespace Template

theorem isOutsideWord_map_toLower (neighbour : Option Char) :
    isOutsideWord (neighbour.map Char.toLower) = isOutsideWord neighbour := by
  cases neighbour with
  | none => rfl
  | some c => simp [isOutsideWord, isWord_toLower]

theorem hasMarker_map_toLower (text : List Char) :
    hasMarker (text.map Char.toLower) = hasMarker text := by
  induction text with
  | nil => rfl
  | cons c text ih =>
      have here : markers.any (leads · ((c :: text).map Char.toLower)) =
          markers.any (leads · (c :: text)) := by
        simp only [leads_map_toLower]
      rw [List.map_cons] at here ⊢
      rw [hasMarker, hasMarker, here, ih]

theorem hasDetails_map_toLower (before : Option Char) (text : List Char) :
    hasDetails (before.map Char.toLower) (text.map Char.toLower) = hasDetails before text := by
  induction text generalizing before with
  | nil => rfl
  | cons c text ih =>
      have here := leads_map_toLower "details".toList (c :: text)
      have later := ih (some c)
      rw [List.map_cons] at here ⊢
      rw [Option.map_some] at later
      rw [hasDetails, hasDetails, isOutsideWord_map_toLower, here, later]

theorem addHere_map_toLower (before : Option Char) (text : List Char) :
    addHere (before.map Char.toLower) (text.map Char.toLower) = addHere before text := by
  rw [addHere, addHere, isOutsideWord_map_toLower, leads_map_toLower, ← List.map_drop,
    List.head?_map, isOutsideWord_map_toLower]

theorem hasAddDetails_map_toLower (before : Option Char) (text : List Char) :
    hasAddDetails (before.map Char.toLower) (text.map Char.toLower) =
      hasAddDetails before text := by
  induction text generalizing before with
  | nil => rfl
  | cons c text ih =>
      have here := addHere_map_toLower before (c :: text)
      have later := ih (some c)
      have behind := hasDetails_map_toLower (some 'd') (text.drop 2)
      rw [List.map_cons] at here ⊢
      rw [Option.map_some] at later
      rw [List.map_drop] at behind
      rw [hasAddDetails, hasAddDetails, here, later]
      split
      · exact behind
      · rfl

end Template

theorem isTemplate_toLower (text : String) : isTemplate text.toLower = isTemplate text := by
  have behind := Template.hasAddDetails_map_toLower none text.toList
  rw [Option.map_none] at behind
  rw [isTemplate, isTemplate, toList_toLower, Template.hasMarker_map_toLower, behind]

theorem normalForm_toLower (text : String) : normalForm text.toLower = normalForm text := by
  rw [normalForm, normalForm, toList_toLower, normalChars_map_toLower]

theorem isEmpty_toLower (text : String) : text.toLower.isEmpty = text.isEmpty := by
  rw [Bool.eq_iff_iff, String.isEmpty_iff, String.isEmpty_iff, ← String.toList_eq_nil_iff,
    ← String.toList_eq_nil_iff, toList_toLower, List.map_eq_nil_iff]

theorem ContentRule.accepts_toLower (rule : ContentRule) (text : String) :
    rule.accepts text.toLower = rule.accepts text := by
  cases rule with
  | substantive =>
      simp only [accepts, hasContent, isEmpty_toLower, isTemplate_toLower, normalForm_toLower]
  | intentional => simp only [accepts, isDeliberate, isEmpty_toLower, isTemplate_toLower]

namespace BodySection

theorem headingOf?_map_toLower (line : List Char) :
    headingOf? (line.map Char.toLower) = headingOf? line := by
  have marker (c : Char) : c.toLower = '#' ↔ c = '#' := toLower_eq_iff (by decide) c
  apply Option.ext
  intro key
  rw [headingOf?_eq_some_iff, headingOf?_eq_some_iff]
  constructor
  · rintro ⟨rest, nonempty, whole, rfl⟩
    obtain ⟨a, tail, rfl, first, whole⟩ := List.map_eq_cons_iff.mp whole
    obtain ⟨b, text, rfl, second, rfl⟩ := List.map_eq_cons_iff.mp whole
    refine ⟨text, by simpa using nonempty, ?_, normalChars_map_toLower text⟩
    rw [(marker a).mp first, (marker b).mp second]
  · rintro ⟨rest, nonempty, rfl, rfl⟩
    exact ⟨rest.map Char.toLower, by simpa using nonempty, rfl, (normalChars_map_toLower rest).symm⟩

theorem filterMap_headingOf?_map_toLower (lines : List (List Char)) :
    (lines.map (List.map Char.toLower)).filterMap headingOf? = lines.filterMap headingOf? := by
  have same : headingOf? ∘ List.map Char.toLower = headingOf? := funext headingOf?_map_toLower
  rw [List.filterMap_map, same]

theorem ownedLines_map_toLower (key current : List Char) (lines : List (List Char)) :
    ownedLines key current (lines.map (List.map Char.toLower)) =
      (ownedLines key current lines).map (List.map Char.toLower) := by
  induction lines generalizing current with
  | nil => rfl
  | cons line lines ih =>
      cases opens : headingOf? line with
      | some heading => simp only [List.map_cons, ownedLines, headingOf?_map_toLower, opens, ih]
      | none =>
          by_cases owned : current = key
          · simp only [List.map_cons, ownedLines, headingOf?_map_toLower, opens, ih, owned, if_true]
          · simp only [List.map_cons, ownedLines, headingOf?_map_toLower, opens, ih, owned,
              if_false]

def small (part : BodySection) : BodySection := ⟨part.heading, part.text.toLower⟩

theorem sectionAt_map_toLower (lines : List (List Char)) (key : List Char) :
    sectionAt (lines.map (List.map Char.toLower)) key = (sectionAt lines key).small := by
  have feed : ['\n'].map Char.toLower = ['\n'] := rfl
  have joined := Text.map_intercalate Char.toLower ['\n'] (ownedLines key preamble lines)
  rw [feed] at joined
  have text : (sectionAt lines key).text.toLower = .ofList (Text.trim (['\n'].intercalate
      (ownedLines key preamble (lines.map (List.map Char.toLower))))) := by
    rw [← String.toList_inj, toList_toLower, sectionAt_text, String.toList_ofList,
      ownedLines_map_toLower, ← joined, Text.trim_map isBlank_toLower]
  rw [small, text, sectionAt, sectionAt]

theorem split_toLower (body : String) : split body.toLower = (split body).map small := by
  have feeds (c : Char) : c.toLower = '\n' ↔ c = '\n' := toLower_eq_iff (by decide) c
  have returns (c : Char) : c.toLower = '\r' ↔ c = '\r' := toLower_eq_iff (by decide) c
  have keys : firstHeadings ((Text.lines body.toList).map (List.map Char.toLower)) =
      firstHeadings (Text.lines body.toList) := by
    rw [firstHeadings, firstHeadings, filterMap_headingOf?_map_toLower]
  rw [split_eq_sectionsOf, split_eq_sectionsOf, toList_toLower, Text.lines_map feeds returns,
    sectionsOf_eq, sectionsOf_eq, keys, List.map_map]
  exact List.map_congr_left fun key _ => sectionAt_map_toLower _ key

end BodySection

theorem Requirement.isMet_map_small (requirement : Requirement) (sections : List BodySection) :
    requirement.isMet (sections.map BodySection.small) = requirement.isMet sections := by
  have found : (sections.map BodySection.small).find?
        (fun part => requirement.recognizes part.heading) =
      (sections.find? fun part => requirement.recognizes part.heading).map BodySection.small :=
    List.find?_map
  rw [isMet, isMet, found]
  cases sections.find? fun part => requirement.recognizes part.heading with
  | none => rfl
  | some part => exact requirement.rule.accepts_toLower part.text

theorem TransitionalRule.isMetBy_toLower (rule : TransitionalRule) (body : String) :
    rule.isMetBy body.toLower = rule.isMetBy body := by
  rw [isMetBy, isMetBy, isTemplate_toLower, toList_toLower, normalChars_map_toLower]

namespace EvidenceRule

theorem verdict_toLower (evidence : EvidenceRule) (body : String) :
    evidence.verdict body.toLower = evidence.verdict body := by
  have missing : firstMissing (BodySection.split body.toLower) evidence.requirements =
      firstMissing (BodySection.split body) evidence.requirements := by
    apply firstMissing_congr
    intro requirement _
    rw [BodySection.split_toLower, requirement.isMet_map_small]
  rw [verdict, verdict, missing, evidence.transitional.isMetBy_toLower]

/-- Bodies that differ in the case of ASCII letters alone get one verdict. -/
theorem verdict_of_toLower_eq (evidence : EvidenceRule) {body other : String}
    (same : body.toLower = other.toLower) : evidence.verdict body = evidence.verdict other := by
  rw [← evidence.verdict_toLower body, same, evidence.verdict_toLower]

def quietBody : String := "## Release Notes\nΑΣ n/a\n## Threat model\nToDo: aDd"

def shoutedBody : String := "## RELEASE notes\nΑΣ N/A\n## THREAT MODEL\nTODO: add"

theorem verdict_of_toLower_eq_shouted :
    quietBody.toLower = shoutedBody.toLower ∧
      EvidenceRule.builtIn.verdict quietBody = EvidenceRule.builtIn.verdict shoutedBody := by
  have same : quietBody.toLower = shoutedBody.toLower := by
    rw [← String.toList_inj, toList_toLower, toList_toLower]
    decide +kernel
  exact ⟨same, EvidenceRule.builtIn.verdict_of_toLower_eq same⟩

end EvidenceRule

end PolicyGate
