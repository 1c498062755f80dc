import PolicyGate.Proofs.Evidence.BuiltIn
import PolicyGate.Evidence.Verdict
import PolicyGate.Proofs.Text.LineEnds

/-!
The verdict does not depend on how the lines of a body end. The body is read in three ways, in
lines, in words and character by character in search of template text, and none of them sees a
carriage return in front of a line feed.
-/

namespace PolicyGate

open Text Unicode

def WithinLine (needle : List Char) : Prop := '\r' ∉ needle ∧ '\n' ∉ needle

theorem not_leads_of_break {needle : List Char} (within : WithinLine needle) (nonempty : needle ≠ [])
    {c : Char} (ends : c = '\r' ∨ c = '\n') (rest : List Char) : leads needle (c :: rest) = false := by
  cases needle with
  | nil => exact absurd rfl nonempty
  | cons wanted needle =>
      have other : simpleFold c ≠ wanted := by
        intro same
        rcases ends with rfl | rfl
        · exact within.1 (same ▸ List.mem_cons_self)
        · exact within.2 (same ▸ List.mem_cons_self)
      simp [leads, other]

theorem WithinLine.tail {wanted : Char} {needle : List Char}
    (within : WithinLine (wanted :: needle)) : WithinLine needle :=
  ⟨fun member => within.1 (List.mem_cons_of_mem _ member),
    fun member => within.2 (List.mem_cons_of_mem _ member)⟩

namespace Text.Returned

variable {text other : List Char}

theorem leads_eq (returned : Returned text other) {needle : List Char}
    (within : WithinLine needle) : leads needle other = leads needle text := by
  induction returned generalizing needle with
  | nil => rfl
  | keep c _ ih =>
      cases needle with
      | nil => rfl
      | cons wanted needle => rw [leads, leads, ih within.tail]
  | insert _ _ =>
      by_cases empty : needle = []
      · simp [empty, leads]
      · rw [not_leads_of_break within empty (Or.inl rfl),
          not_leads_of_break within empty (Or.inr rfl)]

theorem drop (returned : Returned text other) {needle : List Char} (within : WithinLine needle)
    (found : leads needle text = true) :
    Returned (text.drop needle.length) (other.drop needle.length) := by
  induction returned generalizing needle with
  | nil => simpa using Returned.nil
  | keep c returned ih =>
      cases needle with
      | nil => exact .keep c returned
      | cons wanted needle =>
          rw [leads, Bool.and_eq_true] at found
          exact ih within.tail found.2
  | insert returned _ =>
      by_cases empty : needle = []
      · subst empty
        exact .insert returned
      · rw [not_leads_of_break within empty (Or.inr rfl)] at found
        contradiction

theorem outside_head?_eq (returned : Returned text other) :
    Template.isOutsideWord other.head? = Template.isOutsideWord text.head? := by
  cases returned with
  | nil => rfl
  | keep => rfl
  | insert =>
      change Template.isOutsideWord (some '\r') = Template.isOutsideWord (some '\n')
      decide

end Text.Returned

namespace Template

theorem markers_withinLine : ∀ marker ∈ markers, WithinLine marker ∧ marker ≠ [] := by
  unfold WithinLine
  decide

theorem add_withinLine : WithinLine "add".toList := by
  unfold WithinLine
  decide

theorem details_withinLine : WithinLine "details".toList := by
  unfold WithinLine
  decide

theorem hasMarker_cons_of_break {c : Char} (ends : c = '\r' ∨ c = '\n') (rest : List Char) :
    hasMarker (c :: rest) = hasMarker rest := by
  have none : markers.any (leads · (c :: rest)) = false := by
    rw [List.any_eq_false]
    intro marker member
    obtain ⟨within, nonempty⟩ := markers_withinLine marker member
    rw [not_leads_of_break within nonempty ends]
    exact Bool.false_ne_true
  rw [hasMarker, none, Bool.false_or]

theorem hasDetails_cons_of_break {c : Char} (ends : c = '\r' ∨ c = '\n') (before : Option Char)
    (rest : List Char) : hasDetails before (c :: rest) = hasDetails (some c) rest := by
  rw [hasDetails, not_leads_of_break details_withinLine (by decide) ends, Bool.and_false,
    Bool.false_or]

theorem hasAddDetails_cons_of_break {c : Char} (ends : c = '\r' ∨ c = '\n')
    (before : Option Char) (rest : List Char) :
    hasAddDetails before (c :: rest) = hasAddDetails (some c) rest := by
  have elsewhere : addHere before (c :: rest) = false := by
    rw [addHere, not_leads_of_break add_withinLine (by decide) ends, Bool.and_false,
      Bool.false_and]
  simp [hasAddDetails, elsewhere]

variable {text other : List Char}

theorem hasMarker_of_returned (returned : Returned text other) :
    hasMarker other = hasMarker text := by
  induction returned with
  | nil => rfl
  | @keep c text other returned ih =>
      have here : markers.any (leads · (c :: other)) = markers.any (leads · (c :: text)) := by
        rw [Bool.eq_iff_iff, List.any_eq_true, List.any_eq_true]
        refine exists_congr fun marker => and_congr_right fun member => ?_
        rw [(Returned.keep c returned).leads_eq (markers_withinLine marker member).1]
      rw [hasMarker, hasMarker, here, ih]
  | insert _ ih =>
      rw [hasMarker_cons_of_break (Or.inl rfl), hasMarker_cons_of_break (Or.inr rfl),
        hasMarker_cons_of_break (Or.inr rfl), ih]

theorem hasDetails_of_returned (returned : Returned text other) (before : Option Char) :
    hasDetails before other = hasDetails before text := by
  induction returned generalizing before with
  | nil => rfl
  | keep c returned ih =>
      rw [hasDetails, hasDetails, (Returned.keep c returned).leads_eq details_withinLine, ih]
  | insert _ ih =>
      rw [hasDetails_cons_of_break (Or.inl rfl), hasDetails_cons_of_break (Or.inr rfl),
        hasDetails_cons_of_break (Or.inr rfl), ih]

theorem addHere_of_returned (returned : Returned text other) (before : Option Char) :
    addHere before other = addHere before text := by
  rw [addHere, addHere, returned.leads_eq add_withinLine]
  cases found : leads "add".toList text with
  | false => simp
  | true =>
      have behind : Returned (text.drop 3) (other.drop 3) := returned.drop add_withinLine found
      rw [behind.outside_head?_eq]

theorem hasAddDetails_of_returned (returned : Returned text other) (before : Option Char) :
    hasAddDetails before other = hasAddDetails before text := by
  induction returned generalizing before with
  | nil => rfl
  | keep c returned ih =>
      rw [hasAddDetails, hasAddDetails, addHere_of_returned (.keep c returned)]
      split
      · next here =>
          rw [addHere, Bool.and_eq_true, Bool.and_eq_true] at here
          exact hasDetails_of_returned ((Returned.keep c returned).drop add_withinLine here.1.2) _
      · exact ih _
  | insert _ ih =>
      rw [hasAddDetails_cons_of_break (Or.inl rfl), hasAddDetails_cons_of_break (Or.inr rfl),
        hasAddDetails_cons_of_break (Or.inr rfl), ih]

end Template

section Bodies

variable {body other : String}

theorem isTemplate_of_returned (returned : Returned body.toList other.toList) :
    isTemplate other = isTemplate body := by
  rw [isTemplate, isTemplate, Template.hasMarker_of_returned returned,
    Template.hasAddDetails_of_returned returned]

theorem normalChars_of_returned (returned : Returned body.toList other.toList) :
    normalChars other.toList = normalChars body.toList := by
  rw [normalChars, normalChars, returned.words_eq]

/-- Whichever line feeds of a body get a carriage return, its sections stay as they are, and so
does the verdict. -/
theorem verdict_of_returned (plain : '\r' ∉ body.toList)
    (returned : Returned body.toList other.toList) (evidence : EvidenceRule) :
    BodySection.split other = BodySection.split body ∧
      evidence.verdict other = evidence.verdict body := by
  have sections : BodySection.split other = BodySection.split body := by
    rw [BodySection.split, BodySection.split, returned.lines_eq plain]
  have words : evidence.transitional.isMetBy other = evidence.transitional.isMetBy body := by
    rw [TransitionalRule.isMetBy, TransitionalRule.isMetBy, isTemplate_of_returned returned,
      normalChars_of_returned returned]
  exact ⟨sections, by rw [EvidenceRule.verdict, EvidenceRule.verdict, sections, words]⟩

end Bodies

def unixBody : String := "Intro\n\n## Threat Model\nadd\n\ndetails\n## Release Notes\nNone\n"

def mixedBody : String :=
  "Intro\n\r\n## Threat Model\r\nadd\r\n\ndetails\n## Release Notes\r\nNone\r\n"

theorem verdict_of_returned_mixedBody :
    '\r' ∉ unixBody.toList ∧ Text.Returned unixBody.toList mixedBody.toList ∧
      BodySection.split mixedBody = BodySection.split unixBody ∧
      EvidenceRule.builtIn.verdict mixedBody = EvidenceRule.builtIn.verdict unixBody :=
  ⟨by decide, by decide, verdict_of_returned (by decide) (by decide) _⟩

end PolicyGate
