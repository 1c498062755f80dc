import Mathlib.Data.List.Forall2
import PolicyGate.Proofs.Evidence.Reading
import PolicyGate.Proofs.Pattern.PlainText

/-!
What becomes of the heading patterns of required sections: one requirement for each section, or
the first pattern that is none as the failure.
-/

namespace PolicyGate

section Lists

variable {ε α β : Type} {read : α → Except ε β} {items : List α}

theorem mapM_eq_ok_iff {results : List β} :
    items.mapM read = .ok results ↔
      List.Forall₂ (fun item result => read item = .ok result) items results := by
  induction items generalizing results with
  | nil => cases results <;> simp [pure, Except.pure]
  | cons item items ih =>
      rw [List.mapM_cons]
      cases first : read item with
      | error failure => cases results <;> simp [bind, Except.bind, first]
      | ok result =>
          cases results with
          | nil => cases items.mapM read <;> simp [bind, Except.bind, pure, Except.pure]
          | cons other results =>
              rw [List.forall₂_cons, ← ih]
              cases items.mapM read <;> simp [bind, Except.bind, pure, Except.pure, first]

theorem mapM_of_first_error {before after : List α} {item : α} {failure : ε}
    (passed : ∀ other ∈ before, ∃ result, read other = .ok result)
    (failed : read item = .error failure) :
    (before ++ item :: after).mapM read = .error failure := by
  induction before with
  | nil =>
      rw [List.nil_append, List.mapM_cons, failed]
      rfl
  | cons first before ih =>
      obtain ⟨⟨result, passes⟩, others⟩ := List.forall_mem_cons.mp passed
      rw [List.cons_append, List.mapM_cons, passes, ih others]
      rfl

theorem exists_first_error {failure : ε} (failed : items.mapM read = .error failure) :
    ∃ before item after, items = before ++ item :: after ∧
      (∀ other ∈ before, ∃ result, read other = .ok result) ∧ read item = .error failure := by
  induction items with
  | nil => simp [pure, Except.pure] at failed
  | cons item items ih =>
      rw [List.mapM_cons] at failed
      cases first : read item with
      | error earlier =>
          obtain rfl : earlier = failure := by simpa [first, bind, Except.bind] using failed
          exact ⟨[], item, items, rfl, by simp, first⟩
      | ok result =>
          have later : items.mapM read = .error failure := by
            rw [first] at failed
            cases rest : items.mapM read with
            | error other => simpa [rest, bind, Except.bind] using failed
            | ok results => simp [rest, bind, Except.bind, pure, Except.pure] at failed
          obtain ⟨before, other, after, rfl, passed, failed⟩ := ih later
          exact ⟨item :: before, other, after, rfl,
            List.forall_mem_cons.mpr ⟨⟨result, first⟩, passed⟩, failed⟩

theorem mapM_eq_error_iff {failure : ε} :
    items.mapM read = .error failure ↔
      ∃ before item after, items = before ++ item :: after ∧
        (∀ other ∈ before, ∃ result, read other = .ok result) ∧ read item = .error failure := by
  constructor
  · exact exists_first_error
  · rintro ⟨before, item, after, rfl, passed, failed⟩
    exact mapM_of_first_error passed failed

end Lists

namespace Requirement

def readPattern (sectionName text : String) : Except Failure Pattern :=
  match Pattern.ofText? text with
  | none => .error (.badPattern sectionName text)
  | some pattern => .ok pattern

theorem readPattern_eq_ok_iff {sectionName text : String} {pattern : Pattern} :
    readPattern sectionName text = .ok pattern ↔ Pattern.ofText? text = some pattern := by
  rw [readPattern]
  cases Pattern.ofText? text <;> simp

theorem readPattern_eq_error_iff {sectionName text : String} {failure : Failure} :
    readPattern sectionName text = .error failure ↔
      Pattern.ofText? text = none ∧ failure = .badPattern sectionName text := by
  rw [readPattern]
  cases Pattern.ofText? text <;> simp [eq_comm]

theorem readPatterns_eq_mapM (sectionName : String) (texts : List String) :
    readPatterns sectionName texts = texts.mapM (readPattern sectionName) := by
  induction texts with
  | nil => rfl
  | cons text texts ih =>
      rw [List.mapM_cons, ← ih, readPatterns, readPattern]
      cases Pattern.ofText? text <;> rfl

theorem ofRules_eq_mapM (rules : List SectionRule) : ofRules rules = rules.mapM ofRule := by
  induction rules with
  | nil => rfl
  | cons rule rules ih => rw [List.mapM_cons, ← ih, ofRules]

/-- The requirement is the section's, with each of its patterns read and none left out. -/
structure Renders (rule : SectionRule) (requirement : Requirement) : Prop where
  name : requirement.name = rule.name
  content : requirement.rule = rule.content
  patterns : List.Forall₂ (fun text pattern => Pattern.ofText? text = some pattern)
    rule.patterns requirement.patterns

theorem ofRule_eq_ok_iff {rule : SectionRule} {requirement : Requirement} :
    ofRule rule = .ok requirement ↔ Renders rule requirement := by
  have read : ofRule rule = .ok requirement ↔
      requirement.name = rule.name ∧ requirement.rule = rule.content ∧
        readPatterns rule.name rule.patterns = .ok requirement.patterns := by
    obtain ⟨name, content, patterns⟩ := requirement
    rw [ofRule]
    cases readPatterns rule.name rule.patterns <;>
      simp [bind, Except.bind, pure, Except.pure, eq_comm]
  simp only [read, readPatterns_eq_mapM, mapM_eq_ok_iff, readPattern_eq_ok_iff]
  exact ⟨fun ⟨name, content, patterns⟩ => ⟨name, content, patterns⟩,
    fun renders => ⟨renders.name, renders.content, renders.patterns⟩⟩

theorem ofRule_eq_error_iff {rule : SectionRule} {failure : Failure} :
    ofRule rule = .error failure ↔
      ∃ before text after, rule.patterns = before ++ text :: after ∧
        (∀ other ∈ before, Pattern.ofText? other ≠ none) ∧ Pattern.ofText? text = none ∧
        failure = .badPattern rule.name text := by
  have read : ofRule rule = .error failure ↔
      readPatterns rule.name rule.patterns = .error failure := by
    rw [ofRule]
    cases readPatterns rule.name rule.patterns <;> simp [bind, Except.bind, pure, Except.pure]
  simp only [read, readPatterns_eq_mapM, mapM_eq_error_iff, readPattern_eq_ok_iff,
    readPattern_eq_error_iff, Option.ne_none_iff_exists']

/-- In this section stands the first pattern that is none: all of the sections before it can be
read, and so can the patterns before it in its own. -/
def FirstRefused (rules : List SectionRule) (rule : SectionRule) (text : String) : Prop :=
  ∃ earlier later before after, rules = earlier ++ rule :: later ∧
    rule.patterns = before ++ text :: after ∧
    (∀ other ∈ earlier, ∀ accepted ∈ other.patterns, Pattern.ofText? accepted ≠ none) ∧
    (∀ accepted ∈ before, Pattern.ofText? accepted ≠ none) ∧ Pattern.ofText? text = none

theorem ofRules_eq_error_iff {rules : List SectionRule} {failure : Failure} :
    ofRules rules = .error failure ↔
      ∃ rule text, FirstRefused rules rule text ∧ failure = .badPattern rule.name text := by
  simp only [ofRules_eq_mapM, mapM_eq_error_iff, ofRule_isOk_iff, ofRule_eq_error_iff]
  constructor
  · rintro ⟨earlier, rule, later, whole, read, before, text, after, own, accepted, refused, rfl⟩
    exact ⟨rule, text, ⟨earlier, later, before, after, whole, own, read, accepted, refused⟩, rfl⟩
  · rintro ⟨rule, text, ⟨earlier, later, before, after, whole, own, read, accepted, refused⟩, rfl⟩
    exact ⟨earlier, rule, later, whole, read, before, text, after, own, accepted, refused, rfl⟩

theorem Renders.recognizes_iff {rule : SectionRule} {requirement : Requirement}
    (renders : Renders rule requirement) (heading : String) :
    requirement.recognizes heading = true ↔
      ∃ text ∈ rule.patterns, ∃ pattern, Pattern.ofText? text = some pattern ∧
        pattern.occursIn heading.toList = true := by
  obtain ⟨_, _, patterns⟩ := renders
  rw [recognizes, List.any_eq_true]
  generalize rule.patterns = texts, requirement.patterns = found at patterns
  induction patterns with
  | nil => simp
  | cons read _ ih =>
      simp only [List.exists_mem_cons_iff, ih, read, Option.some.injEq, exists_eq_left']

/-- Required sections can be read just if all of their patterns can. They become requirements one
by one, each of which recognizes the headings in which one of its patterns matches somewhere;
what is no operator matches in either case. Otherwise the failure names the first pattern that is
none and the section that it stands in. -/
theorem ofRules_outcome (rules : List SectionRule) :
    ((∃ requirements, ofRules rules = .ok requirements) ↔
      ∀ rule ∈ rules, ∀ text ∈ rule.patterns, Pattern.ofText? text ≠ none) ∧
    (∀ requirements, ofRules rules = .ok requirements →
      List.Forall₂ (fun rule requirement => Renders rule requirement ∧
        ∀ heading : String, requirement.recognizes heading = true ↔
          ∃ text ∈ rule.patterns, ∃ pattern, Pattern.ofText? text = some pattern ∧
            ∃ start stop, start ≤ heading.toList.length ∧
              Pattern.Matches heading.toList pattern start stop) rules requirements) ∧
    (∀ failure, ofRules rules = .error failure ↔
      ∃ rule text, FirstRefused rules rule text ∧ failure = .badPattern rule.name text) ∧
    (∀ rule ∈ rules, ∀ text ∈ rule.patterns, ∀ pattern, Pattern.ofText? text = some pattern →
      (∀ c ∈ text.toList, c ∉ Pattern.operators) → ∀ heading : List Char,
        (∃ start stop, start ≤ heading.length ∧ Pattern.Matches heading pattern start stop) ↔
          ∃ found, found <:+: heading ∧
            List.Forall₂ (fun c letter => letter ∈ Unicode.caseVariants c) found text.toList) := by
  refine ⟨ofRules_isOk_iff rules, ?_, fun failure => ofRules_eq_error_iff, ?_⟩
  · intro requirements read
    rw [ofRules_eq_mapM, mapM_eq_ok_iff] at read
    refine read.imp fun rule requirement given => ?_
    have renders := ofRule_eq_ok_iff.mp given
    refine ⟨renders, fun heading => ?_⟩
    simp only [renders.recognizes_iff, Pattern.occursIn_iff]
  · intro rule _ text _ pattern read plain heading
    rw [← Pattern.occursIn_iff, Pattern.occursIn_of_plain read plain]

end Requirement

end PolicyGate
