import PolicyGate.Proofs.Evidence.BuiltIn
import PolicyGate.Proofs.Evidence.Decision
import PolicyGate.Proofs.Evidence.Heading

/-!
How the keywords work on a body that has all the headings. The headings that the built-in policy
asks for hold three of its keywords themselves, so a section that says nothing does not keep such
a body from being accepted; only template text does. A long s in a heading is the one way out: it
matches the pattern and does not count as the letter of a keyword.
-/

namespace PolicyGate

open Pattern Unicode

theorem eq_of_spelled {found word : List Char}
    (spelled : List.Forall₂ (fun c letter => letter ∈ caseVariants c) found word)
    (small : ∀ c ∈ found, c.isUpper = false)
    (letters : ∀ letter ∈ word, letter.isLower = true ∧ letter ≠ 'k')
    (plain : 's' ∈ word → '\u017F' ∉ found) : found = word := by
  induction spelled with
  | nil => rfl
  | @cons c letter found word member _ ih =>
      obtain ⟨lower, notK⟩ := letters letter List.mem_cons_self
      have rest := ih (fun c among => small c (List.mem_cons_of_mem _ among))
        (fun letter among => letters letter (List.mem_cons_of_mem _ among))
        (fun among long => plain (List.mem_cons_of_mem _ among) (List.mem_cons_of_mem _ long))
      rcases eq_of_mem_caseVariants lower (small c List.mem_cons_self) member with
        same | ⟨rfl, rfl⟩ | ⟨_, same⟩
      · rw [same, rest]
      · exact absurd List.mem_cons_self (plain List.mem_cons_self)
      · exact absurd same notK

namespace BodySection

theorem not_isUpper_of_mem_preamble {c : Char} (member : c ∈ preamble) : c.isUpper = false := by
  have small : preamble.all (fun c => !c.isUpper) = true := by decide
  simpa using List.all_eq_true.mp small c member

theorem not_isUpper_of_mem_heading {body : String} {part : BodySection}
    (member : part ∈ split body) : ∀ c ∈ part.heading.toList, c.isUpper = false := by
  intro c among
  rcases heading_infix member with first | inside
  · rw [first] at among
    exact not_isUpper_of_mem_preamble among
  · exact not_isUpper_of_mem_normalChars (inside.subset among)

theorem longS_of_mem_heading {body : String} {part : BodySection} (member : part ∈ split body)
    (long : '\u017F' ∈ part.heading.toList) : '\u017F' ∈ body.toList := by
  rcases heading_infix member with first | inside
  · rw [first] at long
    exact absurd long (by decide)
  · exact longS_of_mem_normalChars (inside.subset long)

end BodySection

theorem Requirement.spelled_of_recognizes {requirement : Requirement} {word : List Char}
    (begins : ∀ pattern ∈ requirement.patterns, ∃ tail, pattern = spelling word tail)
    {heading : String} (matching : requirement.recognizes heading = true) :
    ∃ found, found <:+: heading.toList ∧
      List.Forall₂ (fun c letter => letter ∈ caseVariants c) found word := by
  obtain ⟨pattern, among, occurs⟩ := List.any_eq_true.mp matching
  obtain ⟨tail, rfl⟩ := begins pattern among
  exact occursIn_spelling occurs

theorem word_infix {requirement : Requirement} {word : List Char}
    (begins : ∀ pattern ∈ requirement.patterns, ∃ tail, pattern = spelling word tail)
    (letters : ∀ letter ∈ word, letter.isLower = true ∧ letter ≠ 'k')
    (elsewhere : ¬ word <:+: BodySection.preamble) {body : String} {part : BodySection}
    (member : part ∈ BodySection.split body)
    (matching : requirement.recognizes part.heading = true)
    (plain : 's' ∈ word → '\u017F' ∉ body.toList) : word <:+: normalChars body.toList := by
  obtain ⟨found, inside, spelled⟩ := requirement.spelled_of_recognizes begins matching
  have same : found = word := by
    apply eq_of_spelled spelled
    · intro c among
      exact BodySection.not_isUpper_of_mem_heading member c (inside.subset among)
    · exact letters
    · intro among long
      exact plain among (BodySection.longS_of_mem_heading member (inside.subset long))
  subst same
  rcases BodySection.heading_infix member with first | whole
  · exact absurd (first ▸ inside) elsewhere
  · exact inside.trans whole

theorem builtIn_begins :
    ∀ word ∈ ["security", "release", "threat"], ∃ requirement ∈ EvidenceRule.builtIn.requirements,
      ∀ pattern ∈ requirement.patterns, ∃ tail, pattern = spelling word.toList tail := by
  have security : ∀ pattern ∈ Requirement.securityImpact.patterns,
      ∃ tail, pattern = spelling "security".toList tail := by
    simp only [Requirement.securityImpact, List.forall_mem_cons]
    exact ⟨⟨privacyTail, rfl⟩, ⟨plainPattern " impact", rfl⟩, by simp⟩
  have release : ∀ pattern ∈ Requirement.releaseNotes.patterns,
      ∃ tail, pattern = spelling "release".toList tail := by
    simp only [Requirement.releaseNotes, List.forall_mem_cons]
    exact ⟨⟨plainPattern " notes", rfl⟩, ⟨plainPattern " note", rfl⟩, by simp⟩
  have threat : ∀ pattern ∈ Requirement.threatModel.patterns,
      ∃ tail, pattern = spelling "threat".toList tail := by
    simp only [Requirement.threatModel, List.forall_mem_cons]
    exact ⟨⟨plainPattern " model", rfl⟩, ⟨plainPattern "-model", rfl⟩, by simp⟩
  simp only [List.forall_mem_cons, List.not_mem_nil, false_implies, implies_true, and_true]
  exact ⟨⟨_, by simp [EvidenceRule.builtIn], security⟩, ⟨_, by simp [EvidenceRule.builtIn], release⟩,
    ⟨_, by simp [EvidenceRule.builtIn], threat⟩⟩

theorem builtIn_letters :
    ∀ word ∈ ["security", "release", "threat"],
      (∀ letter ∈ word.toList, letter.isLower = true ∧ letter ≠ 'k') ∧
        ¬ word.toList <:+: BodySection.preamble ∧ lowercase word.toList = word.toList := by
  have checked : ∀ word ∈ ["security", "release", "threat"],
      word.toList.all (fun letter => letter.isLower && letter != 'k') = true ∧
        Text.contains word.toList BodySection.preamble = false ∧
        lowercase word.toList = word.toList := by
    decide
  intro word member
  obtain ⟨letters, elsewhere, lower⟩ := checked word member
  refine ⟨fun letter among => ?_, ?_, lower⟩
  · have both := List.all_eq_true.mp letters letter among
    rwa [Bool.and_eq_true, bne_iff_ne] at both
  · rw [← Text.contains_iff, elsewhere]
    exact Bool.false_ne_true

theorem three_keywords {body : String}
    (headed : ∀ requirement ∈ EvidenceRule.builtIn.requirements,
      ∃ part ∈ BodySection.split body, requirement.recognizes part.heading = true)
    (plain : '\u017F' ∉ body.toList) :
    3 ≤ (foundKeywords Policy.builtIn.transitional.keywords (normalChars body.toList)).length := by
  have stands : ∀ word ∈ ["security", "release", "threat"],
      Text.contains (lowercase word.toList) (normalChars body.toList) = true := by
    intro word member
    obtain ⟨letters, elsewhere, lower⟩ := builtIn_letters word member
    obtain ⟨requirement, among, begins⟩ := builtIn_begins word member
    obtain ⟨part, inside, matching⟩ := headed requirement among
    rw [lower, Text.contains_iff]
    exact word_infix begins letters elsewhere inside matching fun _ => plain
  have sublist : ["security", "release", "threat"].Sublist Policy.builtIn.transitional.keywords :=
    List.isSublist_iff_sublist.mp (by decide)
  have counted := (sublist.filter fun word =>
    Text.contains (lowercase word.toList) (normalChars body.toList)).length_le
  rwa [List.filter_eq_self.mpr stands] at counted

/-- A body with all headings and a section that fails its rule. Only template text, or too few
keywords, keep it from passing, and too few keywords there are only beside a long s. -/
theorem structured_body_verdict {evidence : EvidenceRule}
    (reads : EvidenceRule.ofPolicy .builtIn = .ok evidence) {body : String}
    (headed : ∀ requirement ∈ evidence.requirements,
      ∃ part ∈ BodySection.split body, requirement.recognizes part.heading = true)
    {requirement : Requirement} (member : requirement ∈ evidence.requirements)
    {part : BodySection} (selects : requirement.Selects (BodySection.split body) part)
    (fails : requirement.rule.accepts part.text = false) :
    ∃ first, FirstUnmet evidence.requirements (BodySection.split body) first ∧
      (evidence.verdict body =
        if isTemplate body = true ∨ (foundKeywords Policy.builtIn.transitional.keywords
            (normalChars body.toList)).length < 3
          then .missing first.name else .transitional) ∧
      ('\u017F' ∉ body.toList → evidence.verdict body =
        if isTemplate body = true then .missing first.name else .transitional) := by
  rw [EvidenceRule.ofPolicy_builtIn, Except.ok.injEq] at reads
  subst reads
  have unmet : requirement.isMet (BodySection.split body) = false := by rw [selects.isMet, fails]
  obtain ⟨first, firstUnmet⟩ := exists_firstUnmet member unmet
  have exactly := EvidenceRule.builtIn.verdict_of_firstUnmet body firstUnmet
  refine ⟨first, firstUnmet, exactly, fun plain => ?_⟩
  have many : ¬ (foundKeywords EvidenceRule.builtIn.transitional.keywords
      (normalChars body.toList)).length < EvidenceRule.builtIn.transitional.minKeywords :=
    Nat.not_lt.mpr (three_keywords headed plain)
  rw [exactly]
  simp only [many, or_false]

/-- All headings, and under them nothing that says anything. -/
def dismissiveBody : String :=
  "## Threat Model\nN/A\n## Security Impact\nN/A\n## AI and Data Impact\nN/A\n" ++
    "## Verification Evidence\nN/A\n## Release Notes\nNone"

theorem toList_dismissiveBody : dismissiveBody.toList =
    "## Threat Model\nN/A\n## Security Impact\nN/A\n## AI and Data Impact\nN/A\n".toList ++
      "## Verification Evidence\nN/A\n## Release Notes\nNone".toList :=
  String.toList_append

theorem split_dismissiveBody : BodySection.split dismissiveBody =
    [⟨"_preamble", ""⟩, ⟨"threat model", "N/A"⟩, ⟨"security impact", "N/A"⟩,
      ⟨"ai and data impact", "N/A"⟩, ⟨"verification evidence", "N/A"⟩,
      ⟨"release notes", "None"⟩] := by
  rw [BodySection.split, toList_dismissiveBody]
  decide

theorem recognized_headings :
    Requirement.threatModel.recognizes "_preamble" = false ∧
    Requirement.threatModel.recognizes "threat model" = true ∧
    Requirement.securityImpact.recognizes "security impact" = true ∧
    Requirement.dataImpact.recognizes "ai and data impact" = true ∧
    Requirement.verificationEvidence.recognizes "verification evidence" = true ∧
    Requirement.releaseNotes.recognizes "release notes" = true := by
  decide +kernel

theorem dismissiveBody_headed :
    ∀ requirement ∈ EvidenceRule.builtIn.requirements,
      ∃ part ∈ BodySection.split dismissiveBody, requirement.recognizes part.heading = true := by
  rw [split_dismissiveBody]
  simp [EvidenceRule.builtIn, recognized_headings]

theorem dismissiveBody_selects :
    Requirement.threatModel.Selects (BodySection.split dismissiveBody) ⟨"threat model", "N/A"⟩ := by
  obtain ⟨passed, recognized, -⟩ := recognized_headings
  rw [Requirement.selects_iff, split_dismissiveBody, List.find?_cons_of_neg (by simp [passed])]
  exact List.find?_cons_of_pos recognized

theorem structured_body_verdict_dismissiveBody :
    ∃ first, FirstUnmet EvidenceRule.builtIn.requirements (BodySection.split dismissiveBody) first ∧
      (EvidenceRule.builtIn.verdict dismissiveBody =
        if isTemplate dismissiveBody = true ∨ (foundKeywords Policy.builtIn.transitional.keywords
            (normalChars dismissiveBody.toList)).length < 3
          then .missing first.name else .transitional) ∧
      ('\u017F' ∉ dismissiveBody.toList → EvidenceRule.builtIn.verdict dismissiveBody =
        if isTemplate dismissiveBody = true then .missing first.name else .transitional) :=
  structured_body_verdict EvidenceRule.ofPolicy_builtIn dismissiveBody_headed List.mem_cons_self
    dismissiveBody_selects (by decide +kernel)

/-- Every section but the release notes is dismissed, and the body is accepted. -/
theorem dismissiveBody_accepted :
    ¬ ∀ (evidence : EvidenceRule) (body : String), EvidenceRule.ofPolicy .builtIn = .ok evidence →
      (∀ requirement ∈ evidence.requirements,
        ∃ part ∈ BodySection.split body, requirement.recognizes part.heading = true) →
      ∀ requirement ∈ evidence.requirements, ∀ part,
        requirement.Selects (BodySection.split body) part →
        requirement.rule.accepts part.text = false →
        (part.text = "" ∨ normalForm part.text ∈ dismissals) →
        ∃ first, FirstUnmet evidence.requirements (BodySection.split body) first ∧
          evidence.verdict body = .missing first.name := by
  intro always
  obtain ⟨first, unmet, missing⟩ := always .builtIn dismissiveBody EvidenceRule.ofPolicy_builtIn
    dismissiveBody_headed .threatModel List.mem_cons_self ⟨"threat model", "N/A"⟩
    dismissiveBody_selects (by decide +kernel) (Or.inr (by decide +kernel))
  have enough : ¬ (isTemplate dismissiveBody = true ∨
      (foundKeywords EvidenceRule.builtIn.transitional.keywords
        (normalChars dismissiveBody.toList)).length <
          EvidenceRule.builtIn.transitional.minKeywords) := by
    decide +kernel
  rw [EvidenceRule.builtIn.verdict_of_firstUnmet _ unmet, if_neg enough] at missing
  exact absurd missing (by simp)

end PolicyGate
