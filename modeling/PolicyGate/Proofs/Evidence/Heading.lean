import PolicyGate.Proofs.Evidence.Ownership
import PolicyGate.Proofs.Text.Pieces
import PolicyGate.Proofs.Unicode.Letters

/-!
Headings as a part of the body. What a heading says in its normal form, the normal form of the
whole body says as well.
-/

namespace PolicyGate.BodySection

open Unicode

/-- A line opens a section when it goes on behind two number signs, and the heading is what
follows them in its normal form. -/
theorem headingOf?_eq_some_iff (line key : List Char) :
    headingOf? line = some key ↔
      ∃ rest, rest ≠ [] ∧ line = '#' :: '#' :: rest ∧ key = normalChars rest := by
  constructor
  · intro opens
    unfold headingOf? at opens
    split at opens
    · next c rest => exact ⟨c :: rest, List.cons_ne_nil _ _, rfl, (Option.some.inj opens).symm⟩
    · simp at opens
  · rintro ⟨rest, nonempty, rfl, rfl⟩
    cases rest with
    | nil => exact absurd rfl nonempty
    | cons c rest => rfl

theorem normalChars_marked (text : List Char) :
    normalChars text <:+ normalChars ('#' :: '#' :: text) := by
  have joins : ∀ c ∈ ['#', '#'], Text.isBlank c = false := by simp [Text.isBlank]
  have passes : ∀ word, lowercase (['#', '#'] ++ word) = ['#', '#'] ++ lowercase word :=
    fun _ => rfl
  rw [normalChars_eq, normalChars_eq]
  exact Text.intercalate_words_suffix lowercase joins passes text

theorem normalChars_line {body line : List Char} (member : line ∈ Text.lines body) :
    normalChars line <:+: normalChars body := by
  obtain ⟨before, after, rfl, opens, closes⟩ := Text.mem_lines member
  rw [normalChars_eq, normalChars_eq]
  exact Text.intercalate_infix [' '] ((Text.words_infix line opens closes).map lowercase)

theorem heading_infix {body : String} {part : BodySection} (member : part ∈ split body) :
    part.heading.toList = preamble ∨ part.heading.toList <:+: normalChars body.toList := by
  refine (heading_of_mem_split member).imp_right fun ⟨line, among, opens⟩ => ?_
  obtain ⟨rest, _, rfl, normal⟩ := (headingOf?_eq_some_iff _ _).mp opens
  rw [normal]
  exact (normalChars_marked _).isInfix.trans (normalChars_line among)

end PolicyGate.BodySection
