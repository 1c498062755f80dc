import PolicyGate.Proofs.Text.Lines
import PolicyGate.Proofs.Text.Runs
import PolicyGate.Proofs.Unicode.LowerCase

/-!
The normal form of a text is its own normal form. Its words are those of the text in lower case,
so blanks around the text leave it alone, and a text of blanks has the empty one.
-/

namespace PolicyGate

open Unicode

theorem words_normalChars (text : List Char) :
    Text.words (normalChars text) = (Text.words text).map lowercase := by
  rw [normalChars_eq]
  apply Text.words_intercalate
  intro word member
  obtain ⟨source, among, rfl⟩ := List.mem_map.mp member
  obtain ⟨nonempty, visible⟩ := Text.mem_words among
  exact ⟨lowercase_ne_nil nonempty, fun c inside =>
    not_isBlank_of_mem_lowercase (fun c member => (visible c member).2) inside⟩

theorem normalChars_normalChars (text : List Char) :
    normalChars (normalChars text) = normalChars text := by
  rw [normalChars_eq (normalChars text), words_normalChars, List.map_map, normalChars_eq]
  congr 1
  exact List.map_congr_left fun word _ => lowercase_lowercase word

theorem normalChars_append_of_blank {blanks : List Char}
    (blank : ∀ c ∈ blanks, Text.isBlank c = true) (text : List Char) :
    normalChars (blanks ++ text) = normalChars text := by
  rw [normalChars, normalChars, Text.words_append_of_blank blank]

theorem normalChars_eq_nil_iff (text : List Char) :
    normalChars text = [] ↔ ∀ c ∈ text, Text.isBlank c = true := by
  rw [← Text.words_eq_nil_iff]
  constructor
  · intro empty
    have none := words_normalChars text
    rw [empty, Text.words_nil] at none
    exact List.map_eq_nil_iff.mp none.symm
  · intro none
    rw [normalChars, none]
    rfl

theorem normalForm_of_words {text other : String}
    (same : Text.words other.toList = Text.words text.toList) :
    normalForm other = normalForm text := by
  rw [normalForm, normalForm, normalChars, normalChars, same]

/-- The normal form puts the words of a text into lower case each by itself, whatever stands around
them, with one blank between two of them and none elsewhere. So it depends on the words alone. -/
theorem normalForm_word_by_word (text : String) :
    ∃ parts, Text.Worded text.toList parts ∧
      (normalForm text).toList = [' '].intercalate (parts.map lowercase) ∧
      (∀ part ∈ parts.map lowercase, part ≠ [] ∧ ∀ c ∈ part, Text.isBlank c = false) ∧
      Text.Worded (normalForm text).toList (parts.map lowercase) ∧
      normalForm (normalForm text) = normalForm text ∧
      ∀ other : String, Text.Worded other.toList parts → normalForm other = normalForm text := by
  have chars : (normalForm text).toList = normalChars text.toList := String.toList_ofList
  refine ⟨Text.words text.toList, (Text.worded_iff _ _).mpr rfl, ?_, ?_, ?_, ?_, ?_⟩
  · rw [chars, normalChars_eq]
  · intro part member
    rw [← words_normalChars] at member
    obtain ⟨nonempty, visible⟩ := Text.mem_words member
    exact ⟨nonempty, fun c among => (visible c among).2⟩
  · rw [chars, Text.worded_iff, words_normalChars]
  · rw [normalForm, chars, normalChars_normalChars, normalForm]
  · intro other worded
    exact normalForm_of_words worded.words_eq

end PolicyGate
