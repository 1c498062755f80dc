import Mathlib.Algebra.BigOperators.Group.Finset.Basic
import PolicyGate.Evidence.Verdict
import PolicyGate.Proofs.Evidence.Decision
import PolicyGate.Proofs.Text.Pieces

/-!
What the keywords of a policy count for. How often a word stands in the body does not matter, but
how often it stands in the policy does: a list that says one word twice, in whatever case, needs
fewer different words in the body than its number says.
-/

namespace PolicyGate

open Unicode

def loweredKeywords (keywords : List String) : List (List Char) :=
  keywords.map fun keyword => lowercase keyword.toList

/-- The different words among the keywords, in lower case, that stand in a text. -/
def distinctKeywords (keywords : List String) (text : List Char) : Finset (List Char) :=
  (loweredKeywords keywords).toFinset.filter (· <:+: text)

theorem length_foundKeywords (keywords : List String) (text : List Char) :
    (foundKeywords keywords text).length =
      ((loweredKeywords keywords).filter fun word => Text.contains word text).length := by
  rw [loweredKeywords, List.filter_map, List.length_map]
  rfl

theorem distinctKeywords_eq (keywords : List String) (text : List Char) :
    distinctKeywords keywords text =
      ((loweredKeywords keywords).filter fun word => Text.contains word text).toFinset := by
  ext word
  simp [distinctKeywords, Text.contains_iff]

theorem length_foundKeywords_eq_sum (keywords : List String) (text : List Char) :
    (foundKeywords keywords text).length =
      ∑ word ∈ distinctKeywords keywords text, (loweredKeywords keywords).countP (· = word) := by
  rw [length_foundKeywords, ← List.sum_toFinset_count_eq_length, ← distinctKeywords_eq]
  apply Finset.sum_congr rfl
  intro word member
  have found : Text.contains word text = true := by
    rw [Text.contains_iff]
    exact (Finset.mem_filter.mp member).2
  have filtered := List.countP_filter (p := (· = word))
    (q := fun word => Text.contains word text) (l := loweredKeywords keywords)
  refine filtered.trans (List.countP_congr fun other _ => ?_)
  constructor
  · intro both
    exact (Bool.and_eq_true _ _ ▸ both).1
  · intro same
    rw [decide_eq_true_eq] at same
    simp [same, found]

theorem card_distinctKeywords_le (keywords : List String) (text : List Char) :
    (distinctKeywords keywords text).card ≤ (foundKeywords keywords text).length := by
  rw [distinctKeywords_eq, length_foundKeywords]
  exact List.toFinset_card_le _

theorem card_distinctKeywords_of_nodup {keywords : List String}
    (distinct : (loweredKeywords keywords).Nodup) (text : List Char) :
    (distinctKeywords keywords text).card = (foundKeywords keywords text).length := by
  rw [distinctKeywords_eq, length_foundKeywords]
  exact List.toFinset_card_of_nodup (distinct.filter _)

namespace TransitionalRule

variable (rule : TransitionalRule) (body : String)

def HasEnoughWords : Prop :=
  isTemplate body = false ∧
    rule.minKeywords ≤ (distinctKeywords rule.keywords (normalChars body.toList)).card

/-- The entries of the list are counted, not the words. Enough words are always enough entries,
and where no word has two entries both say the same. -/
theorem isMetBy_counts_entries :
    (rule.isMetBy body = true ↔ isTemplate body = false ∧ rule.minKeywords ≤
      ∑ word ∈ distinctKeywords rule.keywords (normalChars body.toList),
        (loweredKeywords rule.keywords).countP (· = word)) ∧
    (rule.HasEnoughWords body → rule.isMetBy body = true) ∧
    ((loweredKeywords rule.keywords).Nodup →
      (rule.isMetBy body = true ↔ rule.HasEnoughWords body)) := by
  refine ⟨?_, ?_, ?_⟩
  · rw [isMetBy_iff, length_foundKeywords_eq_sum]
  · rintro ⟨noTemplate, enough⟩
    have more := card_distinctKeywords_le rule.keywords (normalChars body.toList)
    exact (rule.isMetBy_iff body).mpr ⟨noTemplate, enough.trans more⟩
  · intro distinct
    rw [isMetBy_iff, HasEnoughWords, card_distinctKeywords_of_nodup distinct]

theorem isMetBy_counts_entries_builtIn :
    (loweredKeywords Policy.builtIn.transitional.keywords).Nodup ∧
      Policy.builtIn.transitional.HasEnoughWords "Security: RISK is low, no data. risk, Risk." ∧
      Policy.builtIn.transitional.isMetBy "Security: RISK is low, no data. risk, Risk." = true ∧
      (Policy.builtIn.transitional.isMetBy "security risk, risk and Risk" = true ↔
        Policy.builtIn.transitional.HasEnoughWords "security risk, risk and Risk") := by
  have distinct : (loweredKeywords Policy.builtIn.transitional.keywords).Nodup := by
    decide +kernel
  have enough : Policy.builtIn.transitional.HasEnoughWords
      "Security: RISK is low, no data. risk, Risk." := by
    unfold HasEnoughWords
    decide +kernel
  obtain ⟨_, sufficient, _⟩ := isMetBy_counts_entries Policy.builtIn.transitional
    "Security: RISK is low, no data. risk, Risk."
  obtain ⟨_, _, exact⟩ := isMetBy_counts_entries Policy.builtIn.transitional
    "security risk, risk and Risk"
  exact ⟨distinct, enough, sufficient enough, exact distinct⟩

theorem repeatedKeyword_counts_twice :
    ¬ ∀ (rule : TransitionalRule) (body : String),
      rule.isMetBy body = true ↔ rule.HasEnoughWords body := by
  intro always
  have met : (⟨["Risk", "risk"], 2⟩ : TransitionalRule).isMetBy "The risk is low." = true := by
    decide +kernel
  have few : ¬ (⟨["Risk", "risk"], 2⟩ : TransitionalRule).HasEnoughWords "The risk is low." := by
    unfold HasEnoughWords
    decide +kernel
  exact few ((always _ _).mp met)

end TransitionalRule

end PolicyGate
