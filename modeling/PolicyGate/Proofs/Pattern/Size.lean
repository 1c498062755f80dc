import PolicyGate.Proofs.Pattern.Spelling

/-!
Bounds for the size of a pattern from the sizes of its parts.
-/

namespace PolicyGate.Pattern

variable {backward : Bool} {m n : Nat}

theorem size_seq_le {first second : Pattern} (here : first.size backward ≤ m)
    (there : second.size backward ≤ n) : (seq first second).size backward ≤ m + n := by
  rw [size, sizes]
  split
  · exact Nat.le_trans there (Nat.le_add_left ..)
  · split
    · exact Nat.le_trans here (Nat.le_add_right ..)
    · exact Nat.add_le_add here there

theorem branchSize_le (backward : Bool) {pattern : Pattern} (mixed : pattern.set? = none) :
    (pattern.sizes backward).2 ≤ pattern.size backward + linkSize := by
  cases pattern with
  | either left right =>
      simp only [size, sizes, mixed]
      omega
  | seq first second =>
      rw [size, sizes]
      split
      · exact Nat.le_refl _
      · split <;> exact Nat.le_refl _
  | _ => exact Nat.le_refl _

theorem size_either_le {left right : Pattern} (here : left.size backward ≤ m)
    (there : right.size backward ≤ n) (mixed : left.set? = none) (mixed' : right.set? = none) :
    (either left right).size backward ≤ m + n + 2 * stateSize + 2 * linkSize := by
  have first := branchSize_le backward mixed
  have second := branchSize_le backward mixed'
  have joined : set? (either left right) = none := by simp [set?, mixed]
  simp only [size, sizes, joined] at *
  omega

def commonSigns : List Char := " -/:[acdefhilmnoprstuvwyBDMOPRT".toList

theorem size_commonSigns :
    ∀ c ∈ commonSigns, ∀ backward, (literal {} c).size backward ≤ 300 := by
  have small (backward : Bool) :
      (commonSigns.all fun c => (literal {} c).size backward ≤ 300) = true := by
    cases backward <;> decide +kernel
  intro c member backward
  exact of_decide_eq_true (List.all_eq_true.mp (small backward) c member)

theorem size_spelling_le {word : List Char} {tail : Pattern} (common : word ⊆ commonSigns)
    (there : tail.size backward ≤ n) :
    (spelling word tail).size backward ≤ 300 * word.length + n := by
  induction word with
  | nil => simpa [spelling] using there
  | cons c word ih =>
      rw [List.cons_subset] at common
      have joined : (spelling (c :: word) tail).size backward ≤ 300 + (300 * word.length + n) :=
        size_seq_le (size_commonSigns c common.1 backward) (ih common.2)
      rw [List.length_cons]
      omega

theorem isSmall_of_size_le {pattern : Pattern}
    (bounded : ∀ backward, pattern.size backward ≤ 1000000) : pattern.IsSmall := by
  have forward := bounded false
  have back := bounded true
  have limit : sizeLimit = 10485760 := rfl
  simp only [IsSmall, stateSize, linkSize, limit]
  omega

end PolicyGate.Pattern
