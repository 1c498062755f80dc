import PolicyGate.Proofs.Unicode.Tables
import PolicyGate.Text.Blank
import PolicyGate.Unicode.Property

/-! White space and words have no character in common, so a blank is a word boundary on both
sides. -/

namespace PolicyGate.Unicode

def wideBlanks : List (Nat × Nat) :=
  [(0x85, 0x85), (0xA0, 0xA0), (0x1680, 0x1680), (0x2000, 0x200A), (0x2028, 0x2029),
    (0x202F, 0x202F), (0x205F, 0x205F), (0x3000, 0x3000)]

theorem mem_wideBlanks (c : Char) (blank : Text.isBlank c = true) (wide : 128 ≤ c.toNat) :
    ∃ range ∈ wideBlanks, range.1 ≤ c.toNat ∧ c.toNat ≤ range.2 := by
  simp only [Text.isBlank, Bool.or_eq_true, Bool.and_eq_true, decide_eq_true_eq, beq_iff_eq]
    at blank
  simp only [wideBlanks, List.mem_cons, List.not_mem_nil, or_false, exists_eq_or_imp,
    exists_eq_left]
  omega

def clearOfBlanks (first last : Nat) : Bool :=
  wideBlanks.all fun range => Nat.blt range.2 first || Nat.blt last range.1

def SparesBlanks (set : CharSet) : Prop :=
  ∀ c, Text.isBlank c = true → 128 ≤ c.toNat → set.mem c = false

theorem sparesBlanks_ofText (text : List Char)
    (clear : RangeTable.checkEntries clearOfBlanks none none text = true) :
    SparesBlanks (.ofText (.ofList text)) := by
  intro c blank wide
  rw [Bool.eq_false_iff]
  intro member
  obtain ⟨first, last, low, high, apart⟩ := CharSet.checked_of_mem_ofText clear member
  obtain ⟨range, among, least, greatest⟩ := mem_wideBlanks c blank wide
  have outside := List.all_eq_true.mp apart range among
  simp only [Bool.or_eq_true, Nat.blt_eq] at outside
  omega

theorem SparesBlanks.unionAll {sets : List CharSet} (all : ∀ set ∈ sets, SparesBlanks set) :
    SparesBlanks (.unionAll sets) := by
  intro c blank wide
  rw [CharSet.mem_unionAll, List.any_eq_false]
  intro set member
  simp [all set member c blank wide]

theorem SparesBlanks.union {left right : CharSet} (first : SparesBlanks left)
    (second : SparesBlanks right) : SparesBlanks (.union left right) := by
  intro c blank wide
  simp [CharSet.mem, first c blank wide, second c blank wide]

open Category Property

set_option maxRecDepth 20000

theorem sparesBlanks_uppercaseLetter : SparesBlanks uppercaseLetter :=
  sparesBlanks_ofText _ (by decide)

theorem sparesBlanks_lowercaseLetter : SparesBlanks lowercaseLetter :=
  sparesBlanks_ofText _ (by decide)

theorem sparesBlanks_letter : SparesBlanks letter := by
  apply SparesBlanks.unionAll
  simp only [List.forall_mem_cons, List.not_mem_nil, false_implies, implies_true, and_true]
  exact ⟨sparesBlanks_uppercaseLetter, sparesBlanks_lowercaseLetter,
    sparesBlanks_ofText _ (by decide), sparesBlanks_ofText _ (by decide),
    sparesBlanks_ofText _ (by decide)⟩

theorem sparesBlanks_mark : SparesBlanks mark := by
  apply SparesBlanks.unionAll
  simp only [List.forall_mem_cons, List.not_mem_nil, false_implies, implies_true, and_true]
  exact ⟨sparesBlanks_ofText _ (by decide), sparesBlanks_ofText _ (by decide),
    sparesBlanks_ofText _ (by decide)⟩

theorem sparesBlanks_alphabetic : SparesBlanks alphabetic := by
  apply SparesBlanks.unionAll
  simp only [List.forall_mem_cons, List.not_mem_nil, false_implies, implies_true, and_true]
  exact ⟨sparesBlanks_letter, sparesBlanks_ofText _ (by decide),
    sparesBlanks_lowercaseLetter.union (sparesBlanks_ofText _ (by decide)),
    sparesBlanks_uppercaseLetter.union (sparesBlanks_ofText _ (by decide)),
    sparesBlanks_ofText _ (by decide)⟩

theorem sparesBlanks_joinControl : SparesBlanks joinControl := by
  intro c blank wide
  obtain ⟨range, among, first, last⟩ := mem_wideBlanks c blank wide
  simp only [wideBlanks, List.mem_cons, List.not_mem_nil, or_false] at among
  simp only [joinControl, CharSet.mem, Bool.and_eq_false_iff, decide_eq_false_iff_not]
  rcases among with rfl | rfl | rfl | rfl | rfl | rfl | rfl | rfl <;> omega

theorem sparesBlanks_word : SparesBlanks word := by
  apply SparesBlanks.unionAll
  simp only [List.forall_mem_cons, List.not_mem_nil, false_implies, implies_true, and_true]
  exact ⟨sparesBlanks_alphabetic, sparesBlanks_mark, sparesBlanks_ofText _ (by decide),
    sparesBlanks_ofText _ (by decide), sparesBlanks_joinControl⟩

theorem not_isWord_of_isBlank (c : Char) (blank : Text.isBlank c = true) : isWord c = false := by
  by_cases ascii : c.toNat < 128
  · have apart := forall_ascii (fun c => !Text.isBlank c || !isWord c) (by decide) c ascii
    rwa [blank, Bool.not_true, Bool.false_or, Bool.not_eq_true'] at apart
  · rw [isWord, if_neg ascii]
    exact sparesBlanks_word c blank (by omega)

end PolicyGate.Unicode
