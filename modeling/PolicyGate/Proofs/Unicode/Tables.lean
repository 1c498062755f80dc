import PolicyGate.Unicode.CharSet

/-!
Membership in a table, said of the entries that its text writes: a table holds no point that none
of them covers.
-/

namespace PolicyGate.Unicode

theorem forall_ascii (holds : Char → Bool)
    (checked : (List.range 128).all (fun point => holds (Char.ofNat point)) = true) (c : Char)
    (ascii : c.toNat < 128) : holds c = true := by
  have found := List.all_eq_true.mp checked c.toNat (List.mem_range.mpr ascii)
  rwa [Char.ofNat_toNat] at found

namespace RangeTable

theorem containsBetween_covers (ranges : Array (Nat × Nat)) (point low high : Nat)
    (found : containsBetween ranges point low high = true) :
    ∃ entry ∈ ranges.toList, entry.1 ≤ point ∧ point ≤ entry.2 := by
  fun_induction containsBetween ranges point low high with
  | case1 => simp at found
  | case2 low high open_ middle first last entry below ih => exact ih found
  | case3 low high open_ middle first last entry notBelow above ih => exact ih found
  | case4 low high open_ middle first last entry notBelow notAbove =>
      refine ⟨(first, last), ?_, by omega, by omega⟩
      exact Array.mem_toList_iff.mpr (Array.mem_of_getElem? entry)
  | case5 => simp at found

def checkEntry (check : Nat → Nat → Bool) (first : Option Nat) : Option Nat → Bool
  | none => true
  | some last => check (first.getD last) last

/-- Checks every entry of a text while it is read. The tests are on numbers, which is what makes
the check of a large table cheap. -/
def checkEntries (check : Nat → Nat → Bool) (first number : Option Nat) : List Char → Bool
  | [] => checkEntry check first number
  | c :: rest =>
    bif Nat.beq c.toNat 45 then checkEntries check number none rest
    else bif Nat.beq c.toNat 32 || Nat.beq c.toNat 10 then
      checkEntry check first number && checkEntries check none none rest
    else checkEntries check first (some (16 * number.getD 0 + digitValue c)) rest

theorem beq_toNat_iff (c d : Char) : Nat.beq c.toNat d.toNat = true ↔ c = d := by
  rw [Nat.beq_eq, Char.toNat_inj]

theorem mem_closeEntry {check : Nat → Nat → Bool} {found : Array (Nat × Nat)}
    {first number : Option Nat} {entry : Nat × Nat} (checked : checkEntry check first number = true)
    (member : entry ∈ (closeEntry found first number).toList) :
    entry ∈ found.toList ∨ check entry.1 entry.2 = true := by
  cases number with
  | none => exact Or.inl member
  | some last =>
      simp only [closeEntry, Array.toList_push, List.mem_append, List.mem_singleton] at member
      rcases member with earlier | rfl
      · exact Or.inl earlier
      · exact Or.inr checked

theorem checkEntries_sound {check : Nat → Nat → Bool} {text : List Char}
    {found : Array (Nat × Nat)} {first number : Option Nat} {entry : Nat × Nat}
    (checked : checkEntries check first number text = true)
    (member : entry ∈ (entriesFrom found first number text).toList) :
    entry ∈ found.toList ∨ check entry.1 entry.2 = true := by
  have hyphen (c : Char) : Nat.beq c.toNat 45 = true ↔ c = '-' := beq_toNat_iff c '-'
  have blank (c : Char) :
      (Nat.beq c.toNat 32 || Nat.beq c.toNat 10) = true ↔ c = ' ' ∨ c = '\n' := by
    rw [Bool.or_eq_true]
    exact or_congr (beq_toNat_iff c ' ') (beq_toNat_iff c '\n')
  fun_induction entriesFrom found first number text with
  | case1 found first number => exact mem_closeEntry checked member
  | case2 found first number rest ih => exact ih checked member
  | case3 found first number c rest notHyphen isBlank ih =>
      have other := Bool.eq_false_iff.mpr fun equal => notHyphen ((hyphen c).mp equal)
      simp only [checkEntries, other, (blank c).mpr isBlank, cond_true, cond_false,
        Bool.and_eq_true] at checked
      rcases ih checked.2 member with closed | good
      · exact mem_closeEntry checked.1 closed
      · exact Or.inr good
  | case4 found first number c rest notHyphen notBlank ih =>
      have other := Bool.eq_false_iff.mpr fun equal => notHyphen ((hyphen c).mp equal)
      have digit := Bool.eq_false_iff.mpr fun equal => notBlank ((blank c).mp equal)
      simp only [checkEntries, other, digit, cond_false] at checked
      exact ih checked member

end RangeTable

namespace CharSet

theorem mem_unionAll (sets : List CharSet) (c : Char) :
    (unionAll sets).mem c = sets.any (·.mem c) := by
  induction sets with
  | nil => rfl
  | cons set rest ih =>
      have tail : (rest.foldr union empty).mem c = rest.any (·.mem c) := ih
      simp [unionAll, mem, tail]

theorem checked_of_mem_ofText {check : Nat → Nat → Bool} {text : List Char} {c : Char}
    (checked : RangeTable.checkEntries check none none text = true)
    (member : (ofText (.ofList text)).mem c = true) :
    ∃ first last, first ≤ c.toNat ∧ c.toNat ≤ last ∧ check first last = true := by
  obtain ⟨⟨first, last⟩, listed, low, high⟩ :=
    RangeTable.containsBetween_covers _ _ _ _ member
  simp only [RangeTable.ofText, String.toList_ofList] at listed
  rcases RangeTable.checkEntries_sound checked listed with none | good
  · simp at none
  · exact ⟨first, last, low, high, good⟩

end CharSet

end PolicyGate.Unicode
