import PolicyGate.Proofs.Json.Grammar

/-!
Every string can be written, and every list of members.
-/

namespace PolicyGate.Json

theorem exists_fourDigits {unit : Nat} (small : unit < 0x10000) :
    ∃ digits, FourDigits unit digits := by
  have digit (value : Nat) : IsHexDigit (value % 16) (value % 16).digitChar :=
    ⟨Nat.mod_lt _ (by decide), .inl rfl⟩
  have four := FourDigits.mk (digit (unit / 4096)) (digit (unit / 256)) (digit (unit / 16))
    (digit unit)
  have whole : ((unit / 4096 % 16 * 16 + unit / 256 % 16) * 16 + unit / 16 % 16) * 16 +
      unit % 16 = unit := by omega
  rw [whole] at four
  exact ⟨_, four⟩

theorem exists_escape (c : Char) : ∃ written, Escape c written := by
  by_cases narrow : c.toNat < 0x10000
  · obtain ⟨digits, four⟩ := exists_fourDigits narrow
    exact ⟨_, .four four⟩
  · have valid : c.toNat < 0xD800 ∨ 0xDFFF < c.toNat ∧ c.toNat < 0x110000 := c.valid
    have leadingSmall : leadingHalf c < 0x10000 := by
      rw [leadingHalf]
      omega
    have trailingSmall : trailingHalf c < 0x10000 := by
      rw [trailingHalf]
      omega
    obtain ⟨leading, first⟩ := exists_fourDigits leadingSmall
    obtain ⟨trailing, second⟩ := exists_fourDigits trailingSmall
    exact ⟨_, .pair (Nat.le_of_not_lt narrow) first second⟩

theorem exists_isText (value : String) : ∃ text, IsText value text := by
  have spelled (chars : List Char) : ∃ text, Spelled chars text := by
    induction chars with
    | nil => exact ⟨[], .nil⟩
    | cons c chars ih =>
        obtain ⟨written, escaped⟩ := exists_escape c
        obtain ⟨text, spelled⟩ := ih
        exact ⟨_, .escape escaped spelled⟩
  obtain ⟨chars, given⟩ := spelled value.toList
  exact ⟨quotedText chars, chars, rfl, given⟩

theorem exists_isObject (entries : List (String × List Char)) :
    ∃ text, IsObject entries text := by
  have written : ∃ members, List.Forall₂ IsMember entries members := by
    induction entries with
    | nil => exact ⟨[], .nil⟩
    | cons entry entries ih =>
        obtain ⟨text, spelled⟩ := exists_isText entry.1
        obtain ⟨members, others⟩ := ih
        let unpadded (text : List Char) : Padded := ⟨[], text, [], by simp [IsGap], by simp [IsGap]⟩
        exact ⟨⟨unpadded text, unpadded entry.2⟩ :: members, .cons ⟨spelled, rfl⟩ others⟩
  have listed (parts : List (List Char)) : ∃ inside, Listed parts inside := by
    cases parts with
    | nil => exact ⟨[], .none (by simp [IsGap])⟩
    | cons part parts => exact ⟨_, .some part parts⟩
  obtain ⟨members, written⟩ := written
  obtain ⟨inside, listed⟩ := listed (members.map Member.whole)
  exact ⟨_, members, inside, written, listed, rfl⟩

end PolicyGate.Json
