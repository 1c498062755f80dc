import PolicyGate.Proofs.Unicode.LowerCase

/-!
The case of ASCII letters, and what is blind to it: folding, lower case with the context that it
looks at, and which characters are blanks or belong to words.
-/

namespace PolicyGate.Unicode

/-- Beyond ASCII there is nothing to compare, since `Char.toLower` leaves every character there. -/
theorem read_toLower {α : Type} [DecidableEq α] (read : Char → α)
    (checked : (List.range 128).all (fun point =>
      decide (read (Char.ofNat point).toLower = read (Char.ofNat point))) = true) (c : Char) :
    read c.toLower = read c := by
  by_cases ascii : c.toNat < 128
  · have same := forall_ascii (fun c => decide (read c.toLower = read c)) checked c ascii
    exact of_decide_eq_true same
  · have small : c.isUpper = false := by
      rw [← Bool.not_eq_true, isUpper_iff]
      omega
    rw [toLower_of_small small]

theorem readings_toLower (c : Char) :
    Text.isBlank c.toLower = Text.isBlank c ∧ simpleFold c.toLower = simpleFold c ∧
      isWord c.toLower = isWord c ∧ lowerChar c.toLower = lowerChar c ∧
      isCased c.toLower = isCased c ∧ isCaseIgnorable c.toLower = isCaseIgnorable c := by
  have same := read_toLower (fun c => (Text.isBlank c, simpleFold c, isWord c, lowerChar c,
    isCased c, isCaseIgnorable c)) (by decide) c
  simpa only [Prod.mk.injEq] using same

theorem isBlank_toLower (c : Char) : Text.isBlank c.toLower = Text.isBlank c :=
  (readings_toLower c).1

theorem simpleFold_toLower (c : Char) : simpleFold c.toLower = simpleFold c :=
  (readings_toLower c).2.1

theorem isWord_toLower (c : Char) : isWord c.toLower = isWord c :=
  (readings_toLower c).2.2.1

theorem lowerChar_toLower (c : Char) : lowerChar c.toLower = lowerChar c :=
  (readings_toLower c).2.2.2.1

theorem isCased_toLower (c : Char) : isCased c.toLower = isCased c :=
  (readings_toLower c).2.2.2.2.1

theorem isCaseIgnorable_toLower (c : Char) : isCaseIgnorable c.toLower = isCaseIgnorable c :=
  (readings_toLower c).2.2.2.2.2

theorem toLower_eq_iff {sign : Char} (checked : (List.range 128).all (fun point =>
      decide (decide ((Char.ofNat point).toLower = sign) =
        decide (Char.ofNat point = sign))) = true)
    (c : Char) : c.toLower = sign ↔ c = sign := by
  have same := read_toLower (fun c => decide (c = sign)) checked c
  simpa using same

theorem leadsCased_map_toLower (text : List Char) :
    leadsCased (text.map Char.toLower) = leadsCased text := by
  have ignored : isCaseIgnorable ∘ Char.toLower = isCaseIgnorable := funext isCaseIgnorable_toLower
  rw [leadsCased, leadsCased, List.dropWhile_map, ignored]
  cases text.dropWhile isCaseIgnorable with
  | nil => rfl
  | cons c rest => exact isCased_toLower c

theorem lowerFrom_map_toLower (afterCased : Bool) (text : List Char) :
    lowerFrom afterCased (text.map Char.toLower) = lowerFrom afterCased text := by
  induction text generalizing afterCased with
  | nil => rfl
  | cons c text ih =>
      have sigma : c.toLower = 'Σ' ↔ c = 'Σ' := toLower_eq_iff (by decide) c
      simp only [List.map_cons, lowerFrom, sigma, leadsCased_map_toLower, lowerChar_toLower,
        isCaseIgnorable_toLower, isCased_toLower, ih]

theorem lowercase_map_toLower (text : List Char) :
    lowercase (text.map Char.toLower) = lowercase text :=
  lowerFrom_map_toLower false text

end PolicyGate.Unicode
