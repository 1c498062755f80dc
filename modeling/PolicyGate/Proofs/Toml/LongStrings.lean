import PolicyGate.Proofs.Toml.Spelling

/-!
How strings over several lines are written: between three quotes of either sort. Up to two more may
stand in front of the last three and belong to the string.
-/

namespace PolicyGate.Toml

inductive Folded : List Char → List Char → Prop
  | done {text rest : List Char} : Gap text rest → (∀ c ∈ rest.head?, isGap c = false) →
      lineEnd? rest = none → Folded text rest
  | line {text last next rest : List Char} : Gap text last → LineEnd last next →
      Folded next rest → Folded text rest

theorem skipGap_of_gap_head {text rest : List Char} (gap : Gap text rest)
    (opens : ∀ c ∈ rest.head?, isGap c = false) : skipGap text = rest := by
  rw [skipGap_of_gap gap]
  cases rest with
  | nil => rfl
  | cons c rest => exact skipGap_cons (opens c rfl) rest

theorem Folded.skipFoldedFrom_eq {text rest : List Char} (folded : Folded text rest) {fuel : Nat}
    (enough : text.length < fuel) : skipFoldedFrom fuel text = rest := by
  induction folded generalizing fuel with
  | done gap opens noEnd =>
      obtain ⟨fuel, rfl⟩ := exists_fuel enough
      simp only [skipFoldedFrom, skipGap_of_gap_head gap opens, noEnd]
  | @line text last next _ gap ends _ ih =>
      obtain ⟨fuel, rfl⟩ := exists_fuel enough
      have short := gap.length_le
      have shorter := ends.length_lt
      simp only [skipFoldedFrom, skipGap_of_gap gap, ends.skipGap_eq, ends.lineEnd?_eq]
      exact ih (show next.length < fuel by omega)

theorem Folded.length_le {text rest : List Char} (folded : Folded text rest) :
    rest.length ≤ text.length := by
  induction folded with
  | done gap => exact gap.length_le
  | line gap ends _ ih =>
      have := gap.length_le
      have := ends.length_lt
      omega

/-- What stands between three quotes, with those at the end. A backslash has a meaning of its own
between double quotes only. -/
inductive LongChars (quote : Char) : List Char → List Char → List Char → Prop
  | close {count : Nat} {rest : List Char} : count ≤ 2 → (∀ c ∈ rest.head?, c ≠ quote) →
      LongChars quote (List.replicate count quote) (List.replicate (count + 3) quote ++ rest) rest
  | quote {chars text rest : List Char} : ¬ [quote, quote, quote] <+: quote :: text →
      LongChars quote chars text rest → LongChars quote (quote :: chars) (quote :: text) rest
  | plain {c : Char} {chars text rest : List Char} : isPlain c = true → c ≠ quote →
      (quote = '"' → c ≠ '\\') → LongChars quote chars text rest →
      LongChars quote (c :: chars) (c :: text) rest
  | line {chars text next rest : List Char} : LineEnd text next →
      LongChars quote chars next rest → LongChars quote ('\n' :: chars) text rest
  | escape {c : Char} {chars text next rest : List Char} : quote = '"' → Escape c text next →
      LongChars quote chars next rest → LongChars quote (c :: chars) ('\\' :: text) rest
  | folded {chars text last start next rest : List Char} : quote = '"' → Gap text last →
      LineEnd last start → Folded start next → LongChars quote chars next rest →
      LongChars quote chars ('\\' :: text) rest

section Quotes

variable {quote : Char}

theorem tripleEnd?_close {count : Nat} (few : count ≤ 2) {rest : List Char}
    (other : ∀ c ∈ rest.head?, c ≠ quote) :
    tripleEnd? quote (List.replicate (count + 3) quote ++ rest) =
      some (List.replicate count quote, rest) := by
  have quotes : (List.replicate (count + 3) quote ++ rest).takeWhile (· = quote) =
      List.replicate (count + 3) quote :=
    takeWhile_append_stop (by simp) (by simpa using other)
  have behind : (List.replicate (count + 3) quote ++ rest).drop (count + 3) = rest :=
    List.drop_left' List.length_replicate
  simp only [tripleEnd?, quotes, List.length_replicate, behind]
  rw [if_neg (by omega), if_pos (by omega), Nat.add_sub_cancel]

theorem tripleEnd?_of_fewer {text : List Char} (fewer : ¬ [quote, quote, quote] <+: text) :
    tripleEnd? quote text = none := by
  have few : (text.takeWhile (· = quote)).length < 3 := by
    apply Nat.lt_of_not_le
    intro many
    have all : ∀ c ∈ (text.takeWhile (· = quote)).take 3, c = quote := by
      intro c member
      have kept := List.all_eq_true.mp List.all_takeWhile c (List.mem_of_mem_take member)
      simpa using kept
    have three : (text.takeWhile (· = quote)).take 3 = List.replicate 3 quote :=
      List.eq_replicate_iff.mpr ⟨by rw [List.length_take]; omega, all⟩
    apply fewer
    rw [show [quote, quote, quote] = List.replicate 3 quote from rfl, ← three]
    exact (List.take_prefix 3 _).trans (List.takeWhile_prefix _)
  simp only [tripleEnd?]
  rw [if_pos few]

theorem tripleEnd?_of_head {text : List Char} (other : ∀ c ∈ text.head?, c ≠ quote) :
    tripleEnd? quote text = none := by
  apply tripleEnd?_of_fewer
  rintro ⟨rest, rfl⟩
  exact other quote rfl rfl

theorem LineEnd.head_ne {text rest : List Char} (ends : LineEnd text rest)
    (visible : quote ≠ '\n' ∧ quote ≠ '\r') : ∀ c ∈ text.head?, c ≠ quote := by
  cases ends with
  | feed =>
      rintro c first rfl
      exact visible.1 (Option.some.inj first).symm
  | returned =>
      rintro c first rfl
      exact visible.2 (Option.some.inj first).symm

theorem lineEnd?_of_isPlain {c : Char} (plain : isPlain c = true) (rest : List Char) :
    lineEnd? (c :: rest) = none := by
  unfold lineEnd?
  split
  · next same => exact absurd (List.cons.inj same).1 (ne_of_test plain (by decide))
  · next same => exact absurd (List.cons.inj same).1 (ne_of_test plain (by decide))
  · rfl

end Quotes

theorem foldedLine?_eq {text last start next : List Char} (gap : Gap text last)
    (ends : LineEnd last start) (folded : Folded start next) :
    foldedLine? text = some next := by
  have skipped : skipGap text = last := by rw [skipGap_of_gap gap, ends.skipGap_eq]
  simp only [foldedLine?, skipped, ends.lineEnd?_eq, Option.bind_eq_bind, Option.bind_some,
    folded.skipFoldedFrom_eq (Nat.lt_succ_self _)]

section Steps

variable (fuel : Nat) (found : List Char)

theorem longBasicFrom_close {text quotes rest : List Char}
    (closed : tripleEnd? '"' text = some (quotes, rest)) :
    longBasicFrom (fuel + 1) found text = some (.ofList (found.reverse ++ quotes), rest) := by
  unfold longBasicFrom
  simp only [closed]

theorem longBasicFrom_line {text rest : List Char} (goesOn : tripleEnd? '"' text = none)
    (ends : lineEnd? text = some rest) :
    longBasicFrom (fuel + 1) found text = longBasicFrom fuel ('\n' :: found) rest := by
  rw [longBasicFrom.eq_def]
  simp only [goesOn, ends]

theorem longBasicFrom_plain {c : Char} {text : List Char}
    (goesOn : tripleEnd? '"' (c :: text) = none) (allowed : isPlain c = true)
    (noBackslash : c ≠ '\\') :
    longBasicFrom (fuel + 1) found (c :: text) = longBasicFrom fuel (c :: found) text := by
  rw [longBasicFrom, goesOn, lineEnd?_of_isPlain allowed]
  · exact if_pos allowed
  · exact noBackslash

theorem longLiteralFrom_close {text quotes rest : List Char}
    (closed : tripleEnd? '\x27' text = some (quotes, rest)) :
    longLiteralFrom (fuel + 1) found text = some (.ofList (found.reverse ++ quotes), rest) := by
  unfold longLiteralFrom
  simp only [closed]

theorem longLiteralFrom_line {text rest : List Char} (goesOn : tripleEnd? '\x27' text = none)
    (ends : lineEnd? text = some rest) :
    longLiteralFrom (fuel + 1) found text = longLiteralFrom fuel ('\n' :: found) rest := by
  rw [longLiteralFrom.eq_def]
  simp only [goesOn, ends]

theorem longLiteralFrom_plain {c : Char} {text : List Char}
    (goesOn : tripleEnd? '\x27' (c :: text) = none) (allowed : isPlain c = true) :
    longLiteralFrom (fuel + 1) found (c :: text) = longLiteralFrom fuel (c :: found) text := by
  rw [longLiteralFrom, goesOn, lineEnd?_of_isPlain allowed]
  exact if_pos allowed

end Steps

theorem LongChars.longBasicFrom_eq {chars text rest : List Char}
    (long : LongChars '"' chars text rest) (found : List Char) {fuel : Nat}
    (enough : text.length < fuel) :
    longBasicFrom fuel found text = some (.ofList (found.reverse ++ chars), rest) := by
  induction long generalizing found fuel with
  | close few other =>
      obtain ⟨fuel, rfl⟩ := exists_fuel enough
      exact longBasicFrom_close fuel found (tripleEnd?_close few other)
  | quote fewer _ ih =>
      obtain ⟨fuel, rfl⟩ := exists_fuel enough
      rw [longBasicFrom_plain fuel found (tripleEnd?_of_fewer fewer) (by decide) (by decide),
        ih _ (Nat.lt_of_succ_lt_succ enough)]
      simp
  | @plain c _ text _ allowed noQuote noBackslash _ ih =>
      obtain ⟨fuel, rfl⟩ := exists_fuel enough
      have other : ∀ d ∈ (c :: text).head?, d ≠ '"' := by simpa using noQuote
      rw [longBasicFrom_plain fuel found (tripleEnd?_of_head other) allowed (noBackslash rfl),
        ih _ (Nat.lt_of_succ_lt_succ enough)]
      simp
  | line ends _ ih =>
      obtain ⟨fuel, rfl⟩ := exists_fuel enough
      have later := ih ('\n' :: found)
        (Nat.lt_of_lt_of_le ends.length_lt (Nat.le_of_lt_succ enough))
      rw [longBasicFrom_line fuel found (tripleEnd?_of_head (ends.head_ne (by decide)))
        ends.lineEnd?_eq, later]
      simp
  | @escape c _ text next _ _ escaped _ ih =>
      obtain ⟨fuel, rfl⟩ := exists_fuel enough
      have shorter := escaped.length_lt
      rw [List.length_cons] at enough
      have later := ih (c :: found) (show next.length < fuel by omega)
      have other : ∀ d ∈ ('\\' :: text).head?, d ≠ '"' := by simp
      rw [longBasicFrom, tripleEnd?_of_head other]
      simpa [lineEnd?, escaped.foldedLine?_eq, escaped.escape_eq] using later
  | @folded _ text _ _ next _ _ gap ends folded _ ih =>
      obtain ⟨fuel, rfl⟩ := exists_fuel enough
      have short := gap.length_le
      have shorter := ends.length_lt
      have shortest := folded.length_le
      rw [List.length_cons] at enough
      have later := ih found (show next.length < fuel by omega)
      have other : ∀ d ∈ ('\\' :: text).head?, d ≠ '"' := by simp
      rw [longBasicFrom, tripleEnd?_of_head other]
      simpa [lineEnd?, foldedLine?_eq gap ends folded] using later

theorem LongChars.longLiteralFrom_eq {chars text rest : List Char}
    (long : LongChars '\x27' chars text rest) (found : List Char) {fuel : Nat}
    (enough : text.length < fuel) :
    longLiteralFrom fuel found text = some (.ofList (found.reverse ++ chars), rest) := by
  induction long generalizing found fuel with
  | close few other =>
      obtain ⟨fuel, rfl⟩ := exists_fuel enough
      exact longLiteralFrom_close fuel found (tripleEnd?_close few other)
  | quote fewer _ ih =>
      obtain ⟨fuel, rfl⟩ := exists_fuel enough
      rw [longLiteralFrom_plain fuel found (tripleEnd?_of_fewer fewer) (by decide),
        ih _ (Nat.lt_of_succ_lt_succ enough)]
      simp
  | @plain c _ text _ allowed noQuote _ _ ih =>
      obtain ⟨fuel, rfl⟩ := exists_fuel enough
      have other : ∀ d ∈ (c :: text).head?, d ≠ '\x27' := by simpa using noQuote
      rw [longLiteralFrom_plain fuel found (tripleEnd?_of_head other) allowed,
        ih _ (Nat.lt_of_succ_lt_succ enough)]
      simp
  | line ends _ ih =>
      obtain ⟨fuel, rfl⟩ := exists_fuel enough
      have later := ih ('\n' :: found)
        (Nat.lt_of_lt_of_le ends.length_lt (Nat.le_of_lt_succ enough))
      rw [longLiteralFrom_line fuel found (tripleEnd?_of_head (ends.head_ne (by decide)))
        ends.lineEnd?_eq, later]
      simp
  | escape double => exact absurd double (by decide)
  | folded double => exact absurd double (by decide)

theorem LongChars.length_le {quote : Char} {chars text rest : List Char}
    (long : LongChars quote chars text rest) : rest.length ≤ text.length := by
  induction long with
  | close => simp
  | quote _ _ ih => exact Nat.le_succ_of_le ih
  | plain _ _ _ _ ih => exact Nat.le_succ_of_le ih
  | line ends _ ih => exact Nat.le_trans ih (Nat.le_of_lt ends.length_lt)
  | escape _ escaped _ ih =>
      have := escaped.length_lt
      simp only [List.length_cons]
      omega
  | folded _ gap ends folded _ ih =>
      have := gap.length_le
      have := ends.length_lt
      have := folded.length_le
      simp only [List.length_cons]
      omega

inductive FirstLine : List Char → List Char → Prop
  | ended {text rest : List Char} : LineEnd text rest → FirstLine text rest
  | begun {text : List Char} : lineEnd? text = none → FirstLine text text

theorem FirstLine.skipFirstLineEnd_eq {text rest : List Char} (first : FirstLine text rest) :
    skipFirstLineEnd text = rest := by
  cases first with
  | ended ends => rw [skipFirstLineEnd, ends.lineEnd?_eq, Option.getD_some]
  | begun noEnd => rw [skipFirstLineEnd, noEnd, Option.getD_none]

theorem FirstLine.length_le {text rest : List Char} (first : FirstLine text rest) :
    rest.length ≤ text.length := by
  cases first with
  | ended ends => exact Nat.le_of_lt ends.length_lt
  | begun => exact Nat.le_refl _

def isQuote (c : Char) : Bool := c = '"' || c = '\x27'

inductive StringText : String → List Char → List Char → Prop
  | short {value : String} {text rest : List Char} : ShortString value text rest →
      (∀ c ∈ rest.head?, isQuote c = false) → StringText value text rest
  | long {quote : Char} {chars text start rest : List Char} : isQuote quote = true →
      FirstLine text start → LongChars quote chars start rest →
      StringText (.ofList chars) (quote :: quote :: quote :: text) rest

theorem ShortString.string_eq {value : String} {text rest : List Char}
    (short : ShortString value text rest) (closed : ∀ c ∈ rest.head?, isQuote c = false) :
    string text = some (value, rest) := by
  have read := short.shortString_eq
  unfold string
  split
  · cases short with
    | basic basic =>
        cases basic with
        | nil => exact absurd (closed _ rfl) (by decide)
        | plain _ noQuote => exact absurd rfl noQuote
  · cases short with
    | literal literal =>
        cases literal with
        | nil => exact absurd (closed _ rfl) (by decide)
        | plain _ noQuote => exact absurd rfl noQuote
  · exact read

namespace StringText

variable {value : String} {text rest : List Char}

theorem string_eq (written : StringText value text rest) : string text = some (value, rest) := by
  cases written with
  | short short closed => exact short.string_eq closed
  | @long quote chars text start _ quotes first long =>
      have enough := Nat.lt_succ_of_le first.length_le
      simp only [isQuote, Bool.or_eq_true, decide_eq_true_eq] at quotes
      rcases quotes with rfl | rfl
      · simpa [string, first.skipFirstLineEnd_eq] using long.longBasicFrom_eq [] enough
      · simpa [string, first.skipFirstLineEnd_eq] using long.longLiteralFrom_eq [] enough

theorem length_lt (written : StringText value text rest) : rest.length < text.length := by
  cases written with
  | short short => exact short.length_lt
  | long _ first long =>
      have := first.length_le
      have := long.length_le
      simp only [List.length_cons]
      omega

theorem opens (written : StringText value text rest) :
    ∃ c behind, text = c :: behind ∧ isQuote c = true := by
  cases written with
  | short short =>
      cases short with
      | basic => exact ⟨_, _, rfl, by decide⟩
      | literal => exact ⟨_, _, rfl, by decide⟩
  | long quotes => exact ⟨_, _, rfl, quotes⟩

end StringText

end PolicyGate.Toml
