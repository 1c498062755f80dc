import PolicyGate.Proofs.Json.Reading

/-!
Strings are read as the characters that they write, and passed over whatever they write.
-/

namespace PolicyGate.Json

open Reader

theorem quotedText_append (chars rest : List Char) :
    quotedText chars ++ rest = '"' :: (chars ++ '"' :: rest) := by
  simp [quotedText]

theorem hexDigit?_of_isHexDigit {value : Nat} {c : Char} (digit : IsHexDigit value c) :
    Text.hexDigit? c = some value := by
  have table : ∀ value < 16, Text.hexDigit? value.digitChar = some value ∧
      Text.hexDigit? value.digitChar.toUpper = some value := by decide
  obtain ⟨small, rfl | rfl⟩ := digit
  · exact (table value small).1
  · exact (table value small).2

theorem number?_of_fourDigits {unit : Nat} {digits : List Char} (four : FourDigits unit digits) :
    Text.number? 16 digits = some unit := by
  obtain ⟨first, second, third, fourth⟩ := four
  simp [Text.number?, hexDigit?_of_isHexDigit first, hexDigit?_of_isHexDigit second,
    hexDigit?_of_isHexDigit third, hexDigit?_of_isHexDigit fourth, first.1, second.1, third.1,
    fourth.1, Nat.mul_comm 16]

theorem reads_hexEscape {unit : Nat} {digits : List Char} (four : FourDigits unit digits)
    (rest : List Char) : Reads hexEscape unit (digits ++ rest) rest := by
  intro line column
  have number := number?_of_fourDigits four
  obtain ⟨first, second, third, fourth, rfl⟩ : ∃ a b c d, digits = [a, b, c, d] := by
    cases four
    exact ⟨_, _, _, _, rfl⟩
  let place := Cursor.placeAfter ⟨first :: second :: third :: fourth :: rest, line, column⟩ 4
  refine ⟨place.1, place.2, ?_⟩
  simp only [hexEscape, List.cons_append, List.nil_append, number, place]

theorem shortEscape?_of_mem {letter c : Char} (listed : (letter, c) ∈ shortEscapes) :
    letter ≠ 'u' ∧ shortEscape? letter = some c := by
  have table : ∀ entry ∈ shortEscapes, entry.1 ≠ 'u' ∧ shortEscape? entry.1 = some entry.2 := by
    decide
  exact table _ listed

theorem not_half (c : Char) : isTrailing c.toNat = false ∧ isLeading c.toNat = false := by
  have valid : c.toNat < 0xD800 ∨ 0xDFFF < c.toNat ∧ c.toNat < 0x110000 := c.valid
  simp only [isTrailing, isLeading, Bool.and_eq_false_iff, decide_eq_false_iff_not]
  omega

theorem halves {c : Char} (wide : 0x10000 ≤ c.toNat) :
    isTrailing (leadingHalf c) = false ∧ isLeading (leadingHalf c) = true ∧
      isTrailing (trailingHalf c) = true ∧
      joinSurrogates (leadingHalf c) (trailingHalf c) = c := by
  have valid : c.toNat < 0xD800 ∨ 0xDFFF < c.toNat ∧ c.toNat < 0x110000 := c.valid
  have leading : 0xD800 ≤ leadingHalf c ∧ leadingHalf c < 0xDC00 := by
    rw [leadingHalf]
    omega
  have trailing : 0xDC00 ≤ trailingHalf c ∧ trailingHalf c < 0xE000 := by
    rw [trailingHalf]
    omega
  have joined : 0x10000 + (leadingHalf c - 0xD800) * 0x400 + (trailingHalf c - 0xDC00) =
      c.toNat := by
    rw [leadingHalf, trailingHalf]
    omega
  refine ⟨?_, ?_, ?_, by rw [joinSurrogates, joined, Char.ofNat_toNat]⟩
  · simp only [isTrailing, Bool.and_eq_false_iff, decide_eq_false_iff_not]
    omega
  · simp only [isLeading, Bool.and_eq_true, decide_eq_true_eq]
    omega
  · simp only [isTrailing, Bool.and_eq_true, decide_eq_true_eq]
    omega

section Escapes

variable {c : Char} (rest : List Char)

theorem reads_pairPart (wanted : Char) : Reads (pairPart wanted) () (wanted :: rest) rest := by
  refine .bind (reads_peek _) ?_
  simp only [List.head?_cons, if_true]
  exact reads_skip wanted rest

theorem reads_unicodeEscape_four {digits : List Char} (four : FourDigits c.toNat digits) :
    Reads unicodeEscape c (digits ++ rest) rest := by
  obtain ⟨notTrailing, notLeading⟩ := not_half c
  refine .bind (reads_hexEscape four rest) ?_
  simp only [notTrailing, notLeading, Bool.false_eq_true, if_false, Char.ofNat_toNat]
  exact .pure c rest

theorem reads_unicodeEscape_pair {leading trailing : List Char} (wide : 0x10000 ≤ c.toNat)
    (first : FourDigits (leadingHalf c) leading) (second : FourDigits (trailingHalf c) trailing) :
    Reads unicodeEscape c (leading ++ '\\' :: 'u' :: (trailing ++ rest)) rest := by
  obtain ⟨notTrailing, isFirst, isSecond, joined⟩ := halves wide
  refine .bind (reads_hexEscape first _) ?_
  simp only [notTrailing, isFirst, Bool.false_eq_true, if_false, if_true]
  refine .bind (reads_pairPart _ '\\') (.bind (reads_pairPart _ 'u')
    (.bind (reads_hexEscape second rest) ?_))
  simp only [isSecond, if_true, joined]
  exact .pure c rest

theorem reads_escape_unicode {text : List Char} (read : Reads unicodeEscape c text rest) :
    Reads escape c ('u' :: text) rest := by
  refine .bind (reads_peek _) ?_
  simp only [List.head?_cons, if_true]
  exact .bind (reads_skip 'u' text) read

theorem Escape.reads_escape {written : List Char} (escaped : Escape c written) :
    Reads Reader.escape c (written ++ rest) rest := by
  cases escaped with
  | @short letter listed =>
      obtain ⟨noUnicode, stands⟩ := shortEscape?_of_mem listed
      refine .bind (reads_peek _) ?_
      simp only [List.cons_append, List.head?_cons, if_neg noUnicode, stands]
      exact .bind (reads_skip letter rest) (.pure c rest)
  | four digits => exact reads_escape_unicode rest (reads_unicodeEscape_four rest digits)
  | pair wide leading trailing =>
      have both := reads_unicodeEscape_pair rest wide leading trailing
      exact reads_escape_unicode rest (by simpa using both)

theorem EscapeText.reads_skipEscape {written : List Char} (escaped : EscapeText written) :
    Reads skipEscape () (written ++ rest) rest := by
  refine .bind (reads_peek _) ?_
  cases escaped with
  | @short stands letter listed =>
      obtain ⟨noUnicode, known⟩ := shortEscape?_of_mem listed
      simp only [List.cons_append, List.head?_cons, if_neg noUnicode, known, Option.isSome_some,
        if_true]
      exact reads_skip letter rest
  | four digits =>
      simp only [List.cons_append, List.head?_cons, if_true]
      exact .bind (reads_skip 'u' _) (reads_hexEscape digits rest).discard

end Escapes

theorem isUnescaped_iff {c : Char} :
    isUnescaped c = true ↔ ¬ c.toNat < 0x20 ∧ c ≠ '"' ∧ c ≠ '\\' := by
  simp [isUnescaped, and_assoc]

theorem Spelled.reads_stringFrom {chars text : List Char} (spelled : Spelled chars text)
    (rest found : List Char) {fuel : Nat} (enough : text.length < fuel) :
    Reads (stringFrom fuel found) (.ofList (found.reverse ++ chars)) (text ++ '"' :: rest)
      rest := by
  induction spelled generalizing found fuel with
  | nil =>
      obtain ⟨fuel, rfl⟩ := Nat.exists_eq_add_one_of_ne_zero (Nat.ne_zero_of_lt enough)
      refine .bind (reads_peek _) ?_
      simp only [List.nil_append, List.head?_cons, if_true, List.append_nil]
      exact .bind (reads_skip '"' rest) (.pure _ rest)
  | @plain c chars text unescaped _ ih =>
      obtain ⟨fuel, rfl⟩ := Nat.exists_eq_add_one_of_ne_zero (Nat.ne_zero_of_lt enough)
      obtain ⟨noControl, noQuote, noBackslash⟩ := isUnescaped_iff.mp unescaped
      have later := ih (c :: found) (Nat.lt_of_succ_lt_succ enough)
      rw [List.reverse_cons, List.append_assoc] at later
      refine .bind (reads_peek _) ?_
      simp only [List.cons_append, List.head?_cons, if_neg noQuote, if_neg noBackslash,
        if_neg noControl]
      exact .bind (reads_skip c _) later
  | @escape c written chars text escaped _ ih =>
      obtain ⟨fuel, rfl⟩ := Nat.exists_eq_add_one_of_ne_zero (Nat.ne_zero_of_lt enough)
      rw [List.length_cons, List.length_append] at enough
      have later := ih (c :: found) (show text.length < fuel by omega)
      rw [List.reverse_cons, List.append_assoc] at later
      refine .bind (reads_peek _) ?_
      simp only [List.cons_append, List.head?_cons, if_neg (show '\\' ≠ '"' by decide), if_true,
        List.append_assoc]
      exact .bind (reads_skip '\\' _) (.bind (escaped.reads_escape _) later)

theorem Spelled.reads_string {chars text : List Char} (spelled : Spelled chars text)
    (rest : List Char) : Reads string (.ofList chars) (text ++ '"' :: rest) rest := by
  refine .bind (reads_remaining _) (spelled.reads_stringFrom rest [] ?_)
  simp only [List.length_append]
  omega

theorem StringText.reads_skipStringFrom {text : List Char} (given : StringText text)
    (rest : List Char) {fuel : Nat} (enough : text.length < fuel) :
    Reads (skipStringFrom fuel) () (text ++ '"' :: rest) rest := by
  induction given generalizing fuel with
  | nil =>
      obtain ⟨fuel, rfl⟩ := Nat.exists_eq_add_one_of_ne_zero (Nat.ne_zero_of_lt enough)
      refine .bind (reads_peek _) ?_
      simp only [List.nil_append, List.head?_cons, if_true]
      exact reads_skip '"' rest
  | @plain c text unescaped _ ih =>
      obtain ⟨fuel, rfl⟩ := Nat.exists_eq_add_one_of_ne_zero (Nat.ne_zero_of_lt enough)
      obtain ⟨noControl, noQuote, noBackslash⟩ := isUnescaped_iff.mp unescaped
      refine .bind (reads_peek _) ?_
      simp only [List.cons_append, List.head?_cons, if_neg noQuote, if_neg noBackslash,
        if_neg noControl]
      exact .bind (reads_skip c _) (ih (Nat.lt_of_succ_lt_succ enough))
  | @escape written text escaped _ ih =>
      obtain ⟨fuel, rfl⟩ := Nat.exists_eq_add_one_of_ne_zero (Nat.ne_zero_of_lt enough)
      rw [List.length_cons, List.length_append] at enough
      refine .bind (reads_peek _) ?_
      simp only [List.cons_append, List.head?_cons, if_neg (show '\\' ≠ '"' by decide), if_true,
        List.append_assoc]
      exact .bind (reads_skip '\\' _) (.bind (escaped.reads_skipEscape _) (ih (by omega)))

theorem StringText.reads_skipString {text : List Char} (given : StringText text)
    (rest : List Char) : Reads skipString () (text ++ '"' :: rest) rest := by
  refine .bind (reads_remaining _) (given.reads_skipStringFrom rest ?_)
  simp only [List.length_append]
  omega

end PolicyGate.Json
