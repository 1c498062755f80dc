import PolicyGate.Proofs.Toml.LongStrings
import PolicyGate.Toml.Scalar

/-!
How integers are written: to base 10, perhaps with a sign, or behind `0x`, `0o` and `0b` to another
base.
-/

namespace PolicyGate.Toml

def opensScalar (c : Char) : Bool := c.isAlphanum || c = '+' || c = '-'

/-- Digits, with single underscores between some of them. -/
inductive Digits (isDigit : Char → Bool) : List Char → List Char → List Char → Prop
  | last {c : Char} {rest : List Char} : isDigit c = true → Digits isDigit [c] (c :: rest) rest
  | next {c : Char} {digits text rest : List Char} : isDigit c = true →
      Digits isDigit digits text rest → Digits isDigit (c :: digits) (c :: text) rest
  | apart {c : Char} {digits text rest : List Char} : isDigit c = true →
      Digits isDigit digits text rest → Digits isDigit (c :: digits) (c :: '_' :: text) rest

inductive DecimalText : Nat → List Char → List Char → Prop
  | zero (rest : List Char) : DecimalText 0 ('0' :: rest) rest
  | digits {c : Char} {digits text rest : List Char} {number : Nat} : c ≠ '0' →
      Digits Text.isDigit (c :: digits) text rest → Text.number? 10 (c :: digits) = some number →
      DecimalText number text rest

def isDigitOf (base : Nat) (c : Char) : Bool := (Text.number? base [c]).isSome

inductive SignText : Bool → List Char → List Char → Prop
  | none (rest : List Char) : SignText false rest rest
  | plus (rest : List Char) : SignText false ('+' :: rest) rest
  | minus (rest : List Char) : SignText true ('-' :: rest) rest

def signed (negative : Bool) (number : Nat) : Int := if negative then -number else number

inductive IntegerText : Int → List Char → List Char → Prop
  | decimal {negative : Bool} {number : Nat} {text whole rest : List Char} :
      SignText negative text whole → DecimalText number whole rest →
      fitsInteger (signed negative number) = true →
      IntegerText (signed negative number) text rest
  | based {letter : Char} {base number : Nat} {digits text rest : List Char} :
      (letter, base) ∈ [('x', 16), ('o', 8), ('b', 2)] → Digits (isDigitOf base) digits text rest →
      Text.number? base digits = some number → fitsInteger number = true →
      IntegerText number ('0' :: letter :: text) rest

/-- What may stand directly behind a number. -/
def Ended (rest : List Char) : Prop :=
  ∀ c ∈ rest.head?, c ∈ [' ', '\t', ',', ']', '}', '#', '\n', '\r']

def numberSigns : List Char := ['_', '.', 'e', 'E', '-', ':', 'x', 'o', 'b']

theorem Ended.apart {rest : List Char} (ended : Ended rest) :
    ∀ c ∈ rest.head?, Text.hexDigit? c = none ∧ c ∉ numberSigns := by
  intro c first
  have listed := ended c first
  simp only [List.mem_cons, List.not_mem_nil, or_false] at listed
  rcases listed with rfl | rfl | rfl | rfl | rfl | rfl | rfl | rfl <;> decide

theorem isDigit_of_hexDigit? {c : Char} (other : Text.hexDigit? c = none) :
    Text.isDigit c = false := by
  cases digit : Text.isDigit c with
  | false => rfl
  | true => simp [Text.hexDigit?, digit] at other

theorem Ended.digitless {rest : List Char} (ended : Ended rest) :
    ∀ c ∈ rest.head?, Text.isDigit c = false ∧ c ≠ '_' := by
  intro c first
  obtain ⟨other, apart⟩ := ended.apart c first
  exact ⟨isDigit_of_hexDigit? other, fun same => apart (same ▸ by decide)⟩

theorem Ended.digitlessOf {rest : List Char} (ended : Ended rest) (base : Nat) :
    ∀ c ∈ rest.head?, isDigitOf base c = false ∧ c ≠ '_' := by
  intro c first
  obtain ⟨other, apart⟩ := ended.apart c first
  exact ⟨by simp [isDigitOf, Text.number?, other], fun same => apart (same ▸ by decide)⟩

namespace Digits

variable {isDigit : Char → Bool} {digits text rest : List Char}

theorem opens (written : Digits isDigit digits text rest) :
    ∃ c behind, text = c :: behind ∧ digits.head? = some c ∧ isDigit c = true := by
  cases written with
  | last digit => exact ⟨_, _, rfl, rfl, digit⟩
  | next digit => exact ⟨_, _, rfl, rfl, digit⟩
  | apart digit => exact ⟨_, _, rfl, rfl, digit⟩

theorem length_lt (written : Digits isDigit digits text rest) : rest.length < text.length := by
  induction written with
  | last => exact Nat.lt_succ_self _
  | next _ _ ih => exact Nat.lt_succ_of_lt ih
  | apart _ _ ih => exact Nat.lt_succ_of_lt (Nat.lt_succ_of_lt ih)

theorem all (written : Digits isDigit digits text rest) : ∀ c ∈ digits, isDigit c = true := by
  induction written with
  | last digit => exact List.forall_mem_singleton.mpr digit
  | next digit _ ih => exact List.forall_mem_cons.mpr ⟨digit, ih⟩
  | apart digit _ ih => exact List.forall_mem_cons.mpr ⟨digit, ih⟩

theorem of_all (nonempty : digits ≠ []) (all : ∀ c ∈ digits, isDigit c = true)
    (rest : List Char) : Digits isDigit digits (digits ++ rest) rest := by
  induction digits with
  | nil => exact absurd rfl nonempty
  | cons c digits ih =>
      rw [List.forall_mem_cons] at all
      cases digits with
      | nil => exact .last all.1
      | cons d digits => exact .next all.1 (ih (List.cons_ne_nil _ _) all.2)

theorem head_behind (written : Digits isDigit digits text rest)
    (ends : ∀ c ∈ rest.head?, isDigit c = false) :
    ∀ c ∈ (text.dropWhile isDigit).head?, c = '_' ∨ c ∈ rest.head? := by
  induction written with
  | @last c rest digit =>
      rw [List.dropWhile_cons_of_pos digit]
      cases rest with
      | nil => exact fun c first => .inr first
      | cons d rest =>
          rw [List.dropWhile_cons_of_neg (by simp [ends d rfl])]
          exact fun c first => .inr first
  | next digit _ ih =>
      rw [List.dropWhile_cons_of_pos digit]
      exact ih ends
  | @apart c digits text rest digit written ih =>
      rw [List.dropWhile_cons_of_pos digit]
      by_cases line : isDigit '_' = true
      · rw [List.dropWhile_cons_of_pos line]
        exact ih ends
      · rw [List.dropWhile_cons_of_neg line]
        rintro _ ⟨rfl⟩
        exact .inl rfl

end Digits

section Grouped

variable {isDigit : Char → Bool}

theorem groupedFrom_cons {c : Char} (other : c ≠ '_') (found text : List Char) :
    groupedFrom isDigit found (c :: text) =
      if isDigit c then groupedFrom isDigit (c :: found) text else (found.reverse, c :: text) := by
  rw [groupedFrom.eq_def]
  split
  · next same => exact absurd same (List.cons_ne_nil _ _)
  · next same => exact absurd (List.cons.inj same).1 other
  · next same =>
      obtain ⟨rfl, rfl⟩ := List.cons.inj same
      rfl

theorem Digits.groupedFrom_eq {digits text rest : List Char}
    (written : Digits isDigit digits text rest) (noLine : isDigit '_' = false)
    (ends : ∀ c ∈ rest.head?, isDigit c = false ∧ c ≠ '_') (found : List Char) :
    groupedFrom isDigit found text = (found.reverse ++ digits, rest) := by
  induction written generalizing found with
  | @last c rest digit =>
      rw [groupedFrom_cons (ne_of_test digit noLine), if_pos digit]
      cases rest with
      | nil => simp [groupedFrom]
      | cons d rest => simp [groupedFrom_cons (ends d rfl).2, (ends d rfl).1]
  | next digit _ ih =>
      rw [groupedFrom_cons (ne_of_test digit noLine), if_pos digit, ih ends]
      simp
  | @apart c digits text rest digit written ih =>
      obtain ⟨d, behind, rfl, _, later⟩ := written.opens
      have others := ih ends (c :: found)
      rw [groupedFrom_cons (ne_of_test later noLine), if_pos later] at others
      rw [groupedFrom_cons (ne_of_test digit noLine), if_pos digit, groupedFrom, if_pos later,
        others]
      simp

theorem Digits.grouped_eq {digits text rest : List Char}
    (written : Digits isDigit digits text rest) (noLine : isDigit '_' = false)
    (ends : ∀ c ∈ rest.head?, isDigit c = false ∧ c ≠ '_') :
    grouped isDigit text = some (digits, rest) := by
  obtain ⟨c, behind, rfl, _, digit⟩ := written.opens
  have read := written.groupedFrom_eq noLine ends []
  rw [groupedFrom_cons (ne_of_test digit noLine), if_pos digit] at read
  rw [grouped, if_pos digit, read]
  rfl

theorem exists_digits {c : Char} (digit : isDigit c = true) (found text : List Char) :
    ∃ digits rest, groupedFrom isDigit (c :: found) text = (found.reverse ++ digits, rest) ∧
      Digits isDigit digits (c :: text) rest := by
  generalize same : c :: found = all
  fun_induction groupedFrom isDigit all text generalizing c found with
  | case1 =>
      subst same
      exact ⟨[c], [], by simp, .last digit⟩
  | case2 all d rest later ih =>
      subst same
      obtain ⟨digits, rest, read, written⟩ := ih later (c :: found) rfl
      exact ⟨c :: digits, rest, by simpa using read, .apart digit written⟩
  | case3 =>
      subst same
      exact ⟨[c], _, by simp, .last digit⟩
  | case4 all d rest _ later ih =>
      subst same
      obtain ⟨digits, rest, read, written⟩ := ih later (c :: found) rfl
      exact ⟨c :: digits, rest, by simpa using read, .next digit written⟩
  | case5 =>
      subst same
      exact ⟨[c], _, by simp, .last digit⟩

theorem digits_of_grouped {digits text rest : List Char}
    (read : grouped isDigit text = some (digits, rest)) : Digits isDigit digits text rest := by
  cases text with
  | nil => contradiction
  | cons c text =>
      rw [grouped] at read
      split at read
      · next digit =>
          obtain ⟨found, behind, same, written⟩ := exists_digits digit [] text
          rw [same, Option.some.injEq, Prod.mk.injEq] at read
          obtain ⟨rfl, rfl⟩ := read
          exact written
      · contradiction

end Grouped

section Fields

variable {text rest : List Char}

theorem head_of_symbol {count low high value : Nat} {wanted : Char} {behind : List Char}
    (given : field count low high text = some (value, rest))
    (found : symbol wanted rest = some behind) (other : Text.isDigit wanted = false) :
    (text.dropWhile Text.isDigit).head? = some wanted := by
  simp only [field, Option.ite_none_right_eq_some, Option.some.injEq, Prod.mk.injEq] at given
  obtain ⟨⟨_, digits, _⟩, _, rfl⟩ := given
  cases later : text.drop count with
  | nil => simp [later, symbol] at found
  | cons c others =>
      rw [later, symbol, Option.ite_none_right_eq_some] at found
      obtain ⟨rfl, _⟩ := found
      rw [← List.take_append_drop count text, later,
        List.dropWhile_append_of_pos (List.all_eq_true.mp digits),
        List.dropWhile_cons_of_neg (by simp [other])]
      rfl

theorem date_eq_none (other : (text.dropWhile Text.isDigit).head? ≠ some '-') :
    date text = none := by
  cases given : field 4 0 9999 text with
  | none => simp [date, given]
  | some part =>
      cases found : symbol '-' part.2 with
      | none => simp [date, given, found]
      | some => exact absurd (head_of_symbol given found rfl) other

theorem time_eq_none (other : (text.dropWhile Text.isDigit).head? ≠ some ':') :
    time text = none := by
  cases given : field 2 0 23 text with
  | none => simp [time, hourMinute, given]
  | some part =>
      cases found : symbol ':' part.2 with
      | none => simp [time, hourMinute, given, found]
      | some => exact absurd (head_of_symbol given found rfl) other

theorem datetime_eq_none
    (other : ∀ c ∈ (text.dropWhile Text.isDigit).head?, c ≠ '-' ∧ c ≠ ':') :
    datetime text = none := by
  rw [datetime, date_eq_none fun first => (other _ first).1 rfl,
    time_eq_none fun first => (other _ first).2 rfl]
  rfl

theorem datetime_of_not_digit {c : Char} (other : Text.isDigit c = false) (text : List Char) :
    datetime (c :: text) = none := by
  simp [datetime, date, time, hourMinute, field, other]

end Fields

section Decimal

variable {number : Nat} {text rest : List Char}

theorem DecimalText.exists_digits (written : DecimalText number text rest) :
    ∃ digits, Digits Text.isDigit digits text rest := by
  cases written with
  | zero => exact ⟨['0'], .last rfl⟩
  | digits _ written => exact ⟨_, written⟩

theorem DecimalText.opens (written : DecimalText number text rest) :
    ∃ c behind, text = c :: behind ∧ Text.isDigit c = true := by
  obtain ⟨digits, written⟩ := written.exists_digits
  obtain ⟨c, behind, same, _, digit⟩ := written.opens
  exact ⟨c, behind, same, digit⟩

theorem DecimalText.wholeDigits_eq (written : DecimalText number text rest) (ended : Ended rest) :
    ∃ digits, wholeDigits text = some (digits, rest) ∧ decimalValue digits = number := by
  cases written with
  | zero => exact ⟨['0'], rfl, rfl⟩
  | @digits first digits _ _ _ notZero written value =>
      have read := written.grouped_eq (by decide) ended.digitless
      obtain ⟨c, behind, rfl, same, _⟩ := written.opens
      rw [List.head?_cons, Option.some.injEq] at same
      refine ⟨first :: digits, ?_, by rw [decimalValue, value, Option.getD_some]⟩
      rw [wholeDigits.eq_def]
      split
      · next zero => exact absurd (same.trans (List.cons.inj zero).1) notZero
      · exact read

theorem fractionPart_eq_none (other : text.head? ≠ some '.') : fractionPart text = none := by
  rw [fractionPart.eq_def]
  split
  · next => exact absurd rfl other
  · rfl

theorem exponentPart_eq_none (small : text.head? ≠ some 'e') (large : text.head? ≠ some 'E') :
    exponentPart text = none := by
  rw [exponentPart.eq_def]
  split
  · next => exact absurd rfl small
  · next => exact absurd rfl large
  · rfl

theorem float_eq_none {negative : Bool} {whole digits : List Char}
    (signs : sign text = (negative, whole)) (special : specialFloat whole = none)
    (read : wholeDigits whole = some (digits, rest))
    (apart : ∀ c ∈ rest.head?, c ∉ ['.', 'e', 'E']) : float text = none := by
  have noPoint : rest.head? ≠ some '.' := fun first => apart _ first (by decide)
  have noSmall : rest.head? ≠ some 'e' := fun first => apart _ first (by decide)
  have noLarge : rest.head? ≠ some 'E' := fun first => apart _ first (by decide)
  simp [float, signs, special, read, fractionPart_eq_none noPoint,
    exponentPart_eq_none noSmall noLarge]

theorem DecimalText.sign_eq {negative : Bool} {whole : List Char}
    (written : DecimalText number whole rest) (signs : SignText negative text whole) :
    sign text = (negative, whole) := by
  obtain ⟨c, behind, rfl, digit⟩ := written.opens
  cases signs with
  | none =>
      rw [sign.eq_def]
      split
      · next same => exact absurd (List.cons.inj same).1 (ne_of_test digit (by decide))
      · next same => exact absurd (List.cons.inj same).1 (ne_of_test digit (by decide))
      · rfl
  | plus => rfl
  | minus => rfl

theorem DecimalText.specialFloat_eq (written : DecimalText number text rest) :
    specialFloat text = none := by
  obtain ⟨c, behind, rfl, digit⟩ := written.opens
  rw [specialFloat.eq_def]
  split
  · next same => exact absurd (List.cons.inj same).1 (ne_of_test digit (by decide))
  · next same => exact absurd (List.cons.inj same).1 (ne_of_test digit (by decide))
  · rfl

theorem DecimalText.datetime_eq {negative : Bool} {whole : List Char}
    (written : DecimalText number whole rest) (signs : SignText negative text whole)
    (ended : Ended rest) : datetime text = none := by
  obtain ⟨digits, written⟩ := written.exists_digits
  cases signs with
  | none =>
      apply datetime_eq_none
      intro c first
      rcases written.head_behind (fun c first => (ended.digitless c first).1) c first with
        rfl | behind
      · decide
      · have apart := (ended.apart c behind).2
        exact ⟨fun same => apart (same ▸ by decide), fun same => apart (same ▸ by decide)⟩
  | plus => exact datetime_of_not_digit rfl _
  | minus => exact datetime_of_not_digit rfl _

theorem DecimalText.ne_based {letter : Char} (base : letter ∈ ['x', 'o', 'b'])
    (ended : Ended rest) (behind : List Char) :
    ¬ DecimalText number ('0' :: letter :: behind) rest := by
  intro written
  cases written with
  | zero =>
      have bases : ['x', 'o', 'b'] ⊆ numberSigns := by decide
      exact (ended.apart letter rfl).2 (bases base)
  | digits notZero written =>
      obtain ⟨c, behind, same, first, _⟩ := written.opens
      rw [List.head?_cons, Option.some.injEq] at first
      exact notZero (first.trans (List.cons.inj same).1.symm)

theorem DecimalText.integer_eq {negative : Bool} {whole : List Char}
    (written : DecimalText number whole rest) (signs : SignText negative text whole)
    (ended : Ended rest) (fits : fitsInteger (signed negative number) = true) :
    integer text = some (.integer (signed negative number), rest) := by
  obtain ⟨digits, read, value⟩ := written.wholeDigits_eq ended
  have decimal {letter : Char} (base : letter ∈ ['x', 'o', 'b']) (behind : List Char) :
      text ≠ '0' :: letter :: behind := by
    rintro rfl
    cases signs
    exact DecimalText.ne_based base ended behind written
  rw [integer.eq_def]
  split
  · next => exact absurd rfl (decimal (by decide) _)
  · next => exact absurd rfl (decimal (by decide) _)
  · next => exact absurd rfl (decimal (by decide) _)
  · simp only [written.sign_eq signs, read, Option.bind_eq_bind, Option.bind_some, value]
    exact if_pos fits

end Decimal

theorem baseInteger_eq {base number : Nat} {digits text rest : List Char}
    (written : Digits (isDigitOf base) digits text rest) (noLine : isDigitOf base '_' = false)
    (value : Text.number? base digits = some number) (fits : fitsInteger number = true)
    (ended : Ended rest) : baseInteger base text = some (.integer number, rest) := by
  have read : grouped (fun c => (Text.number? base [c]).isSome) text = some (digits, rest) :=
    written.grouped_eq noLine (ended.digitlessOf base)
  have parts : baseInteger base text = (Text.number? base digits).bind fun number =>
      if fitsInteger number then some (.integer number, rest) else none := by
    rw [baseInteger, read]
    rfl
  rw [parts, value, Option.bind_some, if_pos fits]

theorem scalar_zero_letter {letter : Char} (noDigit : Text.isDigit letter = false)
    (apart : letter ∉ ['.', 'e', 'E', '-', ':']) (text : List Char) :
    scalar ('0' :: letter :: text) = integer ('0' :: letter :: text) := by
  simp only [List.mem_cons, List.not_mem_nil, or_false, not_or] at apart
  obtain ⟨noPoint, noSmall, noLarge, noDash, noColon⟩ := apart
  have noTruth : boolean ('0' :: letter :: text) = none := rfl
  have noDate : datetime ('0' :: letter :: text) = none := by
    apply datetime_eq_none
    rw [List.dropWhile_cons_of_pos rfl, List.dropWhile_cons_of_neg (by simp [noDigit])]
    rintro _ ⟨rfl⟩
    exact ⟨noDash, noColon⟩
  have signs : sign ('0' :: letter :: text) = (false, '0' :: letter :: text) := rfl
  have whole : wholeDigits ('0' :: letter :: text) = some (['0'], letter :: text) := rfl
  have noFloat : float ('0' :: letter :: text) = none := by
    refine float_eq_none signs rfl whole ?_
    rintro _ ⟨rfl⟩
    simp [noPoint, noSmall, noLarge]
  rw [scalar, noTruth, noDate, noFloat, Option.none_or, Option.none_or, Option.none_or]

namespace IntegerText

variable {number : Int} {text rest : List Char}

theorem length_lt (written : IntegerText number text rest) : rest.length < text.length := by
  cases written with
  | decimal signs written =>
      obtain ⟨digits, written⟩ := written.exists_digits
      have shorter := written.length_lt
      cases signs with
      | none => exact shorter
      | plus => exact Nat.lt_succ_of_lt shorter
      | minus => exact Nat.lt_succ_of_lt shorter
  | based _ written => exact Nat.lt_succ_of_lt (Nat.lt_succ_of_lt written.length_lt)

theorem begins (written : IntegerText number text rest) :
    ∃ c behind, text = c :: behind ∧ (Text.isDigit c = true ∨ c = '+' ∨ c = '-') := by
  cases written with
  | decimal signs written =>
      obtain ⟨c, behind, rfl, digit⟩ := written.opens
      cases signs with
      | none => exact ⟨c, behind, rfl, .inl digit⟩
      | plus => exact ⟨_, _, rfl, .inr (.inl rfl)⟩
      | minus => exact ⟨_, _, rfl, .inr (.inr rfl)⟩
  | based => exact ⟨_, _, rfl, .inl rfl⟩

theorem opens (written : IntegerText number text rest) :
    ∃ c behind, text = c :: behind ∧ opensScalar c = true := by
  obtain ⟨c, behind, rfl, digit | rfl | rfl⟩ := written.begins
  · have same : c.isDigit = true := digit
    exact ⟨c, behind, rfl, by simp [opensScalar, Char.isAlphanum, same]⟩
  · exact ⟨_, _, rfl, rfl⟩
  · exact ⟨_, _, rfl, rfl⟩

theorem boolean_eq (written : IntegerText number text rest) : boolean text = none := by
  obtain ⟨c, behind, rfl, first⟩ := written.begins
  have other {letter : Char} (noDigit : Text.isDigit letter = false)
      (noSign : letter ≠ '+' ∧ letter ≠ '-') : c ≠ letter := by
    rintro rfl
    simp [noDigit, noSign] at first
  rw [boolean.eq_def]
  split
  · next same => exact absurd (List.cons.inj same).1 (other rfl (by decide))
  · next same => exact absurd (List.cons.inj same).1 (other rfl (by decide))
  · rfl

theorem scalar_eq (written : IntegerText number text rest) (ended : Ended rest) :
    scalar text = some (.integer number, rest) := by
  have noTruth := written.boolean_eq
  cases written with
  | decimal signs written fits =>
      obtain ⟨digits, read, _⟩ := written.wholeDigits_eq ended
      have parts : ['.', 'e', 'E'] ⊆ numberSigns := by decide
      have noFloat := float_eq_none (written.sign_eq signs) written.specialFloat_eq read
        fun c first member => (ended.apart c first).2 (parts member)
      rw [scalar, noTruth, written.datetime_eq signs ended, noFloat,
        written.integer_eq signs ended fits]
      rfl
  | based base written value fits =>
      simp only [List.mem_cons, List.not_mem_nil, or_false, Prod.mk.injEq] at base
      have read := fun noLine => baseInteger_eq written noLine value fits ended
      rcases base with ⟨rfl, rfl⟩ | ⟨rfl, rfl⟩ | ⟨rfl, rfl⟩ <;>
        exact (scalar_zero_letter rfl (by decide) _).trans (read rfl)

end IntegerText

section Reading

variable {text rest : List Char}

theorem exists_number? {digits : List Char} (all : ∀ c ∈ digits, Text.isDigit c = true) :
    ∃ number, Text.number? 10 digits = some number := by
  rw [Text.number?]
  generalize 0 = start
  induction digits generalizing start with
  | nil => exact ⟨start, rfl⟩
  | cons c digits ih =>
      rw [List.forall_mem_cons] at all
      have small : Text.digitValue c < 10 := by
        have bounds := all.1
        simp only [Text.isDigit, Bool.and_eq_true, decide_eq_true_eq, Char.le_def,
          UInt32.le_iff_toNat_le] at bounds
        have last : c.toNat ≤ 57 := bounds.2
        have zero : '0'.toNat = 48 := rfl
        rw [Text.digitValue, zero]
        omega
      obtain ⟨number, value⟩ := ih all.2 (10 * start + Text.digitValue c)
      exact ⟨number, by simpa [Text.hexDigit?, all.1, small] using value⟩

theorem decimalText_of_wholeDigits {digits : List Char}
    (read : wholeDigits text = some (digits, rest)) :
    DecimalText (decimalValue digits) text rest := by
  rw [wholeDigits.eq_def] at read
  split at read
  · next rest =>
      obtain ⟨rfl, rfl⟩ := read
      exact .zero rest
  · next other =>
      have written := digits_of_grouped read
      obtain ⟨number, value⟩ := exists_number? written.all
      obtain ⟨c, behind, rfl, first, _⟩ := written.opens
      cases digits with
      | nil => contradiction
      | cons d digits =>
          obtain rfl : d = c := by simpa using first
          refine .digits (fun zero => other behind (by rw [zero])) written ?_
          rw [decimalValue, value, Option.getD_some]

theorem signText_of_sign {negative : Bool} {whole : List Char}
    (signs : sign text = (negative, whole)) : SignText negative text whole := by
  rw [sign.eq_def] at signs
  split at signs
  · cases signs
    exact .minus _
  · cases signs
    exact .plus _
  · cases signs
    exact .none _

theorem exists_of_baseInteger {base : Nat} {value : Value}
    (read : baseInteger base text = some (value, rest)) :
    ∃ digits number, Digits (isDigitOf base) digits text rest ∧
      Text.number? base digits = some number ∧ fitsInteger number = true ∧
      value = .integer number := by
  simp only [baseInteger, Option.bind_eq_bind, Option.bind_eq_some_iff,
    Option.ite_none_right_eq_some, Option.some.injEq, Prod.mk.injEq] at read
  obtain ⟨⟨digits, behind⟩, taken, number, written, fits, rfl, rfl⟩ := read
  exact ⟨digits, number, digits_of_grouped taken, written, fits, rfl⟩

theorem exists_of_integer {value : Value} (read : integer text = some (value, rest)) :
    ∃ number, value = .integer number ∧ IntegerText number text rest := by
  have based {letter : Char} {base : Nat} {text : List Char}
      (listed : (letter, base) ∈ [('x', 16), ('o', 8), ('b', 2)])
      (read : baseInteger base text = some (value, rest)) :
      ∃ number, value = .integer number ∧ IntegerText number ('0' :: letter :: text) rest := by
    obtain ⟨digits, number, written, given, fits, rfl⟩ := exists_of_baseInteger read
    exact ⟨number, rfl, .based listed written given fits⟩
  rw [integer.eq_def] at read
  split at read
  · exact based (by simp) read
  · exact based (by simp) read
  · exact based (by simp) read
  · simp only [Option.bind_eq_bind, Option.bind_eq_some_iff, Option.ite_none_right_eq_some,
      Option.some.injEq, Prod.mk.injEq] at read
    obtain ⟨⟨digits, behind⟩, taken, fits, rfl, rfl⟩ := read
    exact ⟨_, rfl, .decimal (signText_of_sign rfl) (decimalText_of_wholeDigits taken) fits⟩

theorem exists_of_datetime {value : Value} (read : datetime text = some (value, rest)) :
    ∃ shown, value = .datetime shown := by
  have told {part : Option (List Char)}
      (read : (part.bind fun rest => some (.datetime (before text rest), rest)) =
        some (value, rest)) : ∃ shown, value = .datetime shown := by
    obtain ⟨behind, _, same⟩ := Option.bind_eq_some_iff.mp read
    cases same
    exact ⟨_, rfl⟩
  simp only [datetime, Option.bind_eq_bind] at read
  split at read
  · exact told read
  · split at read <;> exact told read

theorem exists_of_float {value : Value} (read : float text = some (value, rest)) :
    ∃ shown, value = .float shown := by
  have told {large : Prop} [Decidable large] {behind : List Char}
      (read : (if large then none else some (.float (before text behind), behind)) =
        some (value, rest)) : ∃ shown, value = .float shown := by
    rw [Option.ite_none_left_eq_some] at read
    cases read.2
    exact ⟨_, rfl⟩
  rw [float] at read
  dsimp only at read
  split at read
  · cases read
    exact ⟨_, rfl⟩
  · obtain ⟨⟨whole, behind⟩, _, read⟩ := Option.bind_eq_some_iff.mp read
    dsimp only at read
    split at read
    · split at read <;> exact told read
    · obtain ⟨_, _, read⟩ := Option.bind_eq_some_iff.mp read
      exact told read

theorem scalar_cases {value : Value} (read : scalar text = some (value, rest)) :
    boolean text = some (value, rest) ∨ (∃ shown, value = .datetime shown) ∨
      (∃ shown, value = .float shown) ∨
      ∃ number, value = .integer number ∧ IntegerText number text rest := by
  simp only [scalar, Option.or_eq_some_iff] at read
  rcases read with truth | ⟨_, date | ⟨_, float | ⟨_, whole⟩⟩⟩
  · exact .inl truth
  · exact .inr (.inl (exists_of_datetime date))
  · exact .inr (.inr (.inl (exists_of_float float)))
  · exact .inr (.inr (.inr (exists_of_integer whole)))

end Reading

end PolicyGate.Toml
