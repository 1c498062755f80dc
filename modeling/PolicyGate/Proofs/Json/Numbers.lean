import PolicyGate.Proofs.Json.Reading

/-!
Numbers are passed over to their end, which whatever may follow a value makes plain.
-/

namespace PolicyGate.Json

open Reader

def Follows (rest : List Char) : Prop :=
  ∀ c ∈ rest.head?, c ∈ [' ', '\n', '\t', '\r', ',', ']', '}']

theorem Follows.sign {c : Char} (listed : c ∈ [' ', '\n', '\t', '\r', ',', ']', '}'])
    (rest : List Char) : Follows (c :: rest) := by
  rintro _ ⟨rfl⟩
  exact listed

theorem Follows.gap {gap rest : List Char} (allGap : IsGap gap) (follows : Follows rest) :
    Follows (gap ++ rest) := by
  cases gap with
  | nil => exact follows
  | cons c gap =>
      have first : c ∈ [' ', '\n', '\t', '\r'] := allGap c List.mem_cons_self
      exact .sign (List.mem_append_left [',', ']', '}'] first) _

theorem Follows.ends {rest : List Char} (follows : Follows rest) :
    ∀ c ∈ rest.head?, Text.isDigit c = false ∧ c ≠ '.' ∧ c ≠ 'e' ∧ c ≠ 'E' := by
  intro c first
  have listed := follows c first
  simp only [List.mem_cons, List.not_mem_nil, or_false] at listed
  rcases listed with rfl | rfl | rfl | rfl | rfl | rfl | rfl <;> decide

section Parts

variable {text rest : List Char}

theorem reads_someDigits (nonempty : text ≠ []) (allDigits : AllDigits text)
    (ends : ∀ c ∈ rest.head?, Text.isDigit c = false) :
    ∃ c, (text ++ rest).head? = some c ∧ Text.isDigit c = true ∧
      Reads digits text (text ++ rest) rest := by
  obtain ⟨c, others, rfl⟩ := List.exists_cons_of_ne_nil nonempty
  exact ⟨c, rfl, allDigits c List.mem_cons_self, reads_digits allDigits ends⟩

theorem reads_skipExponent (letter : Char) {sign : List Char} (signed : sign ∈ [[], ['+'], ['-']])
    (nonempty : text ≠ []) (allDigits : AllDigits text)
    (ends : ∀ c ∈ rest.head?, Text.isDigit c = false) :
    Reads skipExponent () (letter :: (sign ++ (text ++ rest))) rest := by
  obtain ⟨c, first, digit, read⟩ := reads_someDigits nonempty allDigits ends
  have noPlus : c ≠ '+' := by
    rintro rfl
    contradiction
  have noMinus : c ≠ '-' := by
    rintro rfl
    contradiction
  have behind {next : Option Char → Reader Unit} (digitsNext : next (some c) = discard digits) :
      Reads (peek >>= next) () (text ++ rest) rest := by
    refine .bind (reads_peek _) ?_
    rw [first, digitsNext]
    exact read.discard
  refine .bind (reads_skip letter _) (.bind (reads_peek _) ?_)
  simp only [List.mem_cons, List.not_mem_nil, or_false] at signed
  rcases signed with rfl | rfl | rfl
  · simp only [List.nil_append, first, Option.some.injEq, noPlus, noMinus, or_self, if_false]
    exact behind (if_pos digit)
  · exact .bind (reads_skip '+' _) (behind (if_pos digit))
  · exact .bind (reads_skip '-' _) (behind (if_pos digit))

theorem ExponentText.apart (exponent : ExponentText text) (follows : Follows rest) :
    ∀ c ∈ (text ++ rest).head?, Text.isDigit c = false ∧ c ≠ '.' := by
  cases exponent with
  | none => exact fun c first => ⟨(follows.ends c first).1, (follows.ends c first).2.1⟩
  | digits letter =>
      rintro _ ⟨rfl⟩
      simp only [List.mem_cons, List.not_mem_nil, or_false] at letter
      rcases letter with rfl | rfl <;> decide

theorem FractionText.digitless {fraction : List Char} (given : FractionText fraction)
    (exponent : ExponentText text) (follows : Follows rest) :
    ∀ c ∈ (fraction ++ (text ++ rest)).head?, Text.isDigit c = false := by
  cases given with
  | none => exact fun c first => (exponent.apart follows c first).1
  | digits =>
      rintro _ ⟨rfl⟩
      rfl

def skipExponentPart : Reader Unit := do
  match ← peek with
  | some 'e' | some 'E' => skipExponent
  | _ => pure ()

theorem ExponentText.reads_part (exponent : ExponentText text) (follows : Follows rest) :
    Reads skipExponentPart () (text ++ rest) rest := by
  refine .bind (reads_peek _) ?_
  cases exponent with
  | none =>
      have other (c : Char) (first : rest.head? = some c) := (follows.ends c first).2
      split
      · next small => exact absurd rfl (other _ small).2.1
      · next large => exact absurd rfl (other _ large).2.2
      · exact .pure () rest
  | @digits _ sign digits letter signed nonempty allDigits =>
      have read (letter : Char) := reads_skipExponent letter signed nonempty allDigits
        fun c first => (follows.ends c first).1
      simp only [List.mem_cons, List.not_mem_nil, or_false] at letter
      rcases letter with rfl | rfl
      · simpa using read 'e'
      · simpa using read 'E'

theorem reads_skipFraction_point {digits : List Char} (nonempty : digits ≠ [])
    (allDigits : AllDigits digits) (ends : ∀ c ∈ text.head?, Text.isDigit c = false)
    (read : Reads skipExponentPart () text rest) :
    Reads skipFraction () ('.' :: (digits ++ text)) rest := by
  have some : digits.isEmpty = false := by simpa using nonempty
  refine .bind (reads_peek _) (.bind (reads_skip '.' _) (.bind (reads_digits allDigits ends) ?_))
  simp only [some, Bool.false_eq_true, if_false]
  exact read

theorem reads_skipFraction_of_part (noPoint : text.head? ≠ some '.')
    (read : Reads skipExponentPart () text rest) : Reads skipFraction () text rest := by
  refine .bind (reads_peek _) ?_
  change Reads (match text.head? with
    | some 'e' | some 'E' => skipExponent
    | _ => pure ()) () text rest at read
  split
  · next point => exact absurd point noPoint
  · next small => rwa [small] at read
  · next large => rwa [large] at read
  · next small large =>
      split at read
      · next same => exact absurd same small
      · next same => exact absurd same large
      · exact read

theorem FractionText.reads_skipFraction {fraction : List Char} (given : FractionText fraction)
    (exponent : ExponentText text) (follows : Follows rest) :
    Reads skipFraction () (fraction ++ (text ++ rest)) rest := by
  have apart := exponent.apart follows
  cases given with
  | none =>
      exact reads_skipFraction_of_part (fun point => (apart _ point).2 rfl)
        (exponent.reads_part follows)
  | digits nonempty allDigits =>
      exact reads_skipFraction_point nonempty allDigits (fun c first => (apart c first).1)
        (exponent.reads_part follows)

theorem WholeText.reads_skipNumber {whole : List Char} (given : WholeText whole)
    (ends : ∀ c ∈ text.head?, Text.isDigit c = false) (read : Reads skipFraction () text rest) :
    Reads skipNumber () (whole ++ text) rest := by
  refine .bind (reads_peek _) ?_
  cases given with
  | zero =>
      have single : (text.head?.map Text.isDigit).getD false = false := by
        cases first : text.head? with
        | none => rfl
        | some c => exact ends c first
      refine .bind (reads_skip '0' text) (.bind (reads_peek _) ?_)
      simp only [single, Bool.false_eq_true, if_false]
      exact read
  | @digits c others digit notZero allDigits =>
      have all : AllDigits (c :: others) := List.forall_mem_cons.mpr ⟨digit, allDigits⟩
      simp only [List.cons_append, List.head?_cons, digit, Bool.not_true, Bool.false_eq_true,
        if_false, if_neg notZero]
      exact .bind (reads_digits all ends).discard read

end Parts

theorem WholeText.opens {whole : List Char} (given : WholeText whole) :
    ∃ c others, whole = c :: others ∧ Text.isDigit c = true := by
  cases given with
  | zero => exact ⟨'0', [], rfl, rfl⟩
  | digits digit => exact ⟨_, _, rfl, digit⟩

end PolicyGate.Json
