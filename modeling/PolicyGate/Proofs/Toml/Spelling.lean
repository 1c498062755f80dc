import PolicyGate.Toml.Text

/-!
How blanks, comments, strings and keys are written. Each relation holds between a text and what is
left of it behind the written part, and each reader takes what its relation allows.
-/

namespace PolicyGate.Toml

theorem exists_fuel {length fuel : Nat} (enough : length < fuel) : ∃ less, fuel = less + 1 :=
  Nat.exists_eq_add_one_of_ne_zero (Nat.ne_zero_of_lt enough)

theorem ne_of_test {test : Char → Bool} {c d : Char} (passes : test c = true)
    (fails : test d = false) : c ≠ d := by
  rintro rfl
  rw [fails] at passes
  exact Bool.false_ne_true passes

theorem takeWhile_append_stop {test : Char → Bool} {chars rest : List Char}
    (all : ∀ c ∈ chars, test c = true) (stops : ∀ c ∈ rest.head?, test c = false) :
    (chars ++ rest).takeWhile test = chars := by
  rw [List.takeWhile_append_of_pos all]
  cases rest with
  | nil => simp
  | cons c rest => simp [stops c rfl]

inductive Run (allows : Char → Bool) : List Char → List Char → Prop
  | none (text : List Char) : Run allows text text
  | cons {c : Char} {text rest : List Char} :
      allows c = true → Run allows text rest → Run allows (c :: text) rest

namespace Run

variable {allows : Char → Bool} {text rest : List Char}

theorem dropWhile_eq (run : Run allows text rest) :
    text.dropWhile allows = rest.dropWhile allows := by
  induction run with
  | none => rfl
  | cons allowed _ ih => rw [List.dropWhile_cons_of_pos allowed, ih]

theorem length_le (run : Run allows text rest) : rest.length ≤ text.length := by
  induction run with
  | none => exact Nat.le_refl _
  | cons _ _ ih => exact Nat.le_succ_of_le ih

theorem eq_of_head {c : Char} (other : allows c = false) (run : Run allows (c :: text) rest) :
    rest = c :: text := by
  cases run with
  | none => rfl
  | cons allowed => exact absurd rfl (ne_of_test allowed other)

end Run

abbrev Gap : List Char → List Char → Prop := Run isGap

theorem skipGap_cons {c : Char} (visible : isGap c = false) (rest : List Char) :
    skipGap (c :: rest) = c :: rest :=
  List.dropWhile_cons_of_neg (by simp [visible])

theorem skipGap_of_gap {text rest : List Char} (gap : Gap text rest) :
    skipGap text = skipGap rest :=
  gap.dropWhile_eq

theorem skipGap_of_gap_cons {text rest : List Char} {c : Char} (gap : Gap text (c :: rest))
    (visible : isGap c = false) : skipGap text = c :: rest := by
  rw [skipGap_of_gap gap, skipGap_cons visible]

inductive LineEnd : List Char → List Char → Prop
  | feed (rest : List Char) : LineEnd ('\n' :: rest) rest
  | returned (rest : List Char) : LineEnd ('\r' :: '\n' :: rest) rest

namespace LineEnd

variable {text rest : List Char}

theorem lineEnd?_eq (ends : LineEnd text rest) : lineEnd? text = some rest := by
  cases ends <;> rfl

theorem length_lt (ends : LineEnd text rest) : rest.length < text.length := by
  cases ends <;> (simp only [List.length_cons]; omega)

theorem dropWhile_isPlain (ends : LineEnd text rest) : text.dropWhile isPlain = text := by
  cases ends <;> rfl

theorem skipGap_eq (ends : LineEnd text rest) : skipGap text = text := by
  cases ends <;> rfl

end LineEnd

/-- What may stand behind an entry or a header: blanks, a comment, and the end of the line or of the
text. -/
inductive Finish : List Char → List Char → Prop
  | line {text last rest : List Char} : Gap text last → LineEnd last rest → Finish text rest
  | text {text : List Char} : Gap text [] → Finish text []
  | remark {text comment last rest : List Char} : Gap text ('#' :: comment) →
      Run isPlain comment last → LineEnd last rest → Finish text rest
  | lastRemark {text comment : List Char} : Gap text ('#' :: comment) →
      Run isPlain comment [] → Finish text []

theorem Finish.finishLine_eq {text rest : List Char} (finish : Finish text rest) :
    finishLine text = some rest := by
  cases finish with
  | line gap ends =>
      rw [finishLine, skipGap_of_gap gap, ends.skipGap_eq]
      cases ends <;> rfl
  | text gap =>
      rw [finishLine, skipGap_of_gap gap]
      rfl
  | remark gap remark ends =>
      rw [finishLine, skipGap_of_gap_cons gap rfl, skipComment, remark.dropWhile_eq,
        ends.dropWhile_isPlain]
      cases ends <;> rfl
  | lastRemark gap remark =>
      rw [finishLine, skipGap_of_gap_cons gap rfl, skipComment, remark.dropWhile_eq]
      rfl

theorem Finish.length_le {text rest : List Char} (finish : Finish text rest) :
    rest.length ≤ text.length := by
  cases finish with
  | line gap ends =>
      have := gap.length_le
      have := ends.length_lt
      omega
  | text => simp
  | remark gap remark ends =>
      have := gap.length_le
      have := remark.length_le
      have := ends.length_lt
      simp only [List.length_cons] at *
      omega
  | lastRemark => simp

/-- What may stand between the items of an array: blanks, line ends, and comments with theirs. -/
inductive Filler : List Char → List Char → Prop
  | none (text : List Char) : Filler text text
  | gap {c : Char} {text rest : List Char} :
      isGap c = true → Filler text rest → Filler (c :: text) rest
  | line {text next rest : List Char} : LineEnd text next → Filler next rest → Filler text rest
  | remark {text last next rest : List Char} : Run isPlain text last → LineEnd last next →
      Filler next rest → Filler ('#' :: text) rest

def stopsFiller (c : Char) : Bool := !isGap c && c ≠ '#' && c ≠ '\n' && c ≠ '\r'

theorem skipLinesFrom_cons {c : Char} (stops : stopsFiller c = true) (fuel : Nat)
    (rest : List Char) : skipLinesFrom (fuel + 1) (c :: rest) = some (c :: rest) := by
  simp only [stopsFiller, Bool.and_eq_true, Bool.not_eq_true', decide_eq_true_eq] at stops
  obtain ⟨⟨⟨visible, noRemark⟩, noFeed⟩, noReturn⟩ := stops
  rw [skipLinesFrom, skipGap_cons visible]
  split
  · next same => exact absurd (List.cons.inj same).1 noRemark
  · next same => exact absurd (List.cons.inj same).1 noFeed
  · next same => exact absurd (List.cons.inj same).1 noReturn
  · rfl

theorem Filler.length_le {text rest : List Char} (filler : Filler text rest) :
    rest.length ≤ text.length := by
  induction filler with
  | none => exact Nat.le_refl _
  | gap _ _ ih => exact Nat.le_succ_of_le ih
  | line ends _ ih => exact Nat.le_trans ih (Nat.le_of_lt ends.length_lt)
  | remark remark ends _ ih =>
      have := ends.length_lt
      have := remark.length_le
      simp only [List.length_cons]
      omega

theorem Filler.skipLinesFrom_eq {text behind rest : List Char} {c : Char}
    (filler : Filler text behind) (whole : behind = c :: rest) (stops : stopsFiller c = true)
    {fuel : Nat} (enough : text.length < fuel) : skipLinesFrom fuel text = some (c :: rest) := by
  induction filler generalizing fuel with
  | none =>
      obtain ⟨fuel, rfl⟩ := exists_fuel enough
      rw [whole]
      exact skipLinesFrom_cons stops fuel rest
  | @gap d text _ blank _ ih =>
      obtain ⟨fuel, rfl⟩ := exists_fuel enough
      have later := ih whole (Nat.lt_of_succ_lt enough)
      have skipped : skipGap (d :: text) = skipGap text := skipGap_of_gap (.cons blank (.none text))
      rw [skipLinesFrom] at later ⊢
      rwa [skipped]
  | line ends _ ih =>
      obtain ⟨fuel, rfl⟩ := exists_fuel enough
      have shorter := ends.length_lt
      have later := ih whole (Nat.lt_of_lt_of_le shorter (Nat.le_of_lt_succ enough))
      rw [skipLinesFrom, ends.skipGap_eq]
      cases ends with
      | feed => exact later
      | returned => simpa [lineEnd?] using later
  | @remark text last next _ remark ends _ ih =>
      obtain ⟨fuel, rfl⟩ := exists_fuel enough
      have shorter := ends.length_lt
      have short := remark.length_le
      rw [List.length_cons] at enough
      have later := ih whole (show next.length < fuel by omega)
      rw [skipLinesFrom, skipGap_cons rfl]
      simp only [skipComment, remark.dropWhile_eq, ends.dropWhile_isPlain, ends.lineEnd?_eq,
        Option.bind_eq_bind, Option.bind_some, later]

theorem Filler.skipLines_eq {text rest : List Char} {c : Char}
    (filler : Filler text (c :: rest)) (stops : stopsFiller c = true) :
    skipLines text = some (c :: rest) :=
  filler.skipLinesFrom_eq rfl stops (Nat.lt_succ_self _)

def shortEscapes : List (Char × Char) :=
  [('b', '\x08'), ('t', '\t'), ('n', '\n'), ('f', '\x0c'), ('r', '\r'), ('"', '"'), ('\\', '\\')]

inductive Escape (c : Char) : List Char → List Char → Prop
  | short {letter : Char} (rest : List Char) :
      (letter, c) ∈ shortEscapes → Escape c (letter :: rest) rest
  | four {digits : List Char} (rest : List Char) : digits.length = 4 →
      Text.number? 16 digits = some c.toNat → Escape c ('u' :: (digits ++ rest)) rest
  | eight {digits : List Char} (rest : List Char) : digits.length = 8 →
      Text.number? 16 digits = some c.toNat → Escape c ('U' :: (digits ++ rest)) rest

/-- None of them is a line end, which a backslash would take away. -/
theorem escape_short {letter c : Char} (listed : (letter, c) ∈ shortEscapes) (rest : List Char) :
    escape (letter :: rest) = some (c, rest) ∧ foldedLine? (letter :: rest) = none := by
  simp only [shortEscapes, List.mem_cons, Prod.mk.injEq, List.not_mem_nil, or_false] at listed
  rcases listed with ⟨rfl, rfl⟩ | ⟨rfl, rfl⟩ | ⟨rfl, rfl⟩ | ⟨rfl, rfl⟩ | ⟨rfl, rfl⟩ |
    ⟨rfl, rfl⟩ | ⟨rfl, rfl⟩ <;> exact ⟨rfl, rfl⟩

theorem character?_toNat (c : Char) : Text.character? c.toNat = some c := by
  have valid : c.toNat.isValidChar := c.valid
  rw [Text.character?, if_pos valid, Char.ofNat_toNat]

theorem codePoint_append {c : Char} {digits : List Char} {count : Nat}
    (length : digits.length = count) (number : Text.number? 16 digits = some c.toNat)
    (rest : List Char) : codePoint count (digits ++ rest) = some (c, rest) := by
  subst length
  simp [codePoint, number, character?_toNat]

namespace Escape

variable {c : Char} {text rest : List Char}

theorem escape_eq (escaped : Escape c text rest) : escape text = some (c, rest) := by
  cases escaped with
  | short rest listed => exact (escape_short listed rest).1
  | four rest length number => exact codePoint_append length number rest
  | eight rest length number => exact codePoint_append length number rest

theorem length_lt (escaped : Escape c text rest) : rest.length < text.length := by
  cases escaped <;> (simp only [List.length_cons, List.length_append]; omega)

theorem foldedLine?_eq (escaped : Escape c text rest) : foldedLine? text = none := by
  cases escaped with
  | short rest listed => exact (escape_short listed rest).2
  | four => rfl
  | eight => rfl

end Escape

inductive BasicChars : List Char → List Char → List Char → Prop
  | nil (rest : List Char) : BasicChars [] rest rest
  | plain {c : Char} {chars text rest : List Char} : isPlain c = true → c ≠ '"' → c ≠ '\\' →
      BasicChars chars text rest → BasicChars (c :: chars) (c :: text) rest
  | escape {c : Char} {chars text next rest : List Char} : Escape c text next →
      BasicChars chars next rest → BasicChars (c :: chars) ('\\' :: text) rest

theorem BasicChars.basicFrom_eq {chars text behind rest : List Char}
    (basic : BasicChars chars text behind) (closed : behind = '"' :: rest) (found : List Char)
    {fuel : Nat} (enough : text.length < fuel) :
    basicFrom fuel found text = some (.ofList (found.reverse ++ chars), rest) := by
  induction basic generalizing found fuel with
  | nil =>
      obtain ⟨fuel, rfl⟩ := exists_fuel enough
      rw [closed, basicFrom, if_pos rfl, List.append_nil]
  | plain allowed noQuote noBackslash _ ih =>
      obtain ⟨fuel, rfl⟩ := exists_fuel enough
      rw [basicFrom, if_neg noQuote, if_neg noBackslash, if_pos allowed,
        ih closed _ (Nat.lt_of_succ_lt_succ enough)]
      simp
  | @escape c _ _ next _ escaped _ ih =>
      obtain ⟨fuel, rfl⟩ := exists_fuel enough
      have shorter := escaped.length_lt
      rw [List.length_cons] at enough
      have later := ih closed (c :: found) (show next.length < fuel by omega)
      rw [basicFrom, if_neg (by decide), if_pos rfl, escaped.escape_eq]
      simpa using later

theorem BasicChars.length_le {chars text rest : List Char} (basic : BasicChars chars text rest) :
    rest.length ≤ text.length := by
  induction basic with
  | nil => exact Nat.le_refl _
  | plain _ _ _ _ ih => exact Nat.le_succ_of_le ih
  | escape escaped _ ih =>
      have := escaped.length_lt
      simp only [List.length_cons]
      omega

inductive LiteralChars : List Char → List Char → List Char → Prop
  | nil (rest : List Char) : LiteralChars [] rest rest
  | plain {c : Char} {chars text rest : List Char} : isPlain c = true → c ≠ '\x27' →
      LiteralChars chars text rest → LiteralChars (c :: chars) (c :: text) rest

theorem LiteralChars.literalFrom_eq {chars text behind rest : List Char}
    (literal : LiteralChars chars text behind) (closed : behind = '\x27' :: rest)
    (found : List Char) :
    literalFrom found text = some (.ofList (found.reverse ++ chars), rest) := by
  induction literal generalizing found with
  | nil => rw [closed, literalFrom, if_pos rfl, List.append_nil]
  | plain allowed noQuote _ ih =>
      rw [literalFrom, if_neg noQuote, if_pos allowed, ih closed]
      simp

theorem LiteralChars.length_le {chars text rest : List Char}
    (literal : LiteralChars chars text rest) : rest.length ≤ text.length := by
  induction literal with
  | nil => exact Nat.le_refl _
  | plain _ _ _ ih => exact Nat.le_succ_of_le ih

inductive ShortString : String → List Char → List Char → Prop
  | basic {chars text rest : List Char} : BasicChars chars text ('"' :: rest) →
      ShortString (.ofList chars) ('"' :: text) rest
  | literal {chars text rest : List Char} : LiteralChars chars text ('\x27' :: rest) →
      ShortString (.ofList chars) ('\x27' :: text) rest

namespace ShortString

variable {value : String} {text rest : List Char}

theorem shortString_eq (short : ShortString value text rest) :
    shortString text = some (value, rest) := by
  cases short with
  | basic basic => exact basic.basicFrom_eq rfl [] (Nat.lt_succ_self _)
  | literal literal => exact literal.literalFrom_eq rfl []

theorem length_lt (short : ShortString value text rest) : rest.length < text.length := by
  cases short with
  | basic basic =>
      have := basic.length_le
      simp only [List.length_cons] at *
      omega
  | literal literal =>
      have := literal.length_le
      simp only [List.length_cons] at *
      omega

end ShortString

inductive SimpleKey : String → List Char → List Char → Prop
  | bare {chars rest : List Char} : chars ≠ [] → (∀ c ∈ chars, isBareKeyChar c = true) →
      (∀ c ∈ rest.head?, isBareKeyChar c = false) → SimpleKey (.ofList chars) (chars ++ rest) rest
  | quoted {name : String} {text rest : List Char} : ShortString name text rest →
      SimpleKey name text rest

def opensKey (c : Char) : Bool := isBareKeyChar c || c = '"' || c = '\x27'

namespace SimpleKey

variable {name : String} {text rest : List Char}

theorem opens (simple : SimpleKey name text rest) :
    ∃ c behind, text = c :: behind ∧ opensKey c = true := by
  cases simple with
  | @bare chars _ nonempty bare _ =>
      obtain ⟨c, chars, rfl⟩ := List.exists_cons_of_ne_nil nonempty
      exact ⟨c, _, rfl, by simp [opensKey, bare c List.mem_cons_self]⟩
  | quoted short =>
      cases short with
      | basic => exact ⟨_, _, rfl, by decide⟩
      | literal => exact ⟨_, _, rfl, by decide⟩

theorem length_lt (simple : SimpleKey name text rest) : rest.length < text.length := by
  cases simple with
  | bare nonempty =>
      have := List.length_pos_iff.mpr nonempty
      rw [List.length_append]
      omega
  | quoted short => exact short.length_lt

theorem simpleKey_eq (simple : SimpleKey name text rest) :
    simpleKey text = some (name, rest) := by
  cases simple with
  | @bare chars _ nonempty bare closed =>
      have taken := takeWhile_append_stop bare closed
      obtain ⟨c, chars, rfl⟩ := List.exists_cons_of_ne_nil nonempty
      have first := bare c List.mem_cons_self
      unfold simpleKey
      split
      · next same => exact absurd (List.cons.inj same).1 (ne_of_test first (by decide))
      · next same => exact absurd (List.cons.inj same).1 (ne_of_test first (by decide))
      · simp only [taken, List.drop_left, if_neg nonempty]
  | quoted short =>
      have read := short.shortString_eq
      cases short with
      | basic => exact read
      | literal => exact read

end SimpleKey

inductive Key : List String → List Char → List Char → Prop
  | last {name : String} {text part behind rest : List Char} : Gap text part →
      SimpleKey name part behind → Gap behind rest → Key [name] text rest
  | dotted {name : String} {names : List String} {text part behind next rest : List Char} :
      Gap text part → SimpleKey name part behind → Gap behind ('.' :: next) →
      Key names next rest → Key (name :: names) text rest

theorem opensKey_not_isGap {c : Char} (opens : opensKey c = true) : isGap c = false := by
  rw [← Bool.not_eq_true, isGap, Bool.or_eq_true, decide_eq_true_eq, decide_eq_true_eq]
  rintro (rfl | rfl) <;> exact absurd opens (by decide)

namespace Key

variable {names : List String} {text rest : List Char}

theorem length_lt (key : Key names text rest) : rest.length < text.length := by
  induction key with
  | last before simple after =>
      have := before.length_le
      have := simple.length_lt
      have := after.length_le
      omega
  | dotted before simple after _ ih =>
      have := before.length_le
      have := simple.length_lt
      have := after.length_le
      simp only [List.length_cons] at *
      omega

def closes (c : Char) : Bool := c = '=' || c = ']'

theorem keyFrom_cons {c : Char} (closed : closes c = true) (found : List String) (fuel : Nat)
    {text rest : List Char} (gap : Gap text (c :: rest)) :
    keyFrom (fuel + 1) found text = some (found.reverse, c :: rest) := by
  simp only [closes, Bool.or_eq_true, decide_eq_true_eq] at closed
  rcases closed with rfl | rfl
  · rw [keyFrom, skipGap_of_gap_cons gap rfl]
    rfl
  · rw [keyFrom, skipGap_of_gap_cons gap rfl]
    rfl

theorem keyFrom_eq {behind : List Char} {c : Char} (key : Key names text behind)
    (whole : behind = c :: rest) (closed : closes c = true) :
    ∃ name others next, names = name :: others ∧ next.length < text.length ∧
      simpleKey (skipGap text) = some (name, next) ∧
      ∀ found fuel, next.length < fuel →
        keyFrom fuel found next = some (found.reverse ++ others, c :: rest) := by
  induction key with
  | @last name text part next _ before simple after =>
      obtain ⟨first, more, rfl, opens⟩ := simple.opens
      subst whole
      refine ⟨name, [], next, rfl, ?_, ?_, ?_⟩
      · exact Nat.lt_of_lt_of_le simple.length_lt before.length_le
      · rw [skipGap_of_gap_cons before (opensKey_not_isGap opens), simple.simpleKey_eq]
      · intro found fuel enough
        obtain ⟨fuel, rfl⟩ := exists_fuel enough
        rw [keyFrom_cons closed found fuel after, List.append_nil]
  | @dotted name names text part next later _ before simple after _ ih =>
      obtain ⟨first, more, rfl, opens⟩ := simple.opens
      obtain ⟨second, others, last, rfl, shorter, read, more⟩ := ih whole
      refine ⟨name, second :: others, next, rfl, ?_, ?_, ?_⟩
      · exact Nat.lt_of_lt_of_le simple.length_lt before.length_le
      · rw [skipGap_of_gap_cons before (opensKey_not_isGap opens), simple.simpleKey_eq]
      · intro found fuel enough
        obtain ⟨fuel, rfl⟩ := exists_fuel enough
        have short := after.length_le
        rw [List.length_cons] at short
        rw [keyFrom, skipGap_of_gap_cons after rfl]
        simp only [read, Option.bind_eq_bind, Option.bind_some]
        rw [more (second :: found) fuel (by omega)]
        simp

theorem key_eq {c : Char} (written : Key names text (c :: rest)) (closed : closes c = true)
    (short : names.length < depthLimit) : key text = some (names, c :: rest) := by
  obtain ⟨name, others, next, rfl, _, read, more⟩ := written.keyFrom_eq rfl closed
  have all := more [name] (next.length + 1) (Nat.lt_succ_self _)
  rw [List.reverse_singleton, List.singleton_append] at all
  simp only [key, read, all, Option.bind_eq_bind, Option.bind_some, if_pos short]

theorem opens (written : Key names text rest) :
    ∃ c behind, Gap text (c :: behind) ∧ opensKey c = true := by
  cases written with
  | last before simple =>
      obtain ⟨c, behind, rfl, opens⟩ := simple.opens
      exact ⟨c, behind, before, opens⟩
  | dotted before simple =>
      obtain ⟨c, behind, rfl, opens⟩ := simple.opens
      exact ⟨c, behind, before, opens⟩

theorem skipGap_opens (written : Key names text rest) :
    ∃ c behind, Toml.skipGap text = c :: behind ∧ opensKey c = true := by
  obtain ⟨c, behind, gap, opens⟩ := written.opens
  exact ⟨c, behind, skipGap_of_gap_cons gap (opensKey_not_isGap opens), opens⟩

theorem skipGap (written : Key names text rest) : Key names (Toml.skipGap text) rest := by
  cases written with
  | last before simple after =>
      obtain ⟨c, behind, rfl, opens⟩ := simple.opens
      rw [skipGap_of_gap_cons before (opensKey_not_isGap opens)]
      exact .last (.none _) simple after
  | dotted before simple after others =>
      obtain ⟨c, behind, rfl, opens⟩ := simple.opens
      rw [skipGap_of_gap_cons before (opensKey_not_isGap opens)]
      exact .dotted (.none _) simple after others

end Key

end PolicyGate.Toml
