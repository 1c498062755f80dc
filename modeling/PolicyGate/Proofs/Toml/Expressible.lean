import Mathlib.Data.List.Nodup
import PolicyGate.Proofs.Toml.Outline
import PolicyGate.Text.Quoted

/-!
What can be written at all: every string, every number that fits, and every list and table of such
values. Texts are made from their ends, so each part is given with what comes behind it.
-/

namespace PolicyGate.Toml

theorem exists_escape {c : Char} (special : ¬ (isPlain c = true ∧ c ≠ '"' ∧ c ≠ '\\'))
    (rest : List Char) : ∃ text, Escape c text rest := by
  have small : c.toNat < 128 := by
    apply Nat.lt_of_not_le
    intro large
    apply special
    refine ⟨?_, ?_, ?_⟩
    · simp only [isPlain, Bool.or_eq_true, Bool.and_eq_true, decide_eq_true_eq]
      omega
    · rintro rfl
      exact absurd large (by decide)
    · rintro rfl
      exact absurd large (by decide)
  have table : ∀ n < 128,
      Text.number? 16 ['0', '0', Nat.digitChar (n / 16), Nat.digitChar (n % 16)] = some n := by
    decide
  exact ⟨_, .four rest rfl (table c.toNat small)⟩

theorem exists_basicChars (chars rest : List Char) : ∃ text, BasicChars chars text rest := by
  induction chars with
  | nil => exact ⟨rest, .nil rest⟩
  | cons c chars ih =>
      obtain ⟨next, basic⟩ := ih
      by_cases ordinary : isPlain c = true ∧ c ≠ '"' ∧ c ≠ '\\'
      · exact ⟨_, .plain ordinary.1 ordinary.2.1 ordinary.2.2 basic⟩
      · obtain ⟨text, escaped⟩ := exists_escape ordinary next
        exact ⟨_, .escape escaped basic⟩

theorem exists_shortString (value : String) (rest : List Char) :
    ∃ text, ShortString value text rest := by
  obtain ⟨text, basic⟩ := exists_basicChars value.toList ('"' :: rest)
  have short := ShortString.basic basic
  rw [String.ofList_toList] at short
  exact ⟨_, short⟩

theorem hexDigit?_digitChar {digit : Nat} (small : digit < 16) :
    Text.hexDigit? (Nat.digitChar digit) = some digit := by
  have table : ∀ n < 16, Text.hexDigit? (Nat.digitChar n) = some n := by decide
  exact table digit small

theorem number?_concat (digits : List Char) (c : Char) :
    Text.number? 16 (digits ++ [c]) =
      (Text.number? 16 digits).bind fun value => (Text.hexDigit? c).bind fun digit =>
        if digit < 16 then some (16 * value + digit) else none := by
  simp [Text.number?, List.foldlM_append]

theorem hexText_of_small {number : Nat} (small : number < 16) :
    Text.hexText number = [Nat.digitChar number] :=
  Nat.toDigits_of_lt_base small

theorem hexText_of_large {number : Nat} (large : 16 ≤ number) :
    Text.hexText number = Text.hexText (number / 16) ++ [Nat.digitChar (number % 16)] := by
  have last := Nat.mod_lt number (show 0 < 16 by decide)
  rw [← hexText_of_small last, Text.hexText, Text.hexText, Text.hexText,
    Nat.toDigits_append_toDigits (by decide) (by omega) last, Nat.div_add_mod]

theorem number?_hexText (number : Nat) : Text.number? 16 (Text.hexText number) = some number := by
  induction number using Nat.strongRecOn with
  | ind number ih =>
      by_cases small : number < 16
      · rw [hexText_of_small small, ← List.nil_append [_], number?_concat,
          hexDigit?_digitChar small]
        simp [Text.number?, small]
      · have last := Nat.mod_lt number (show 0 < 16 by decide)
        rw [hexText_of_large (by omega), number?_concat, ih _ (by omega),
          hexDigit?_digitChar last, Option.bind_some, Option.bind_some, if_pos last,
          Nat.div_add_mod]

theorem isDigitOf_of_mem_hexText (number : Nat) :
    ∀ c ∈ Text.hexText number, isDigitOf 16 c = true := by
  have table : ∀ n < 16, isDigitOf 16 (Nat.digitChar n) = true := by decide
  induction number using Nat.strongRecOn with
  | ind number ih =>
      intro c member
      by_cases small : number < 16
      · rw [hexText_of_small small, List.mem_singleton] at member
        rw [member]
        exact table number small
      · rw [hexText_of_large (by omega), List.mem_append, List.mem_singleton] at member
        rcases member with earlier | rfl
        · exact ih (number / 16) (by omega) c earlier
        · exact table _ (Nat.mod_lt number (by decide))

theorem fitsInteger_of_lt {number : Nat} (small : number < Nat.pow 2 63) :
    fitsInteger number = true := by
  have bound : Nat.pow 2 63 = 9223372036854775808 := rfl
  have integerBound : Int.pow 2 63 = 9223372036854775808 := rfl
  rw [bound] at small
  simp only [fitsInteger, integerBound, Bool.and_eq_true, decide_eq_true_eq]
  constructor
  · omega
  · omega

def closesValue (c : Char) : Bool := c = ',' || c = '}' || c = '\n'

theorem cases_of_closesValue {c : Char} (closes : closesValue c = true) :
    c = ',' ∨ c = '}' ∨ c = '\n' := by
  simpa [closesValue, or_assoc] using closes

theorem ended_of_closesValue {rest : List Char} (closed : ∀ c ∈ rest.head?, closesValue c = true) :
    Ended rest := by
  intro c first
  rcases cases_of_closesValue (closed c first) with rfl | rfl | rfl <;> decide

def Expressible (depth : Nat) (value : Value) : Prop :=
  ∀ rest : List Char, (∀ c ∈ rest.head?, closesValue c = true) →
    ∃ text, ValueText depth value text rest

namespace Expressible

variable {depth : Nat}

theorem of_plain {value : Value} {text rest : List Char} (plain : PlainValue value text rest) :
    ValueText depth value text rest := by
  cases depth with
  | zero => exact plain
  | succ depth => exact .inl plain

theorem string (text : String) : Expressible depth (.string text) := by
  intro rest closed
  obtain ⟨written, short⟩ := exists_shortString text rest
  refine ⟨written, of_plain (.string (.short short ?_))⟩
  intro c first
  rcases cases_of_closesValue (closed c first) with rfl | rfl | rfl <;> decide

theorem integer {number : Nat} (small : number < Nat.pow 2 63) :
    Expressible depth (.integer number) := by
  intro rest closed
  have nonempty : Text.hexText number ≠ [] := Nat.toDigits_ne_nil
  have digits := Digits.of_all nonempty (isDigitOf_of_mem_hexText number) rest
  have written := IntegerText.based (List.mem_cons_self : ('x', 16) ∈ _) digits (number?_hexText number)
    (fitsInteger_of_lt small)
  exact ⟨_, of_plain (.integer written (ended_of_closesValue closed))⟩

theorem array {values : List Value} (each : ∀ value ∈ values, Expressible depth value) :
    Expressible (depth + 1) (.array values) := by
  intro rest _
  have items : ∃ text, Items (ValueText depth) values text rest := by
    induction values with
    | nil => exact ⟨_, .close (.none _)⟩
    | cons value values ih =>
        obtain ⟨next, others⟩ := ih fun other among => each other (List.mem_cons_of_mem _ among)
        obtain ⟨text, first⟩ := each value List.mem_cons_self (',' :: next) (by simp [closesValue])
        exact ⟨text, .more (.none _) first (.none _) others⟩
  obtain ⟨text, items⟩ := items
  exact ⟨_, .inr (.array items)⟩

end Expressible

theorem exists_key (name : String) (start : List Char) :
    ∃ text, Key [name] text ('=' :: start) := by
  obtain ⟨text, short⟩ := exists_shortString name ('=' :: start)
  exact ⟨text, .last (.none _) (.quoted short) (.none _)⟩

def keyed (entries : Entries) : List (List String × Value) :=
  entries.map fun entry => ([entry.1], entry.2)

theorem Entries.put_of_find? {entries : Entries} {key : String}
    (absent : entries.find? key = none) (value : Value) :
    entries.put key value = entries ++ [(key, value)] := by
  induction entries with
  | nil => rfl
  | cons entry entries ih =>
      obtain ⟨first, other⟩ := entry
      rw [find?_cons] at absent
      by_cases same : key = first
      · simp [same] at absent
      · rw [if_neg same] at absent
        rw [put, if_neg (fun equal => same equal.symm), ih absent, List.cons_append]

theorem Entries.find?_eq_none {entries : Entries} {key : String}
    (absent : key ∉ entries.map Prod.fst) : entries.find? key = none := by
  induction entries with
  | nil => rfl
  | cons entry entries ih =>
      obtain ⟨first, other⟩ := entry
      rw [List.map_cons, List.mem_cons, not_or] at absent
      rw [find?_cons, if_neg absent.1, ih absent.2]

theorem insertAll_keyed_append (earlier entries : Entries)
    (different : ((earlier ++ entries).map Prod.fst).Nodup) :
    insertAll (keyed entries) earlier = some (earlier ++ entries) := by
  induction entries generalizing earlier with
  | nil => simp [keyed, insertAll]
  | cons entry entries ih =>
      obtain ⟨first, value⟩ := entry
      have absent : earlier.find? first = none := by
        apply Entries.find?_eq_none
        intro member
        rw [List.map_append, List.nodup_append] at different
        exact different.2.2 first member first List.mem_cons_self rfl
      have put : insertKey [first] value earlier = some (earlier ++ [(first, value)]) := by
        simp [insertKey, insertDotted, absent, Entries.put_of_find? absent]
      rw [List.append_cons] at different ⊢
      rw [← ih _ different]
      simp only [keyed, List.map_cons, insertAll, List.foldlM_cons, put, Option.bind_eq_bind,
        Option.bind_some]

theorem insertAll_keyed {entries : Entries} (different : (entries.map Prod.fst).Nodup) :
    insertAll (keyed entries) [] = some entries :=
  insertAll_keyed_append [] entries different

def Block.ofEntries (entries : Entries) (different : (entries.map Prod.fst).Nodup) : Block :=
  ⟨keyed entries, entries, insertAll_keyed different⟩

theorem Expressible.table {depth : Nat} {entries : Entries}
    (different : (entries.map Prod.fst).Nodup)
    (each : ∀ entry ∈ entries, Expressible depth entry.2) :
    Expressible (depth + 1) (.table .inline entries) := by
  intro rest _
  have short : 1 < depthLimit := by decide
  by_cases empty : entries = []
  · rw [empty]
    exact ⟨_, .inr (.emptyTable (.none _))⟩
  · have members : ∃ text, Members (ValueText depth) (keyed entries) text rest := by
      clear different
      induction entries with
      | nil => exact absurd rfl empty
      | cons entry entries ih =>
          have own := each entry List.mem_cons_self
          by_cases last : entries = []
          · subst last
            obtain ⟨start, given⟩ := own ('}' :: rest) (by simp [closesValue])
            obtain ⟨text, key⟩ := exists_key entry.1 start
            exact ⟨text, .last key short (.none _) given (.none _)⟩
          · obtain ⟨next, others⟩ :=
              ih (fun other among => each other (List.mem_cons_of_mem _ among)) last
            obtain ⟨start, given⟩ := own (',' :: next) (by simp [closesValue])
            obtain ⟨text, key⟩ := exists_key entry.1 start
            exact ⟨text, .more key short (.none _) given (.none _) others⟩
    obtain ⟨text, members⟩ := members
    exact ⟨_, .inr (.table members (insertAll_keyed different))⟩

theorem exists_written {entries : Entries}
    (each : ∀ entry ∈ entries, Expressible (depthLimit - 1) entry.2) :
    ∃ text, Written ((keyed entries).map fun member => .entry member.1 member.2) text := by
  induction entries with
  | nil => exact ⟨[], .nil⟩
  | cons entry entries ih =>
      obtain ⟨next, others⟩ := ih fun other among => each other (List.mem_cons_of_mem _ among)
      obtain ⟨start, given⟩ :=
        each entry List.mem_cons_self ('\n' :: next) (by simp [closesValue])
      obtain ⟨text, key⟩ := exists_key entry.1 start
      have short : 1 < depthLimit := by decide
      exact ⟨text, .line (.none _) (.entry key short (.none _) given)
        (.line (.none _) (.feed next)) others⟩

theorem Outline.value?_ofEntries {entries : Entries} (different : (entries.map Prod.fst).Nodup)
    (name : String) : Outline.value? ⟨.ofEntries entries different, []⟩ name =
      entries.find? name := by
  simp [value?, Section.together, Block.ofEntries]

theorem Outline.exists_document {entries : Entries} (different : (entries.map Prod.fst).Nodup)
    (each : ∀ entry ∈ entries, Expressible (depthLimit - 1) entry.2) :
    ∃ text, IsDocument (Outline.lines ⟨.ofEntries entries different, []⟩) text := by
  obtain ⟨text, written⟩ := exists_written each
  refine ⟨.ofList text, .inl ?_⟩
  rw [String.toList_ofList, lines, List.flatMap_nil, List.append_nil]
  exact written

/-- The entries of a record from what each of its fields is to be, if anything. -/
def offered (fields : List (String × Option Value)) : Entries :=
  fields.filterMap fun field => field.2.map fun value => (field.1, value)

theorem names_offered (fields : List (String × Option Value)) :
    ((offered fields).map Prod.fst).Sublist (fields.map Prod.fst) := by
  induction fields with
  | nil => exact .slnil
  | cons field fields ih =>
      obtain ⟨name, value?⟩ := field
      cases value? with
      | none => exact ih.cons name
      | some value => exact ih.cons_cons name

theorem find?_offered {fields : List (String × Option Value)}
    (different : (fields.map Prod.fst).Nodup) (name : String) :
    (offered fields).find? name = (fields.lookup name).join := by
  induction fields with
  | nil => rfl
  | cons field fields ih =>
      obtain ⟨first, value?⟩ := field
      rw [List.map_cons, List.nodup_cons] at different
      have later := ih different.2
      by_cases same : name = first
      · subst same
        have absent : (offered fields).find? name = none :=
          Entries.find?_eq_none fun member => different.1 ((names_offered fields).mem member)
        cases value? with
        | none => simpa [offered] using absent
        | some value => simp [offered, Entries.find?_cons]
      · have apart : (name == first) = false := by simpa using same
        rw [List.lookup_cons, apart]
        cases value? with
        | none => exact later
        | some value =>
            rw [← later]
            exact (Entries.find?_cons first name value _).trans (if_neg same)

theorem Expressible.offered {depth : Nat} {fields : List (String × Option Value)}
    (each : ∀ field ∈ fields, ∀ value ∈ field.2, Expressible depth value) :
    ∀ entry ∈ offered fields, Expressible depth entry.2 := by
  intro entry member
  obtain ⟨field, among, given⟩ := List.mem_filterMap.mp member
  obtain ⟨value, chosen, rfl⟩ := Option.map_eq_some_iff.mp given
  exact each field among value chosen

theorem Expressible.record {depth : Nat} {fields : List (String × Option Value)}
    (different : (fields.map Prod.fst).Nodup)
    (each : ∀ field ∈ fields, ∀ value ∈ field.2, Expressible depth value) :
    Expressible (depth + 1) (.table .inline (Toml.offered fields)) :=
  .table (different.sublist (names_offered fields)) (.offered each)

end PolicyGate.Toml
