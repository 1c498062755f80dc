import PolicyGate.Proofs.Toml.Integers
import PolicyGate.Toml.Document

/-!
How values are written, those inside others included.
-/

namespace PolicyGate.Toml

abbrev Spelling := Value → List Char → List Char → Prop

/-- The items of an array behind its bracket. A comma may stand behind the last. -/
inductive Items (item : Spelling) : List Value → List Char → List Char → Prop
  | close {text rest : List Char} : Filler text (']' :: rest) → Items item [] text rest
  | last {value : Value} {text start behind rest : List Char} : Filler text start →
      item value start behind → Filler behind (']' :: rest) → Items item [value] text rest
  | more {value : Value} {values : List Value} {text start behind next rest : List Char} :
      Filler text start → item value start behind → Filler behind (',' :: next) →
      Items item values next rest → Items item (value :: values) text rest

inductive Members (item : Spelling) :
    List (List String × Value) → List Char → List Char → Prop
  | last {names : List String} {value : Value} {text start first behind rest : List Char} :
      Key names text ('=' :: start) → names.length < depthLimit → Gap start first →
      item value first behind → Gap behind ('}' :: rest) →
      Members item [(names, value)] text rest
  | more {names : List String} {value : Value} {members : List (List String × Value)}
      {text start first behind next rest : List Char} :
      Key names text ('=' :: start) → names.length < depthLimit → Gap start first →
      item value first behind → Gap behind (',' :: next) → Members item members next rest →
      Members item ((names, value) :: members) text rest

def insertAll (members : List (List String × Value)) (entries : Entries) : Option Entries :=
  members.foldlM (fun entries member => insertKey member.1 member.2 entries) entries

inductive PlainValue : Spelling
  | string {value : String} {text rest : List Char} : StringText value text rest →
      PlainValue (.string value) text rest
  | boolean (truth : Bool) (rest : List Char) :
      PlainValue (.boolean truth) ((if truth then "true" else "false").toList ++ rest) rest
  | integer {number : Int} {text rest : List Char} : IntegerText number text rest → Ended rest →
      PlainValue (.integer number) text rest
  | float {shown : String} {c : Char} {written rest : List Char} : opensScalar c = true →
      scalar (c :: (written ++ rest)) = some (.float shown, rest) →
      PlainValue (.float shown) (c :: (written ++ rest)) rest
  | datetime {shown : String} {c : Char} {written rest : List Char} : opensScalar c = true →
      scalar (c :: (written ++ rest)) = some (.datetime shown, rest) →
      PlainValue (.datetime shown) (c :: (written ++ rest)) rest

/-- Nothing is left out that the reader takes in front of what may follow a value. -/
theorem PlainValue.of_scalar {value : Value} {c : Char} {written rest : List Char}
    (opens : opensScalar c = true) (read : scalar (c :: (written ++ rest)) = some (value, rest))
    (ended : Ended rest) : PlainValue value (c :: (written ++ rest)) rest := by
  rcases scalar_cases read with truth | ⟨shown, rfl⟩ | ⟨shown, rfl⟩ | ⟨number, rfl, whole⟩
  · generalize c :: (written ++ rest) = text at truth
    rw [Toml.boolean.eq_def] at truth
    split at truth
    · cases truth
      exact .boolean true rest
    · cases truth
      exact .boolean false rest
    · contradiction
  · exact .datetime opens read
  · exact .float opens read
  · exact .integer whole ended

inductive HoldingValue (item : Spelling) : Spelling
  | array {values : List Value} {text rest : List Char} : Items item values text rest →
      HoldingValue item (.array values) ('[' :: text) rest
  | emptyTable {text rest : List Char} : Gap text ('}' :: rest) →
      HoldingValue item (.table .inline []) ('{' :: text) rest
  | table {members : List (List String × Value)} {entries : Entries} {text rest : List Char} :
      Members item members text rest → insertAll members [] = some entries →
      HoldingValue item (.table .inline entries) ('{' :: text) rest

def ValueText : Nat → Spelling
  | 0 => PlainValue
  | depth + 1 => fun value text rest =>
    PlainValue value text rest ∨ HoldingValue (ValueText depth) value text rest

def opensValue (c : Char) : Bool := opensScalar c || isQuote c || c = '[' || c = '{'

theorem stopsFiller_of_opensValue {c : Char} (opens : opensValue c = true) :
    stopsFiller c = true := by
  rw [← Bool.not_eq_false]
  intro passes
  simp only [stopsFiller, isGap, Bool.and_eq_false_iff, Bool.not_eq_false', Bool.or_eq_true,
    decide_eq_true_eq, decide_eq_false_iff_not, Classical.not_not] at passes
  rcases passes with (((rfl | rfl) | rfl) | rfl) | rfl <;> exact absurd opens (by decide)

theorem isGap_of_stopsFiller {c : Char} (stops : stopsFiller c = true) : isGap c = false := by
  simp only [stopsFiller, Bool.and_eq_true, Bool.not_eq_true'] at stops
  exact stops.1.1.1

/-- What a reader of values must do for texts of a spelling. -/
structure Spelling.ReadBy (item : Spelling) (read : List Char → Option (Value × List Char)) :
    Prop where
  reads : ∀ {value text rest}, item value text rest → read text = some (value, rest)
  shortens : ∀ {value text rest}, item value text rest → rest.length < text.length
  opens : ∀ {value text rest}, item value text rest →
    ∃ c behind, text = c :: behind ∧ opensValue c = true

section Holding

variable {item : Spelling} {read : List Char → Option (Value × List Char)}

theorem itemsFrom_more {value : Value} {c : Char} {text behind next rest : List Char}
    (skipped : skipLines text = some (c :: behind)) (other : c ≠ ']')
    (given : read (c :: behind) = some (value, next)) (after : skipLines next = some (',' :: rest))
    (found : List Value) (fuel : Nat) :
    itemsFrom read (fuel + 1) found text = itemsFrom read fuel (value :: found) rest := by
  rw [itemsFrom, skipped, Option.bind_eq_bind, Option.bind_some]
  split
  · next same => exact absurd (List.cons.inj same).1 other
  · simp only [given, after, Option.bind_eq_bind, Option.bind_some]

theorem itemsFrom_last {value : Value} {c : Char} {text behind next rest : List Char}
    (skipped : skipLines text = some (c :: behind)) (other : c ≠ ']')
    (given : read (c :: behind) = some (value, next)) (after : skipLines next = some (']' :: rest))
    (found : List Value) (fuel : Nat) :
    itemsFrom read (fuel + 1) found text = some ((value :: found).reverse, rest) := by
  rw [itemsFrom, skipped, Option.bind_eq_bind, Option.bind_some]
  split
  · next same => exact absurd (List.cons.inj same).1 other
  · simp only [given, after, Option.bind_eq_bind, Option.bind_some]

theorem Items.itemsFrom_eq (sound : item.ReadBy read) {values : List Value}
    {text rest : List Char} (items : Items item values text rest) (found : List Value)
    {fuel : Nat} (enough : text.length < fuel) :
    itemsFrom read fuel found text = some (found.reverse ++ values, rest) := by
  induction items generalizing found fuel with
  | close filler =>
      obtain ⟨fuel, rfl⟩ := exists_fuel enough
      rw [itemsFrom, filler.skipLines_eq (by decide), List.append_nil]
      rfl
  | last before written after =>
      obtain ⟨fuel, rfl⟩ := exists_fuel enough
      obtain ⟨c, behind, rfl, opens⟩ := sound.opens written
      have other : c ≠ ']' := ne_of_test opens (by decide)
      rw [itemsFrom_last (before.skipLines_eq (stopsFiller_of_opensValue opens)) other
        (sound.reads written) (after.skipLines_eq (by decide)), List.reverse_cons]
  | @more value values text start behind next rest before written after _ ih =>
      obtain ⟨fuel, rfl⟩ := exists_fuel enough
      have short := before.length_le
      have shorter := sound.shortens written
      have shortest := after.length_le
      obtain ⟨c, begun, rfl, opens⟩ := sound.opens written
      have other : c ≠ ']' := ne_of_test opens (by decide)
      rw [List.length_cons] at shortest
      have later := ih (value :: found) (show next.length < fuel by omega)
      rw [itemsFrom_more (before.skipLines_eq (stopsFiller_of_opensValue opens)) other
        (sound.reads written) (after.skipLines_eq (by decide)), later]
      simp

theorem Items.length_lt (sound : item.ReadBy read) {values : List Value} {text rest : List Char}
    (items : Items item values text rest) : rest.length < text.length := by
  induction items with
  | close filler => exact filler.length_le
  | last before written after =>
      have := before.length_le
      have := sound.shortens written
      have := after.length_le
      simp only [List.length_cons] at *
      omega
  | more before written after _ ih =>
      have := before.length_le
      have := sound.shortens written
      have := after.length_le
      simp only [List.length_cons] at *
      omega

section Member

variable {names : List String} {value : Value} {text start first behind rest : List Char}
  (written : Key names text ('=' :: start)) (few : names.length < depthLimit)
  (gap : Gap start first) (sound : item.ReadBy read) (given : item value first behind)
  (found : Entries) (fuel : Nat)
include written few gap sound given

theorem membersFrom_more (after : Gap behind (',' :: rest)) :
    membersFrom read (fuel + 1) found text =
      (insertKey names value found).bind fun entries => membersFrom read fuel entries rest := by
  obtain ⟨c, begun, rfl, opens⟩ := sound.opens given
  have visible := isGap_of_stopsFiller (stopsFiller_of_opensValue opens)
  simp only [membersFrom, written.key_eq (by decide) few, symbol, if_true,
    skipGap_of_gap_cons gap visible, sound.reads given, skipGap_of_gap_cons after (by decide),
    Option.bind_eq_bind, Option.bind_some]

theorem membersFrom_last (after : Gap behind ('}' :: rest)) :
    membersFrom read (fuel + 1) found text =
      (insertKey names value found).bind fun entries => some (entries, rest) := by
  obtain ⟨c, begun, rfl, opens⟩ := sound.opens given
  have visible := isGap_of_stopsFiller (stopsFiller_of_opensValue opens)
  simp only [membersFrom, written.key_eq (by decide) few, symbol, if_true,
    skipGap_of_gap_cons gap visible, sound.reads given, skipGap_of_gap_cons after (by decide),
    Option.bind_eq_bind, Option.bind_some]

end Member

theorem Members.membersFrom_eq (sound : item.ReadBy read)
    {members : List (List String × Value)} {text rest : List Char}
    (written : Members item members text rest) {found all : Entries}
    (inserted : insertAll members found = some all) {fuel : Nat} (enough : text.length < fuel) :
    membersFrom read fuel found text = some (all, rest) := by
  induction written generalizing found fuel with
  | last key few gap given after =>
      obtain ⟨fuel, rfl⟩ := exists_fuel enough
      simp only [insertAll, List.foldlM_cons, List.foldlM_nil, Option.bind_eq_bind] at inserted
      rw [membersFrom_last key few gap sound given found fuel after]
      cases put : insertKey _ _ found with
      | none => simp [put] at inserted
      | some entries => simpa [put] using inserted
  | @more names value members text start first behind next rest key few gap given after _ ih =>
      obtain ⟨fuel, rfl⟩ := exists_fuel enough
      have short := key.length_lt
      have shorter := gap.length_le
      have shortest := sound.shortens given
      have last := after.length_le
      rw [List.length_cons] at short last
      simp only [insertAll, List.foldlM_cons, Option.bind_eq_bind] at inserted
      rw [membersFrom_more key few gap sound given found fuel after]
      cases put : insertKey names value found with
      | none => simp [put] at inserted
      | some entries =>
          rw [put, Option.bind_some] at inserted
          exact ih inserted (show next.length < fuel by omega)

theorem Members.length_lt (sound : item.ReadBy read) {members : List (List String × Value)}
    {text rest : List Char} (written : Members item members text rest) :
    rest.length < text.length := by
  induction written with
  | last key _ gap given after =>
      have := key.length_lt
      have := gap.length_le
      have := sound.shortens given
      have := after.length_le
      simp only [List.length_cons] at *
      omega
  | more key _ gap given after _ ih =>
      have := key.length_lt
      have := gap.length_le
      have := sound.shortens given
      have := after.length_le
      simp only [List.length_cons] at *
      omega

theorem Members.skipGap {members : List (List String × Value)} {text rest : List Char}
    (written : Members item members text rest) : Members item members (skipGap text) rest := by
  cases written with
  | last key few gap given after => exact .last key.skipGap few gap given after
  | more key few gap given after others => exact .more key.skipGap few gap given after others

theorem Members.opens {members : List (List String × Value)} {text rest : List Char}
    (written : Members item members text rest) :
    ∃ c behind, Toml.skipGap text = c :: behind ∧ opensKey c = true := by
  cases written with
  | last key => exact key.skipGap_opens
  | more key => exact key.skipGap_opens

end Holding

theorem StringText.valueWithin_eq {value : String} {text rest : List Char}
    (written : StringText value text rest) (depth : Nat) :
    valueWithin depth text = some (.string value, rest) := by
  have read := written.string_eq
  obtain ⟨c, behind, rfl, opens⟩ := written.opens
  simp only [isQuote, Bool.or_eq_true, decide_eq_true_eq] at opens
  rcases opens with rfl | rfl <;> cases depth <;> simp [valueWithin, read]

theorem valueWithin_of_opensScalar {c : Char} (opens : opensScalar c = true) (depth : Nat)
    (text : List Char) : valueWithin depth (c :: text) = scalar (c :: text) := by
  have noBracket : c ≠ '[' := ne_of_test opens (by decide)
  have noBrace : c ≠ '{' := ne_of_test opens (by decide)
  have noQuote : c ≠ '"' := ne_of_test opens (by decide)
  have noApostrophe : c ≠ '\x27' := ne_of_test opens (by decide)
  cases depth <;> simp [valueWithin, noBracket, noBrace, noQuote, noApostrophe]

theorem PlainValue.valueWithin_eq {value : Value} {text rest : List Char}
    (written : PlainValue value text rest) (depth : Nat) :
    valueWithin depth text = some (value, rest) := by
  cases written with
  | string written => exact written.valueWithin_eq depth
  | boolean truth =>
      cases truth <;> exact valueWithin_of_opensScalar (by decide) depth _
  | integer written ended =>
      have read := written.scalar_eq ended
      obtain ⟨c, behind, rfl, opens⟩ := written.opens
      rw [valueWithin_of_opensScalar opens, read]
  | float opens read => rw [valueWithin_of_opensScalar opens, read]
  | datetime opens read => rw [valueWithin_of_opensScalar opens, read]

theorem PlainValue.length_lt {value : Value} {text rest : List Char}
    (written : PlainValue value text rest) : rest.length < text.length := by
  cases written with
  | string written => exact written.length_lt
  | boolean truth =>
      rw [List.length_append]
      cases truth <;> exact Nat.lt_add_of_pos_left (by decide)
  | integer written => exact written.length_lt
  | float =>
      simp only [List.length_cons, List.length_append]
      omega
  | datetime =>
      simp only [List.length_cons, List.length_append]
      omega

theorem PlainValue.opens {value : Value} {text rest : List Char}
    (written : PlainValue value text rest) :
    ∃ c behind, text = c :: behind ∧ opensValue c = true := by
  cases written with
  | string written =>
      obtain ⟨c, behind, rfl, quote⟩ := written.opens
      exact ⟨c, behind, rfl, by simp [opensValue, quote]⟩
  | boolean truth => cases truth <;> exact ⟨_, _, rfl, by decide⟩
  | integer written =>
      obtain ⟨c, behind, rfl, opens⟩ := written.opens
      exact ⟨c, behind, rfl, by simp [opensValue, opens]⟩
  | float opens => exact ⟨_, _, rfl, by simp [opensValue, opens]⟩
  | datetime opens => exact ⟨_, _, rfl, by simp [opensValue, opens]⟩

section Holding

variable {item : Spelling} {depth : Nat} {value : Value} {text rest : List Char}

theorem HoldingValue.valueWithin_eq (sound : item.ReadBy (valueWithin depth))
    (written : HoldingValue item value text rest) :
    valueWithin (depth + 1) text = some (value, rest) := by
  cases written with
  | array items => simp [valueWithin, items.itemsFrom_eq sound [] (Nat.lt_succ_self _)]
  | emptyTable gap => simp [valueWithin, skipGap_of_gap_cons gap rfl]
  | table members inserted =>
      obtain ⟨c, behind, skipped, opens⟩ := members.opens
      have read := members.skipGap.membersFrom_eq sound inserted (Nat.lt_succ_self _)
      have other : c ≠ '}' := ne_of_test opens (by decide)
      rw [skipped] at read
      simp only [valueWithin, skipped]
      split
      · next same => exact absurd (List.cons.inj same).1 other
      · rw [read]
        rfl

theorem HoldingValue.length_lt {read : List Char → Option (Value × List Char)}
    (sound : item.ReadBy read) (written : HoldingValue item value text rest) :
    rest.length < text.length := by
  cases written with
  | array items => exact Nat.lt_succ_of_lt (items.length_lt sound)
  | emptyTable gap => exact Nat.lt_succ_of_le (Nat.le_of_succ_le gap.length_le)
  | table members => exact Nat.lt_succ_of_lt (members.length_lt sound)

theorem HoldingValue.opens (written : HoldingValue item value text rest) :
    ∃ c behind, text = c :: behind ∧ opensValue c = true := by
  cases written <;> exact ⟨_, _, rfl, by decide⟩

end Holding

theorem valueText_readBy (depth : Nat) : Spelling.ReadBy (ValueText depth) (valueWithin depth) := by
  induction depth with
  | zero =>
      exact {
        reads := fun written => written.valueWithin_eq 0
        shortens := PlainValue.length_lt
        opens := PlainValue.opens }
  | succ depth ih =>
      refine ⟨?_, ?_, ?_⟩
      · rintro value text rest (plain | holding)
        · exact plain.valueWithin_eq (depth + 1)
        · exact holding.valueWithin_eq ih
      · rintro value text rest (plain | holding)
        · exact plain.length_lt
        · exact holding.length_lt ih
      · rintro value text rest (plain | holding)
        · exact plain.opens
        · exact holding.opens

end PolicyGate.Toml
