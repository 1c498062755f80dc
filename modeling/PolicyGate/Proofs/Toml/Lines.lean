import PolicyGate.Proofs.Toml.Values

/-!
How whole documents are written: lines with entries and headers, and others between them that say
nothing. What a document means is told by its lines alone.
-/

namespace PolicyGate.Toml

/-- A line that says something: an entry, or a header in single or double brackets. -/
inductive Line where
  | entry (names : List String) (value : Value)
  | table (names : List String)
  | element (names : List String)

def Draft.read (draft : Draft) : Line → Option Draft
  | .entry names value =>
    (insertKey names value draft.current).map fun current => { draft with current }
  | .table names => names.getLast?.bind (draft.openTable names.dropLast)
  | .element names => names.getLast?.bind (draft.openElement names.dropLast)

def tableOf? (lines : List Line) : Option Entries :=
  (lines.foldlM Draft.read .empty).bind Draft.close

inductive LineText : Line → List Char → List Char → Prop
  | entry {names : List String} {value : Value} {text start first rest : List Char} :
      Key names text ('=' :: start) → names.length < depthLimit → Gap start first →
      ValueText (depthLimit - 1) value first rest → LineText (.entry names value) text rest
  | table {names : List String} {text rest : List Char} : Key names text (']' :: rest) →
      names.length < depthLimit → LineText (.table names) ('[' :: text) rest
  | element {names : List String} {text rest : List Char} : Key names text (']' :: ']' :: rest) →
      names.length < depthLimit → LineText (.element names) ('[' :: '[' :: text) rest

inductive Written : List Line → List Char → Prop
  | nil : Written [] []
  | blank {lines : List Line} {text rest : List Char} : Finish text rest → Written lines rest →
      Written lines text
  | line {line : Line} {lines : List Line} {text start behind rest : List Char} :
      Gap text start → LineText line start behind → Finish behind rest → Written lines rest →
      Written (line :: lines) text

theorem LineText.length_lt {line : Line} {text rest : List Char}
    (written : LineText line text rest) : rest.length < text.length := by
  cases written with
  | entry key _ gap value =>
      have := key.length_lt
      have := gap.length_le
      have := (valueText_readBy _).shortens value
      simp only [List.length_cons] at *
      omega
  | table key =>
      have := key.length_lt
      simp only [List.length_cons] at *
      omega
  | element key =>
      have := key.length_lt
      simp only [List.length_cons] at *
      omega

theorem Key.head_ne {names : List String} {text rest : List Char} (key : Key names text rest)
    {c : Char} (visible : isGap c = false) (closed : opensKey c = false) (behind : List Char) :
    text ≠ c :: behind := by
  rintro rfl
  obtain ⟨d, begun, gap, opens⟩ := key.opens
  exact absurd (List.cons.inj (gap.eq_of_head visible)).1 (ne_of_test opens closed)

section Reading

variable (draft : Draft) {names : List String} {text rest next : List Char}

theorem entry?_eq {given : Value} {start first : List Char} (key : Key names text ('=' :: start))
    (few : names.length < depthLimit) (gap : Gap start first)
    (written : ValueText (depthLimit - 1) given first rest) (finish : Finish rest next) :
    draft.entry? text = (draft.read (.entry names given)).map (·, next) := by
  have read := (valueText_readBy _).reads written
  obtain ⟨c, begun, rfl, opens⟩ := (valueText_readBy _).opens written
  have visible := isGap_of_stopsFiller (stopsFiller_of_opensValue opens)
  simp only [Draft.entry?, key.key_eq (by decide) few, symbol, if_true, value,
    skipGap_of_gap_cons gap visible, read, finish.finishLine_eq, Option.bind_eq_bind,
    Option.bind_some, Draft.read]
  cases insertKey names given draft.current <;> rfl

theorem header?_table (key : Key names text (']' :: rest)) (few : names.length < depthLimit)
    (finish : Finish rest next) :
    draft.header? text = (draft.read (.table names)).map (·, next) := by
  unfold Draft.header?
  split
  next double begun same =>
    split at same
    · next behind => exact absurd rfl (key.head_ne (by decide) (by decide) behind)
    · obtain ⟨rfl, rfl⟩ := Prod.mk.inj same
      simp only [key.key_eq (by decide) few, symbol, if_true, finish.finishLine_eq,
        Option.bind_eq_bind, Option.bind_some, Draft.read, Bool.false_eq_true, if_false]
      cases names.getLast? with
      | none => rfl
      | some name => cases opened : draft.openTable names.dropLast name <;> simp [opened]

theorem header?_element (key : Key names text (']' :: ']' :: rest))
    (few : names.length < depthLimit) (finish : Finish rest next) :
    draft.header? ('[' :: text) = (draft.read (.element names)).map (·, next) := by
  simp only [Draft.header?, key.key_eq (by decide) few, symbol, if_true, finish.finishLine_eq,
    Option.bind_eq_bind, Option.bind_some, Draft.read]
  cases names.getLast? with
  | none => rfl
  | some name => cases opened : draft.openElement names.dropLast name <;> simp [opened]

theorem documentFrom_entry {c : Char} (skipped : skipGap text = c :: rest)
    (opens : opensKey c = true) (fuel : Nat) :
    documentFrom (fuel + 1) draft text =
      (draft.entry? (c :: rest)).bind fun read => documentFrom fuel read.1 read.2 := by
  rw [documentFrom, skipped]
  split
  · next same => exact absurd same (List.cons_ne_nil _ _)
  · next same => exact absurd (List.cons.inj same).1 (ne_of_test opens (by decide))
  · next same => exact absurd (List.cons.inj same).1 (ne_of_test opens (by decide))
  · next same => exact absurd (List.cons.inj same).1 (ne_of_test opens (by decide))
  · next same => exact absurd (List.cons.inj same).1 (ne_of_test opens (by decide))
  · rfl

theorem documentFrom_header (skipped : skipGap text = '[' :: rest) (fuel : Nat) :
    documentFrom (fuel + 1) draft text =
      (draft.header? rest).bind fun read => documentFrom fuel read.1 read.2 := by
  rw [documentFrom, skipped]
  rfl

end Reading

theorem Written.documentFrom_eq {lines : List Line} {text : List Char}
    (written : Written lines text) (draft : Draft) {fuel : Nat} (enough : text.length < fuel) :
    documentFrom fuel draft text = (lines.foldlM Draft.read draft).bind Draft.close := by
  induction written generalizing draft fuel with
  | nil =>
      obtain ⟨fuel, rfl⟩ := exists_fuel enough
      rfl
  | blank finish _ ih =>
      obtain ⟨fuel, rfl⟩ := exists_fuel enough
      cases finish with
      | line gap ends =>
          have short := gap.length_le
          have shorter := ends.length_lt
          have later := @ih draft fuel (by omega)
          rw [documentFrom, skipGap_of_gap gap, ends.skipGap_eq]
          cases ends with
          | feed => exact later
          | returned => exact later
      | text gap =>
          have last := @ih draft 1 Nat.one_pos
          rw [documentFrom, skipGap_of_gap gap]
          exact last
      | remark gap remark ends =>
          have short := gap.length_le
          have shorter := remark.length_le
          have shortest := ends.length_lt
          rw [List.length_cons] at short
          have later := @ih draft fuel (by omega)
          have finished := (Finish.remark (.none _) remark ends).finishLine_eq
          rw [documentFrom, skipGap_of_gap_cons gap rfl]
          simp only [finished, Option.bind_eq_bind, Option.bind_some, later]
      | lastRemark gap remark =>
          have short := gap.length_le
          rw [List.length_cons] at short
          have later := @ih draft fuel (by simp only [List.length_nil]; omega)
          have finished := (Finish.lastRemark (.none _) remark).finishLine_eq
          rw [documentFrom, skipGap_of_gap_cons gap rfl]
          simp only [finished, Option.bind_eq_bind, Option.bind_some, later]
  | @line line lines text start behind rest gap written finish _ ih =>
      obtain ⟨fuel, rfl⟩ := exists_fuel enough
      have short := gap.length_le
      have shorter := written.length_lt
      have shortest := finish.length_le
      have step : documentFrom (fuel + 1) draft text =
          (draft.read line).bind fun read => documentFrom fuel read rest := by
        cases written with
        | entry key few gap' given =>
            obtain ⟨c, begun, skipped, opens⟩ := key.skipGap_opens
            have read := entry?_eq draft key.skipGap few gap' given finish
            rw [skipped] at read
            rw [documentFrom_entry draft (by rw [skipGap_of_gap gap, skipped]) opens, read,
              Option.bind_map]
            rfl
        | table key few =>
            rw [documentFrom_header draft (skipGap_of_gap_cons gap rfl),
              header?_table draft key few finish, Option.bind_map]
            rfl
        | element key few =>
            rw [documentFrom_header draft (skipGap_of_gap_cons gap rfl),
              header?_element draft key few finish, Option.bind_map]
            rfl
      rw [step, List.foldlM_cons, Option.bind_eq_bind, Option.bind_assoc]
      congr 1
      funext read
      exact ih read (by omega)

/-- A text with these lines, perhaps behind a byte order mark. -/
def IsDocument (lines : List Line) (text : String) : Prop :=
  Written lines text.toList ∨ ∃ chars, Written lines chars ∧ text.toList = '\uFEFF' :: chars

theorem Finish.head_ne {text rest : List Char} (finish : Finish text rest)
    (behind : List Char) : text ≠ '\uFEFF' :: behind := by
  rintro rfl
  cases finish with
  | line gap ends =>
      rw [gap.eq_of_head (by decide)] at ends
      cases ends
  | text gap => exact absurd (gap.eq_of_head (by decide)) (List.cons_ne_nil _ _).symm
  | remark gap => exact absurd (List.cons.inj (gap.eq_of_head (by decide))).1 (by decide)
  | lastRemark gap => exact absurd (List.cons.inj (gap.eq_of_head (by decide))).1 (by decide)

theorem Written.head_ne {lines : List Line} {text : List Char} (written : Written lines text)
    (behind : List Char) : text ≠ '\uFEFF' :: behind := by
  cases written with
  | nil => exact (List.cons_ne_nil _ _).symm
  | blank finish => exact finish.head_ne behind
  | line gap written =>
      rintro rfl
      rw [gap.eq_of_head (by decide)] at written
      cases written with
      | entry key => exact key.head_ne (by decide) (by decide) behind rfl

theorem parse_of_isDocument {lines : List Line} {text : String}
    (document : IsDocument lines text) : parse text = tableOf? lines := by
  rcases document with written | ⟨chars, written, marked⟩
  · unfold parse
    split
    · next behind same => exact absurd same (written.head_ne behind)
    · exact written.documentFrom_eq .empty (Nat.lt_succ_self _)
  · rw [parse, marked]
    exact written.documentFrom_eq .empty (Nat.lt_succ_self _)

end PolicyGate.Toml
