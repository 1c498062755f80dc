import PolicyGate.Proofs.Json.Skipping

/-!
Records are read member by member, whatever the order of the members and the space around them.
-/

namespace PolicyGate.Json

open Reader

/-- Wherever the text stands as a value, the reader takes it for something of which this holds. -/
def Takes {α : Type} (reader : Reader α) (Meant : α → Prop) (text : List Char) : Prop :=
  ∀ ⦃gap rest⦄, IsGap gap → Follows rest →
    ∃ value, Meant value ∧ Reads reader value (gap ++ (text ++ rest)) rest

def TakesMember {α : Type} (reader : Reader α) (Meant : α → Prop) (text : List Char) : Prop :=
  ∀ ⦃gap before rest⦄, IsGap gap → IsGap before → Follows rest →
    ∃ value, Meant value ∧ Reads reader value (gap ++ ':' :: (before ++ (text ++ rest))) rest

section Values

variable {α β : Type} {reader : Reader α} {Meant : α → Prop} {text : List Char}

theorem Takes.imp {Wanted : α → Prop} (takes : Takes reader Meant text)
    (weaker : ∀ value, Meant value → Wanted value) : Takes reader Wanted text := by
  intro gap rest allGap follows
  obtain ⟨value, meant, read⟩ := takes allGap follows
  exact ⟨value, weaker value meant, read⟩

theorem Takes.member (takes : Takes reader Meant text) :
    TakesMember (do colon; reader) Meant text := by
  intro gap before rest allGap beforeGap follows
  obtain ⟨value, meant, read⟩ := takes beforeGap follows
  exact ⟨value, meant, .bind (reads_colon allGap _) read⟩

theorem Takes.map {change : α → β} {Wanted : β → Prop} (takes : Takes reader Meant text)
    (changed : ∀ value, Meant value → Wanted (change value)) :
    Takes (change <$> reader) Wanted text := by
  intro gap rest allGap follows
  obtain ⟨value, meant, read⟩ := takes allGap follows
  exact ⟨change value, changed value meant, read.map change⟩

theorem TakesMember.map {change : α → β} {Wanted : β → Prop}
    (takes : TakesMember reader Meant text)
    (changed : ∀ value, Meant value → Wanted (change value)) :
    TakesMember (do pure (change (← reader))) Wanted text := by
  intro gap before rest allGap beforeGap follows
  obtain ⟨value, meant, read⟩ := takes allGap beforeGap follows
  exact ⟨change value, changed value meant, .bind read (.pure _ rest)⟩

theorem ValueText.takes_skipValue (given : ValueText text) {kept : α} (meant : Meant kept) :
    TakesMember (do colon; skipValue; pure kept) Meant text := by
  intro gap before rest allGap beforeGap follows
  exact ⟨kept, meant, .bind (reads_colon allGap _)
    (.bind (given.reads_skipValue beforeGap follows) (.pure kept rest))⟩

theorem IsText.reads_string {value : String} (spelled : IsText value text) (rest : List Char) :
    ∃ others, text ++ rest = '"' :: others ∧ Reads string value others rest := by
  obtain ⟨chars, rfl, spelled⟩ := spelled
  have read := spelled.reads_string rest
  rw [String.ofList_toList] at read
  exact ⟨_, quotedText_append chars rest, read⟩

theorem IsText.takes_text {value : String} (spelled : IsText value text) :
    Takes Reader.text (· = value) text := by
  intro gap rest allGap _
  obtain ⟨others, text_eq, read⟩ := spelled.reads_string rest
  rw [text_eq]
  exact ⟨value, rfl, .bind (reads_sign allGap rfl _) (.bind (reads_skip '"' _) read)⟩

theorem takes_optional_null {Wanted : Option α → Prop} (wanted : Wanted none) :
    Takes (optional reader) Wanted "null".toList := by
  intro gap rest allGap _
  exact ⟨none, wanted, .bind (reads_sign allGap rfl _) (.bind (reads_skip 'n' _)
    (.bind (reads_word ['u', 'l', 'l'] rest) (.pure none rest)))⟩

theorem Takes.optional {c : Char} {others : List Char} {Wanted : Option α → Prop}
    (takes : Takes reader Meant (c :: others)) (first : c ∈ ['"', '{'])
    (wanted : ∀ value, Meant value → Wanted (some value)) :
    Takes (Reader.optional reader) Wanted (c :: others) := by
  intro gap rest allGap follows
  obtain ⟨value, meant, read⟩ := takes .nil follows
  refine ⟨some value, wanted value meant, ?_⟩
  simp only [List.mem_cons, List.not_mem_nil, or_false] at first
  rcases first with rfl | rfl
  · exact .bind (reads_sign allGap rfl _) (read.map some)
  · exact .bind (reads_sign allGap rfl _) (read.map some)

end Values

section Keys

variable {name : String} {gap before text : List Char} (rest : List Char)

theorem reads_nextKey_first (allGap : IsGap gap) (spelled : IsText name text) :
    Reads (nextKey true) (some name) (gap ++ (text ++ rest)) rest := by
  obtain ⟨others, text_eq, read⟩ := spelled.reads_string rest
  rw [text_eq]
  exact .bind (reads_sign allGap rfl _) (.bind (reads_skip '"' _) (read.map some))

theorem reads_nextKey_next (allGap : IsGap gap) (beforeGap : IsGap before)
    (spelled : IsText name text) :
    Reads (nextKey false) (some name) (gap ++ ',' :: (before ++ (text ++ rest))) rest := by
  obtain ⟨others, text_eq, read⟩ := spelled.reads_string rest
  rw [text_eq]
  exact .bind (reads_sign allGap rfl _) (.bind (reads_skip ',' _)
    (.bind (reads_sign beforeGap rfl _) (.bind (reads_skip '"' _) (read.map some))))

theorem reads_nextKey_end (first : Bool) (allGap : IsGap gap) :
    Reads (nextKey first) none (gap ++ '}' :: rest) ('}' :: rest) :=
  .bind (reads_sign allGap rfl rest) (.pure none _)

end Keys

/-- What stands behind a member: the others, the end of the object and the rest. -/
def afterMember (given : List Member) (rest : List Char) : List Char :=
  (given.map Member.whole).flatMap (',' :: ·) ++ '}' :: rest

theorem follows_afterMember (given : List Member) (rest : List Char) :
    Follows (afterMember given rest) :=
  @follows_parts .object rest _

def afterName (member : Member) (given : List Member) (rest : List Char) : List Char :=
  member.name.after ++ ':' :: (member.value.whole ++ afterMember given rest)

theorem whole_afterMember (member : Member) (given : List Member) (rest : List Char) :
    member.whole ++ afterMember given rest =
      member.name.before ++ (member.name.text ++ afterName member given rest) := by
  simp [Member.whole, Padded.whole, afterName]

theorem afterMember_cons (member : Member) (given : List Member) (rest : List Char) :
    afterMember (member :: given) rest = ',' :: (member.whole ++ afterMember given rest) := by
  simp [afterMember]

section Members

variable {σ : Type} {onMember : String → σ → Reader σ}
  {Known : List (String × List Char) → σ → Prop}
  (step : ∀ {entry entries state}, Known (entry :: entries) state →
    TakesMember (onMember entry.1 state) (Known entries) entry.2)
include step

theorem reads_members_key {entry : String × List Char} {entries : List (String × List Char)}
    {member : Member} {given : List Member} {state : σ} {first : Bool} {fuel : Nat}
    {text rest : List Char} (written : IsMember entry member)
    (known : Known (entry :: entries) state)
    (key : Reads (nextKey first) (some entry.1) text (afterName member given rest))
    (others : ∀ {next}, Known entries next → ∃ final, Known [] final ∧
      Reads (members onMember fuel false next) final
        (member.value.after ++ afterMember given rest) rest) :
    ∃ final, Known [] final ∧ Reads (members onMember (fuel + 1) first state) final text rest := by
  obtain ⟨next, nextKnown, read⟩ := step known member.name.after_gap member.value.before_gap
    ((follows_afterMember given rest).gap member.value.after_gap)
  obtain ⟨final, finalKnown, readOthers⟩ := others nextKnown
  refine ⟨final, finalKnown, .bind key (.bind ?_ readOthers)⟩
  simpa [afterName, Padded.whole, written.2] using read

theorem reads_members_others {entries : List (String × List Char)} {given : List Member}
    (written : List.Forall₂ IsMember entries given) {state : σ} (known : Known entries state)
    {gap : List Char} (allGap : IsGap gap) (rest : List Char) {fuel : Nat}
    (enough : (gap ++ afterMember given rest).length < fuel) :
    ∃ final, Known [] final ∧ Reads (members onMember fuel false state) final
      (gap ++ afterMember given rest) rest := by
  induction written generalizing state gap fuel with
  | nil =>
      obtain ⟨fuel, rfl⟩ := Nat.exists_eq_add_one_of_ne_zero (Nat.ne_zero_of_lt enough)
      exact ⟨state, known, .bind (reads_nextKey_end rest false allGap)
        (.bind (reads_skip '}' rest) (.pure state rest))⟩
  | @cons entry member entries given first _ ih =>
      obtain ⟨fuel, rfl⟩ := Nat.exists_eq_add_one_of_ne_zero (Nat.ne_zero_of_lt enough)
      rw [afterMember_cons, whole_afterMember] at enough ⊢
      refine reads_members_key step first known
        (reads_nextKey_next _ allGap member.name.before_gap first.1)
        fun nextKnown => ih nextKnown member.value.after_gap ?_
      simp only [afterName, Padded.whole, List.length_append, List.length_cons] at enough ⊢
      omega

theorem reads_members_first {entry : String × List Char} {entries : List (String × List Char)}
    {member : Member} {given : List Member} (first : IsMember entry member)
    (written : List.Forall₂ IsMember entries given) {state : σ}
    (known : Known (entry :: entries) state) (rest : List Char) :
    ∃ final, Known [] final ∧
      Reads (members onMember ((member.whole ++ afterMember given rest).length + 1) true state)
        final (member.whole ++ afterMember given rest) rest := by
  rw [whole_afterMember]
  refine reads_members_key step first known
    (reads_nextKey_first _ member.name.before_gap first.1)
    fun nextKnown => reads_members_others step written nextKnown member.value.after_gap rest ?_
  simp only [afterName, Padded.whole, List.length_append, List.length_cons]
  omega

theorem IsObject.takes_record {entries : List (String × List Char)} {text : List Char}
    (object : IsObject entries text) {initial : σ} (known : Known entries initial)
    (wanted : String) (fields : List (σ → Reader σ)) :
    Takes (record wanted onMember fields initial) (Known []) text := by
  intro gap rest allGap _
  obtain ⟨given, inside, written, listed, rfl⟩ := object
  have inner : ∃ final, Known [] final ∧
      Reads (members onMember ((inside ++ '}' :: rest).length + 1) true initial) final
        (inside ++ '}' :: rest) rest := by
    cases written with
    | nil =>
        cases listed with
        | none inner =>
            exact ⟨initial, known, .bind (reads_nextKey_end rest true inner)
              (.bind (reads_skip '}' rest) (.pure initial rest))⟩
    | cons first others =>
        cases listed with
        | some =>
            have read := reads_members_first step first others known rest
            rwa [afterMember, ← List.append_assoc] at read
  obtain ⟨final, finalKnown, read⟩ := inner
  refine ⟨final, finalKnown, ?_⟩
  rw [List.cons_append, List.append_assoc]
  exact .bind (reads_sign allGap rfl _) (.bind (reads_skip '{' _) (.bind (reads_remaining _) read))

end Members

theorem Takes.document {α : Type} {reader : Reader α} {Meant : α → Prop} {padded : Padded}
    (takes : Takes reader Meant padded.text) {source : String}
    (written : source.toList = padded.whole) :
    ∃ value, Meant value ∧ Reader.document reader source = .ok value := by
  have follows : Follows padded.after := by
    rw [← List.append_nil padded.after]
    exact .gap padded.after_gap (by simp [Follows])
  obtain ⟨value, meant, read⟩ := takes padded.before_gap follows
  have ended : Reads peekPastGap none (padded.after ++ []) [] :=
    reads_peekPastGap padded.after_gap (by simp)
  rw [List.append_nil] at ended
  rw [← Padded.whole, ← written] at read
  exact ⟨value, meant, (read.bind (ended.bind (.pure value []))).run 1 0⟩

end PolicyGate.Json
