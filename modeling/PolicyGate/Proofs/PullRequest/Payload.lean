import PolicyGate.Proofs.Gate.Decision
import PolicyGate.Proofs.Json.Records
import PolicyGate.Proofs.Json.Writing
import PolicyGate.PullRequest.Payload

/-!
An event payload tells of the pull request that it was written for. Neither the order of the
members, nor the way the strings are spelled, nor what else the payload holds makes a difference.
-/

namespace PolicyGate.PullRequest

open Json (IsText ValueText IsObject Takes TakesMember Padded)
open Json.Reader

inductive OrNull {α : Type} (Spells : α → List Char → Prop) : Option α → List Char → Prop
  | null : OrNull Spells none "null".toList
  | value {value : α} {text : List Char} : Spells value text → OrNull Spells (some value) text

/-- The members hold the value under this name, once at most. -/
inductive Holds {α : Type} (name : String) (Spells : α → List Char → Prop) :
    Option α → List (String × List Char) → Prop
  | absent : Holds name Spells none []
  | here {value : Option α} {text : List Char} {entries : List (String × List Char)} :
      OrNull Spells value text → (∀ entry ∈ entries, entry.1 ≠ name) →
      Holds name Spells value ((name, text) :: entries)
  | other {value : Option α} {entry : String × List Char} {entries : List (String × List Char)} :
      entry.1 ≠ name → Holds name Spells value entries → Holds name Spells value (entry :: entries)

def OthersAnything (known : List String) (entries : List (String × List Char)) : Prop :=
  ∀ entry ∈ entries, entry.1 ∉ known → ValueText entry.2

def CommitText (sha : Option String) (text : List Char) : Prop :=
  ∃ entries, IsObject entries text ∧ Holds "sha" IsText sha entries ∧
    OthersAnything ["sha"] entries

/-- What a payload says of a pull request. Either commit may be missing, or come without a name. -/
structure Content where
  body : Option String
  base : Option (Option String)
  head : Option (Option String)

def RequestText (content : Content) (text : List Char) : Prop :=
  ∃ entries, IsObject entries text ∧ Holds "body" IsText content.body entries ∧
    Holds "base" CommitText content.base entries ∧ Holds "head" CommitText content.head entries ∧
    OthersAnything ["body", "base", "head"] entries

def PayloadText (content : Option Content) (text : List Char) : Prop :=
  ∃ entries, IsObject entries text ∧ Holds "pull_request" RequestText content entries ∧
    OthersAnything ["pull_request"] entries

def EventText (content : Content) (text : List Char) : Prop :=
  ∃ padded : Padded, text = padded.whole ∧ PayloadText (some content) padded.text

namespace Payload

/-- What is spelled so is read as something with this meaning, and is neither a number nor a
word. -/
def Understands {α β : Type} (reader : Json.Reader β) (meaning : β → α)
    (Spells : α → List Char → Prop) : Prop :=
  ∀ ⦃value text⦄, Spells value text → Takes reader (meaning · = value) text ∧
    ∃ c others, text = c :: others ∧ c ∈ ['"', '{']

/-- What has been read of a member, while these are still to be read. -/
inductive Awaits {α β : Type} (name : String) (Spells : α → List Char → Prop) (meaning : β → α)
    (value : Option α) : Field β → List (String × List Char) → Prop
  | unread {entries : List (String × List Char)} : Holds name Spells value entries →
      Awaits name Spells meaning value none entries
  | read {found : Option β} {entries : List (String × List Char)} : found.map meaning = value →
      (∀ entry ∈ entries, entry.1 ≠ name) → Awaits name Spells meaning value (some found) entries

section Fields

variable {α β : Type} {name : String} {reader : Json.Reader β} {meaning : β → α}
  {Spells : α → List Char → Prop} {value : Option α} {before : Field β}
  {entry : String × List Char} {entries : List (String × List Char)}

theorem Awaits.done (awaits : Awaits name Spells meaning value before []) :
    before.join.map meaning = value := by
  cases awaits with
  | unread holds =>
      cases holds
      rfl
  | read found => exact found

theorem Awaits.other (awaits : Awaits name Spells meaning value before (entry :: entries))
    (different : entry.1 ≠ name) : Awaits name Spells meaning value before entries := by
  cases awaits with
  | unread holds =>
      cases holds with
      | here => contradiction
      | other _ holds => exact .unread holds
  | read found others => exact .read found (List.forall_mem_cons.mp others).2

theorem OrNull.takes_optional {text : List Char} (written : OrNull Spells value text)
    (understands : Understands reader meaning Spells) :
    Takes (optional reader) (fun read => read.map meaning = value) text := by
  cases written with
  | null => exact Json.takes_optional_null rfl
  | value spelled =>
      obtain ⟨takes, c, others, rfl, first⟩ := understands spelled
      exact takes.optional first fun read meant => congrArg some meant

theorem Awaits.takes_field (understands : Understands reader meaning Spells)
    (awaits : Awaits name Spells meaning value before (entry :: entries))
    (same : entry.1 = name) :
    TakesMember (field name before reader)
      (fun after => Awaits name Spells meaning value after entries) entry.2 := by
  cases awaits with
  | unread holds =>
      cases holds with
      | here written others =>
          refine ((OrNull.takes_optional written understands).map ?_).member
          exact fun found meant => .read meant others
      | other different => contradiction
  | read _ others => exact absurd same (others _ List.mem_cons_self)

end Fields

theorem understands_text : Understands text id IsText := by
  intro value text spelled
  refine ⟨spelled.takes_text, ?_⟩
  obtain ⟨chars, rfl, _⟩ := spelled
  exact ⟨'"', _, rfl, by decide⟩

theorem understands_record {α σ : Type} {meaning : σ → α} {Spells : α → List Char → Prop}
    (Known : α → List (String × List Char) → σ → Prop) {wanted : String}
    {onMember : String → σ → Json.Reader σ} {fields : List (σ → Json.Reader σ)} {initial : σ}
    (spelled : ∀ {value text}, Spells value text →
      ∃ entries, IsObject entries text ∧ Known value entries initial)
    (step : ∀ {value entry entries state}, Known value (entry :: entries) state →
      TakesMember (onMember entry.1 state) (Known value entries) entry.2)
    (meant : ∀ {value final}, Known value [] final → meaning final = value) :
    Understands (Json.Reader.record wanted onMember fields initial) meaning Spells := by
  intro value text given
  obtain ⟨entries, object, known⟩ := spelled given
  refine ⟨(object.takes_record step known wanted fields).imp fun final => meant, ?_⟩
  obtain ⟨members, inside, _, _, rfl⟩ := object
  exact ⟨'{', _, rfl, by decide⟩

theorem unknown_member {σ : Type} {known : List String} {entry : String × List Char}
    {entries : List (String × List Char)} (others : OthersAnything known (entry :: entries))
    (strange : entry.1 ∉ known) {Known : σ → Prop} {fields : σ} (still : Known fields) :
    TakesMember (unknown fields) Known entry.2 :=
  (others entry List.mem_cons_self strange).takes_skipValue still

def CommitFields.sha? (fields : CommitFields) : Option String := fields.sha.join

structure CommitAwaits (sha : Option String) (entries : List (String × List Char))
    (fields : CommitFields) : Prop where
  sha : Awaits "sha" IsText id sha fields.sha entries
  others : OthersAnything ["sha"] entries

theorem understands_commit : Understands commit CommitFields.sha? CommitText := by
  apply understands_record CommitAwaits
  · rintro sha text ⟨entries, object, holds, others⟩
    exact ⟨entries, object, .unread holds, others⟩
  · intro sha entry entries fields known
    have others := (List.forall_mem_cons.mp known.others).2
    by_cases same : entry.1 = "sha"
    · simp only [if_pos same]
      exact (known.sha.takes_field understands_text same).map fun after read => ⟨read, others⟩
    · simp only [if_neg same]
      exact unknown_member known.others (by simp [same]) ⟨known.sha.other same, others⟩
  · intro sha fields known
    simpa [CommitFields.sha?] using known.sha.done

def RequestFields.content (fields : RequestFields) : Content where
  body := fields.body.join
  base := fields.base.join.map CommitFields.sha?
  head := fields.head.join.map CommitFields.sha?

structure RequestAwaits (content : Content) (entries : List (String × List Char))
    (fields : RequestFields) : Prop where
  body : Awaits "body" IsText id content.body fields.body entries
  base : Awaits "base" CommitText CommitFields.sha? content.base fields.base entries
  head : Awaits "head" CommitText CommitFields.sha? content.head fields.head entries
  others : OthersAnything ["body", "base", "head"] entries

theorem understands_request : Understands request RequestFields.content RequestText := by
  apply understands_record RequestAwaits
  · rintro content text ⟨entries, object, body, base, head, others⟩
    exact ⟨entries, object, .unread body, .unread base, .unread head, others⟩
  · intro content entry entries fields known
    have others := (List.forall_mem_cons.mp known.others).2
    by_cases isBody : entry.1 = "body"
    · simp only [if_pos isBody]
      have noBase : entry.1 ≠ "base" := by simp [isBody]
      have noHead : entry.1 ≠ "head" := by simp [isBody]
      exact (known.body.takes_field understands_text isBody).map fun after read =>
        ⟨read, known.base.other noBase, known.head.other noHead, others⟩
    by_cases isBase : entry.1 = "base"
    · simp only [if_neg isBody, if_pos isBase]
      have noHead : entry.1 ≠ "head" := by simp [isBase]
      exact (known.base.takes_field understands_commit isBase).map fun after read =>
        ⟨known.body.other isBody, read, known.head.other noHead, others⟩
    by_cases isHead : entry.1 = "head"
    · simp only [if_neg isBody, if_neg isBase, if_pos isHead]
      exact (known.head.takes_field understands_commit isHead).map fun after read =>
        ⟨known.body.other isBody, known.base.other isBase, read, others⟩
    · simp only [if_neg isBody, if_neg isBase, if_neg isHead]
      exact unknown_member known.others (by simp [isBody, isBase, isHead])
        ⟨known.body.other isBody, known.base.other isBase, known.head.other isHead, others⟩
  · intro content fields known
    have body : fields.body.join = content.body := by simpa using known.body.done
    rw [RequestFields.content, body, known.base.done, known.head.done]

def PayloadFields.content? (fields : PayloadFields) : Option Content :=
  fields.pullRequest.join.map RequestFields.content

structure PayloadAwaits (content : Option Content) (entries : List (String × List Char))
    (fields : PayloadFields) : Prop where
  pullRequest : Awaits "pull_request" RequestText RequestFields.content content fields.pullRequest
    entries
  others : OthersAnything ["pull_request"] entries

theorem understands_payload : Understands payload PayloadFields.content? PayloadText := by
  apply understands_record PayloadAwaits
  · rintro content text ⟨entries, object, holds, others⟩
    exact ⟨entries, object, .unread holds, others⟩
  · intro content entry entries fields known
    have others := (List.forall_mem_cons.mp known.others).2
    by_cases same : entry.1 = "pull_request"
    · simp only [if_pos same]
      exact (known.pullRequest.takes_field understands_request same).map
        fun after read => ⟨read, others⟩
    · simp only [if_neg same]
      exact unknown_member known.others (by simp [same])
        ⟨known.pullRequest.other same, others⟩
  · intro content fields known
    exact known.pullRequest.done

end Payload

section Writing

theorem exists_orNull {α : Type} {Spells : α → List Char → Prop}
    (spelled : ∀ value, ∃ text, Spells value text) (value : Option α) :
    ∃ text, OrNull Spells value text := by
  cases value with
  | none => exact ⟨_, .null⟩
  | some value =>
      obtain ⟨text, spelled⟩ := spelled value
      exact ⟨text, .value spelled⟩

theorem exists_commitText (sha : Option String) : ∃ text, CommitText sha text := by
  obtain ⟨written, spelled⟩ := exists_orNull Json.exists_isText sha
  obtain ⟨text, object⟩ := Json.exists_isObject [("sha", written)]
  exact ⟨text, _, object, .here spelled (by simp), by simp [OthersAnything]⟩

theorem exists_requestText (content : Content) : ∃ text, RequestText content text := by
  obtain ⟨body, bodySpelled⟩ := exists_orNull Json.exists_isText content.body
  obtain ⟨base, baseSpelled⟩ := exists_orNull exists_commitText content.base
  obtain ⟨head, headSpelled⟩ := exists_orNull exists_commitText content.head
  obtain ⟨text, object⟩ := Json.exists_isObject [("body", body), ("base", base), ("head", head)]
  refine ⟨text, _, object, .here bodySpelled (by simp), ?_, ?_, by simp [OthersAnything]⟩
  · exact .other (by simp) (.here baseSpelled (by simp))
  · exact .other (by simp) (.other (by simp) (.here headSpelled (by simp)))

theorem exists_eventText (content : Content) : ∃ text : String, EventText content text.toList := by
  obtain ⟨request, spelled⟩ := exists_requestText content
  obtain ⟨text, object⟩ := Json.exists_isObject [("pull_request", request)]
  refine ⟨.ofList text, ⟨[], text, [], .nil, .nil⟩, by simp [Padded.whole], _, object, ?_,
    by simp [OthersAnything]⟩
  exact .here (.value spelled) (by simp)

end Writing

/-- What the gate makes of the content. -/
def Content.pullRequest (content : Content) : PullRequest where
  body := content.body.getD ""
  base := namedCommit? content.base.join
  head := namedCommit? content.head.join

theorem Payload.toPullRequest_eq (fields : RequestFields) :
    fields.toPullRequest = fields.content.pullRequest := by
  have commit (found : Option CommitFields) :
      found.bind CommitFields.name? = namedCommit? (found.map CommitFields.sha?).join := by
    cases found <;> rfl
  simp only [RequestFields.toPullRequest, RequestFields.content, Content.pullRequest, commit]

theorem EventText.decode {content : Content} {source : String}
    (written : EventText content source.toList) :
    Payload.decode source = .ok (some content.pullRequest) := by
  obtain ⟨padded, whole, payload⟩ := written
  obtain ⟨fields, meant, read⟩ := (Payload.understands_payload payload).1.document whole
  obtain ⟨request, found, rfl⟩ := Option.map_eq_some_iff.mp meant
  rw [Payload.decode, read, ← Payload.toPullRequest_eq]
  change Except.ok (fields.pullRequest.join.map _) = _
  rw [found]
  rfl

theorem load_of_decode {workspace : Workspace} {path source : String} {request : PullRequest}
    (held : workspace.readText path = .ok source)
    (decoded : Payload.decode source = .ok (some request)) :
    load workspace path = .ok (some request) := by
  have present : workspace.present path = true := by
    cases look : workspace.look path with
    | error fault => simp [Workspace.readText, look] at held
    | ok entry => simp [Workspace.present, look]
  simp [load, present, held, decoded]

def Names (given : Option (Option String)) (name : String) : Prop :=
  given = some (some name) ∧ ∃ c ∈ name.toList, Text.isBlank c = false

theorem namedCommit_join_iff (given : Option (Option String)) (name : String) :
    namedCommit? given.join = some name ↔ Names given name := by
  rw [namedCommit_eq_some_iff, Option.join_eq_some_iff, Names]
  simp [isBlankText]

/-- Every event file written for the content is loaded as the same pull request. -/
theorem load_payload (content : Content) :
    ∃ request : PullRequest, request.body = content.body.getD "" ∧
      (∀ name, request.base = some name ↔ Names content.base name) ∧
      (∀ name, request.head = some name ↔ Names content.head name) ∧
      (∀ (workspace : Workspace) (path text : String), workspace.readText path = .ok text →
        EventText content text.toList → load workspace path = .ok (some request)) ∧
      ∃ text : String, EventText content text.toList :=
  ⟨content.pullRequest, rfl, namedCommit_join_iff content.base, namedCommit_join_iff content.head,
    fun _ _ _ held written => load_of_decode held written.decode, exists_eventText content⟩

end PolicyGate.PullRequest
