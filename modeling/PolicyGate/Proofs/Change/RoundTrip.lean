import PolicyGate.Proofs.Change.ListingAgreement
import PolicyGate.Proofs.Change.StatusListing
import PolicyGate.Proofs.Unicode.LetterCase
import PolicyGate.Text.Digit

/-!
Listings as writings of changes. One change to a line, with a letter in either case and either line
end, they are read back as they are. A listing is read line by line, so a line that is no record
leaves those around it alone.
-/

namespace PolicyGate

/-- A kind that is read from its own letter: one of the seven, or another whose letter is visible,
a capital where it has case, and none of theirs. -/
def ChangeKind.Coded : ChangeKind → Prop
  | other letter => Text.isBlank letter = false ∧ letter.toUpper = letter ∧
      letter ∉ ['A', 'M', 'D', 'R', 'C', 'T', 'U']
  | _ => True

theorem ChangeKind.Coded.letter_visible {kind : ChangeKind} (coded : kind.Coded) :
    Text.isBlank kind.letter = false := by
  cases kind with
  | other letter => exact coded.1
  | _ => rfl

theorem ChangeKind.Coded.ofLetter_letter {kind : ChangeKind} (coded : kind.Coded) :
    ofLetter kind.letter = kind := by
  cases kind with
  | other letter =>
      obtain ⟨_, capital, unnamed⟩ := coded
      simp only [ChangeKind.letter, ofLetter, capital]
      split <;> simp_all
  | _ => rfl

theorem ChangeKind.ofLetter_toLower (letter : Char) : ofLetter letter.toLower = ofLetter letter :=
  Unicode.read_toLower ofLetter (by decide) letter

/-- A line that tells a change: how its letter is written, the number behind it, and the end. -/
structure ChangeLine where
  kind : ChangeKind
  coded : kind.Coded
  small : Bool
  number : String
  digits : number.toList.all Text.isDigit = true := by decide
  source : Option FieldPath
  path : FieldPath
  returned : Bool

namespace ChangeLine

def change (line : ChangeLine) : Change :=
  ⟨line.path.text, line.source.map FieldPath.text, line.kind⟩

def letter (line : ChangeLine) : Char :=
  if line.small then line.kind.letter.toLower else line.kind.letter

def text (line : ChangeLine) : List Char :=
  ['\t'].intercalate ((line.letter :: line.number.toList) ::
    (line.source.toList ++ [line.path]).map fun path => path.text.toList) ++
    if line.returned then ['\r', '\n'] else ['\n']

theorem letter_visible (line : ChangeLine) : Text.isBlank line.letter = false := by
  unfold letter
  split
  · rw [Unicode.isBlank_toLower]
    exact line.coded.letter_visible
  · exact line.coded.letter_visible

theorem ofLetter_letter (line : ChangeLine) : ChangeKind.ofLetter line.letter = line.kind := by
  unfold letter
  split
  · rw [ChangeKind.ofLetter_toLower]
    exact line.coded.ofLetter_letter
  · exact line.coded.ofLetter_letter

theorem not_mem_number (line : ChangeLine) {c : Char} (other : Text.isDigit c = false) :
    c ∉ line.number.toList := by
  intro member
  have digit := List.all_eq_true.mp line.digits c member
  rw [other] at digit
  contradiction

def record (line : ChangeLine) : StatusRecord where
  code := {
    letter := line.letter
    more := line.number
    visible := line.letter_visible
    untabbed := line.not_mem_number rfl
    unbroken := line.not_mem_number rfl }
  source := line.source
  path := line.path

theorem change_record (line : ChangeLine) : line.record.change = line.change := by
  rw [StatusRecord.change, change, ← line.ofLetter_letter]
  rfl

theorem text_eq (line : ChangeLine) :
    line.text = line.record.line ++ if line.returned then ['\r', '\n'] else ['\n'] := rfl

theorem filterMap_lines_text_append (line : ChangeLine) (rest : List Char) :
    (Text.lines (line.text ++ rest)).filterMap Change.ofLine? =
      line.change :: (Text.lines rest).filterMap Change.ofLine? := by
  have spares := Change.sparesLineEnds_ofLine?
  have unbroken := line.record.isLine_line.1.unbroken
  have told : Change.ofLine? line.record.line = some line.change := by
    rw [line.record.ofLine?_line, line.change_record]
  rw [text_eq]
  cases line.returned with
  | false =>
      rw [if_neg (by simp), List.append_assoc, List.singleton_append,
        spares.filterMap_lines_append, spares.filterMap_lines_unbroken unbroken]
      simp [told]
  | true =>
      have ended : '\n' ∉ line.record.line ++ ['\r'] := by simp [unbroken]
      have whole : line.record.line ++ ['\r', '\n'] ++ rest =
          (line.record.line ++ ['\r']) ++ '\n' :: rest := by simp
      rw [if_pos rfl, whole, spares.filterMap_lines_append, spares.filterMap_lines_unbroken ended]
      simp [spares.returned, told]

end ChangeLine

theorem Change.parseListing_text (lines : List ChangeLine) :
    parseListing (.ofList (lines.flatMap ChangeLine.text)) = lines.map ChangeLine.change := by
  rw [parseListing, String.toList_ofList]
  induction lines with
  | nil => rfl
  | cons line lines ih =>
      rw [List.flatMap_cons, line.filterMap_lines_text_append, ih, List.map_cons]

theorem Change.parseListing_append_lineFeed (front back : String) :
    parseListing (front ++ "\n" ++ back) = parseListing front ++ parseListing back := by
  have whole : (front ++ "\n" ++ back).toList = front.toList ++ '\n' :: back.toList := by simp
  rw [parseListing, whole, sparesLineEnds_ofLine?.filterMap_lines_append]
  rfl

/-- Changes come back from any writing of them. What stands on both sides of a line feed is read as
if it stood alone, so text without a record in it can be left out. -/
theorem parseListing_inverts :
    (∀ lines : List ChangeLine,
      Change.parseListing (.ofList (lines.flatMap ChangeLine.text)) =
        lines.map ChangeLine.change) ∧
    (∀ front back : String,
      Change.parseListing (front ++ "\n" ++ back) =
        Change.parseListing front ++ Change.parseListing back) ∧
    ∀ front malformed back : String, Change.parseListing malformed = [] →
      Change.parseListing (front ++ "\n" ++ malformed ++ "\n" ++ back) =
        Change.parseListing front ++ Change.parseListing back := by
  refine ⟨Change.parseListing_text, Change.parseListing_append_lineFeed, ?_⟩
  intro front malformed back nothing
  rw [Change.parseListing_append_lineFeed, Change.parseListing_append_lineFeed, nothing,
    List.append_nil]

example : Change.parseListing "r087\tdocs/old.md\tGOVERNANCE/new.md\r\nx\tweird.txt\n" = [
    ⟨"GOVERNANCE/new.md", some "docs/old.md", .renamed⟩, ⟨"weird.txt", none, .other 'X'⟩] := by
  decide

end PolicyGate
