import PolicyGate.Evidence.NormalForm
import PolicyGate.Text.Lines

/-!
The sections of a pull request body. A line that begins with two number signs and goes on opens
the section of its normal heading, or goes back to it; every other line belongs to the section
that is open. Before the first such line the preamble is open.
-/

namespace PolicyGate

structure BodySection where
  heading : String
  text : String
  deriving DecidableEq

namespace BodySection

def preamble : List Char := "_preamble".toList

def headingOf? : List Char → Option (List Char)
  | '#' :: '#' :: c :: rest => some (normalChars (c :: rest))
  | _ => none

structure Draft where
  heading : List Char
  lines : List (List Char)

def openDraft (heading : List Char) (drafts : List Draft) : List Draft :=
  if drafts.any (·.heading = heading) then drafts else drafts ++ [⟨heading, []⟩]

def addLine (heading line : List Char) (drafts : List Draft) : List Draft :=
  drafts.map fun draft =>
    if draft.heading = heading then { draft with lines := line :: draft.lines } else draft

def fill (current : List Char) (drafts : List Draft) : List (List Char) → List Draft
  | [] => drafts
  | line :: rest =>
    match headingOf? line with
    | some heading => fill heading (openDraft heading drafts) rest
    | none => fill current (addLine current line drafts) rest

def Draft.text (draft : Draft) : List Char :=
  Text.trim (['\n'].intercalate draft.lines.reverse)

def Draft.close (draft : Draft) : BodySection :=
  ⟨.ofList draft.heading, .ofList draft.text⟩

def split (body : String) : List BodySection :=
  (fill preamble [⟨preamble, []⟩] (Text.lines body.toList)).map Draft.close

end BodySection

end PolicyGate
