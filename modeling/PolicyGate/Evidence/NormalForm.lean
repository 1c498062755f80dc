import PolicyGate.Text.Blank
import PolicyGate.Unicode.Casing

/-!
The form in which headings and phrases are compared: words in lower case with one blank between
them.
-/

namespace PolicyGate

def normalChars (text : List Char) : List Char :=
  Unicode.lowercase ([' '].intercalate (Text.words text))

def normalForm (text : String) : String := .ofList (normalChars text.toList)

end PolicyGate
