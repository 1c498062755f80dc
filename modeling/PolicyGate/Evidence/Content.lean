import PolicyGate.Evidence.NormalForm
import PolicyGate.Policy.Basic
import PolicyGate.Unicode.Folding

/-!
Text that a template left behind, and whether a section says something.

Letters are compared by simple case folding. A marker counts anywhere; the word `add` counts when
a word that begins with `details` follows, at whatever distance.
-/

namespace PolicyGate

open Unicode

def leads : List Char → List Char → Bool
  | [], _ => true
  | _ :: _, [] => false
  | wanted :: needle, c :: rest => simpleFold c = wanted && leads needle rest

namespace Template

def markers : List (List Char) :=
  ["[prompt:".toList, "todo:".toList, "tbd".toList, "replace this".toList]

def hasMarker : List Char → Bool
  | [] => false
  | c :: rest => markers.any (leads · (c :: rest)) || hasMarker rest

/-- Whether a character, or the end of the text, leaves a word boundary beside a letter. -/
def isOutsideWord (neighbour : Option Char) : Bool := !(neighbour.map isWord).getD false

def hasDetails (before : Option Char) : List Char → Bool
  | [] => false
  | c :: rest =>
    (isOutsideWord before && leads "details".toList (c :: rest)) || hasDetails (some c) rest

def addHere (before : Option Char) (text : List Char) : Bool :=
  isOutsideWord before && leads "add".toList text && isOutsideWord (text.drop 3).head?

/-- Whether the word `add` stands in the text and `details` behind it. Only the first `add` has to
be looked at, since more text follows it than any other. -/
def hasAddDetails (before : Option Char) : List Char → Bool
  | [] => false
  | c :: rest =>
    if addHere before (c :: rest) then hasDetails (some 'd') (rest.drop 2)
    else hasAddDetails (some c) rest

end Template

def isTemplate (text : String) : Bool :=
  Template.hasMarker text.toList || Template.hasAddDetails none text.toList

def dismissals : List String :=
  ["n/a", "na", "none", "not applicable", "no security impact", "no ai impact"]

def hasContent (text : String) : Bool :=
  !text.isEmpty && !isTemplate text &&
    (normalForm text ≠ "" && !dismissals.contains (normalForm text))

def isDeliberate (text : String) : Bool := !text.isEmpty && !isTemplate text

def ContentRule.accepts : ContentRule → String → Bool
  | .substantive, text => hasContent text
  | .intentional, text => isDeliberate text

end PolicyGate
