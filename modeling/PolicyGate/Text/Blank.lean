/-!
White space in the sense of the Unicode property `White_Space`: trimming a text and cutting it
into words.
-/

namespace PolicyGate.Text

def isBlank (c : Char) : Bool :=
  let point := c.toNat
  (9 ≤ point && point ≤ 13) || point == 0x20 || point == 0x85 || point == 0xA0 ||
    point == 0x1680 || (0x2000 ≤ point && point ≤ 0x200A) || point == 0x2028 ||
    point == 0x2029 || point == 0x202F || point == 0x205F || point == 0x3000

def trimStart (text : List Char) : List Char := text.dropWhile isBlank

def trimEnd (text : List Char) : List Char := (text.reverse.dropWhile isBlank).reverse

def trim (text : List Char) : List Char := trimEnd (trimStart text)

def splitFrom (isSeparator : Char → Bool) (piece : List Char) : List Char → List (List Char)
  | [] => [piece.reverse]
  | c :: rest =>
    if isSeparator c then piece.reverse :: splitFrom isSeparator [] rest
    else splitFrom isSeparator (c :: piece) rest

def split (isSeparator : Char → Bool) (text : List Char) : List (List Char) :=
  splitFrom isSeparator [] text

def words (text : List Char) : List (List Char) :=
  (split isBlank text).filter (· ≠ [])

end PolicyGate.Text

namespace PolicyGate

def trimmed (text : String) : String := .ofList (Text.trim text.toList)

def isBlankText (text : String) : Bool := text.toList.all Text.isBlank

end PolicyGate
