import Mathlib.Data.List.Forall2
import PolicyGate.Text.Digit

/-!
How JSON is written: white space, numbers, strings with their escapes, and values of any shape.
-/

namespace PolicyGate.Json

def IsGap (text : List Char) : Prop := ∀ c ∈ text, c ∈ [' ', '\n', '\t', '\r']

def IsHexDigit (value : Nat) (c : Char) : Prop :=
  value < 16 ∧ (c = value.digitChar ∨ c = value.digitChar.toUpper)

inductive FourDigits : Nat → List Char → Prop
  | mk {a b c d : Nat} {first second third fourth : Char} : IsHexDigit a first →
      IsHexDigit b second → IsHexDigit c third → IsHexDigit d fourth →
      FourDigits (((a * 16 + b) * 16 + c) * 16 + d) [first, second, third, fourth]

def shortEscapes : List (Char × Char) :=
  [('"', '"'), ('\\', '\\'), ('/', '/'), ('b', '\x08'), ('f', '\x0c'), ('n', '\n'), ('r', '\r'),
    ('t', '\t')]

def isUnescaped (c : Char) : Bool := 0x20 ≤ c.toNat && c ≠ '"' && c ≠ '\\'

/-- The first of the two numbers that write a character beyond `2 ^ 16`. -/
def leadingHalf (c : Char) : Nat := 0xD800 + (c.toNat - 0x10000) / 0x400

def trailingHalf (c : Char) : Nat := 0xDC00 + (c.toNat - 0x10000) % 0x400

inductive Escape (c : Char) : List Char → Prop
  | short {letter : Char} : (letter, c) ∈ shortEscapes → Escape c [letter]
  | four {digits : List Char} : FourDigits c.toNat digits → Escape c ('u' :: digits)
  | pair {leading trailing : List Char} : 0x10000 ≤ c.toNat →
      FourDigits (leadingHalf c) leading → FourDigits (trailingHalf c) trailing →
      Escape c ('u' :: (leading ++ '\\' :: 'u' :: trailing))

inductive Spelled : List Char → List Char → Prop
  | nil : Spelled [] []
  | plain {c : Char} {chars text : List Char} : isUnescaped c = true → Spelled chars text →
      Spelled (c :: chars) (c :: text)
  | escape {c : Char} {written chars text : List Char} : Escape c written → Spelled chars text →
      Spelled (c :: chars) ('\\' :: (written ++ text))

def quotedText (text : List Char) : List Char := '"' :: (text ++ ['"'])

def IsText (value : String) (text : List Char) : Prop :=
  ∃ chars, text = quotedText chars ∧ Spelled value.toList chars

inductive EscapeText : List Char → Prop
  | short {c letter : Char} : (letter, c) ∈ shortEscapes → EscapeText [letter]
  | four {unit : Nat} {digits : List Char} : FourDigits unit digits → EscapeText ('u' :: digits)

/-- What may stand between the quotes of a string, whether or not it writes characters. -/
inductive StringText : List Char → Prop
  | nil : StringText []
  | plain {c : Char} {text : List Char} : isUnescaped c = true → StringText text →
      StringText (c :: text)
  | escape {written text : List Char} : EscapeText written → StringText text →
      StringText ('\\' :: (written ++ text))

def AllDigits (text : List Char) : Prop := ∀ c ∈ text, Text.isDigit c = true

inductive WholeText : List Char → Prop
  | zero : WholeText ['0']
  | digits {c : Char} {text : List Char} : Text.isDigit c = true → c ≠ '0' → AllDigits text →
      WholeText (c :: text)

inductive FractionText : List Char → Prop
  | none : FractionText []
  | digits {text : List Char} : text ≠ [] → AllDigits text → FractionText ('.' :: text)

inductive ExponentText : List Char → Prop
  | none : ExponentText []
  | digits {letter : Char} {sign text : List Char} : letter ∈ ['e', 'E'] →
      sign ∈ [[], ['+'], ['-']] → text ≠ [] → AllDigits text →
      ExponentText (letter :: (sign ++ text))

inductive NumberText : List Char → Prop
  | mk {sign whole fraction exponent : List Char} : sign ∈ [[], ['-']] → WholeText whole →
      FractionText fraction → ExponentText exponent →
      NumberText (sign ++ (whole ++ (fraction ++ exponent)))

inductive ScalarText : List Char → Prop
  | null : ScalarText "null".toList
  | yes : ScalarText "true".toList
  | no : ScalarText "false".toList
  | number {text : List Char} : NumberText text → ScalarText text
  | string {text : List Char} : StringText text → ScalarText (quotedText text)

structure Padded where
  before : List Char
  text : List Char
  after : List Char
  before_gap : IsGap before
  after_gap : IsGap after

def Padded.whole (padded : Padded) : List Char := padded.before ++ (padded.text ++ padded.after)

structure Member where
  name : Padded
  value : Padded

def Member.whole (member : Member) : List Char := member.name.whole ++ ':' :: member.value.whole

/-- Parts with commas between them. White space may stand where there is no part. -/
inductive Listed : List (List Char) → List Char → Prop
  | none {gap : List Char} : IsGap gap → Listed [] gap
  | some (part : List Char) (parts : List (List Char)) :
      Listed (part :: parts) (part ++ parts.flatMap (',' :: ·))

/-- A value of any shape, nested to any depth. -/
inductive ValueText : List Char → Prop
  | scalar {text : List Char} : ScalarText text → ValueText text
  | list {items : List Padded} {text : List Char} : (∀ item ∈ items, ValueText item.text) →
      Listed (items.map Padded.whole) text → ValueText ('[' :: (text ++ [']']))
  | object {members : List Member} {text : List Char} :
      (∀ member ∈ members, ∃ chars, member.name.text = quotedText chars ∧ StringText chars) →
      (∀ member ∈ members, ValueText member.value.text) →
      Listed (members.map Member.whole) text → ValueText ('{' :: (text ++ ['}']))

def IsMember (entry : String × List Char) (member : Member) : Prop :=
  IsText entry.1 member.name.text ∧ member.value.text = entry.2

def IsObject (entries : List (String × List Char)) (text : List Char) : Prop :=
  ∃ members inside, List.Forall₂ IsMember entries members ∧
    Listed (members.map Member.whole) inside ∧ text = '{' :: (inside ++ ['}'])

end PolicyGate.Json
