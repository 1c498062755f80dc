import PolicyGate.Unicode.Property

/-!
A text as it is shown inside a message: between double quotes, with escapes for what would not
show as itself.
-/

namespace PolicyGate.Text

/-- Separators other than the plain blank, controls and unassigned characters do not show. -/
def isShown (c : Char) : Bool :=
  if c.toNat < 128 then 0x20 ≤ c.toNat && c.toNat < 0x7F
  else !(Unicode.Category.separator.mem c || Unicode.Category.other.mem c ||
    Unicode.Property.graphemeExtend.mem c)

def hexText (value : Nat) : List Char := Nat.toDigits 16 value

def escapeChar (c : Char) : List Char :=
  if c = '\x00' then ['\\', '0']
  else if c = '\t' then ['\\', 't']
  else if c = '\n' then ['\\', 'n']
  else if c = '\r' then ['\\', 'r']
  else if c = '"' then ['\\', '"']
  else if c = '\\' then ['\\', '\\']
  else if isShown c then [c]
  else ['\\', 'u', '\x7b'] ++ hexText c.toNat ++ ['\x7d']

def quoted (text : String) : String :=
  "\"" ++ String.ofList (text.toList.flatMap escapeChar) ++ "\""

end PolicyGate.Text
