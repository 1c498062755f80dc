import PolicyGate.Toml.Text
import PolicyGate.Toml.Value

/-!
Numbers, dates and the other values of TOML that stand on one line without quotes.
-/

namespace PolicyGate.Toml

def groupedFrom (isDigit : Char → Bool) (found : List Char) : List Char → List Char × List Char
  | [] => (found.reverse, [])
  | '_' :: c :: rest =>
    if isDigit c then groupedFrom isDigit (c :: found) rest else (found.reverse, '_' :: c :: rest)
  | c :: rest =>
    if isDigit c then groupedFrom isDigit (c :: found) rest else (found.reverse, c :: rest)

def grouped (isDigit : Char → Bool) : List Char → Option (List Char × List Char)
  | c :: rest => if isDigit c then some (groupedFrom isDigit [c] rest) else none
  | [] => none

def sign : List Char → Bool × List Char
  | '-' :: rest => (true, rest)
  | '+' :: rest => (false, rest)
  | text => (false, text)

def wholeDigits : List Char → Option (List Char × List Char)
  | '0' :: rest => some (['0'], rest)
  | text => grouped Text.isDigit text

def decimalValue (digits : List Char) : Nat := (Text.number? 10 digits).getD 0

def fitsInteger (number : Int) : Bool := -Int.pow 2 63 ≤ number && number < Int.pow 2 63

def baseInteger (base : Nat) (text : List Char) : Option (Value × List Char) := do
  let isDigit (c : Char) : Bool := (Text.number? base [c]).isSome
  let (digits, rest) ← grouped isDigit text
  let number ← Text.number? base digits
  if fitsInteger number then some (.integer number, rest) else none

def integer (text : List Char) : Option (Value × List Char) :=
  match text with
  | '0' :: 'x' :: rest => baseInteger 16 rest
  | '0' :: 'o' :: rest => baseInteger 8 rest
  | '0' :: 'b' :: rest => baseInteger 2 rest
  | _ => do
    let (negative, rest) := sign text
    let (digits, rest) ← wholeDigits rest
    let number : Int := decimalValue digits
    let number := if negative then -number else number
    if fitsInteger number then some (.integer number, rest) else none

def overflowBound : Nat := Nat.pow 2 1024 - Nat.pow 2 970

/-- Whether `digits * 10 ^ exponent` is too large for a double. Few digits or many decide at
once, so that no power gets out of hand. -/
def overflowsDouble (digits : List Char) (exponent : Int) : Bool :=
  let number := decimalValue digits
  let written : Int := (digits.dropWhile (· = '0')).length
  if number = 0 ∨ written + exponent < 300 then false
  else if 400 < written + exponent then true
  else overflowBound * Nat.pow 10 (-exponent).toNat ≤ number * Nat.pow 10 exponent.toNat

def exponentPart : List Char → Option (Int × List Char)
  | 'e' :: rest | 'E' :: rest => do
    let (negative, rest) := sign rest
    let (digits, rest) ← grouped Text.isDigit rest
    let value : Int := decimalValue digits
    some (if negative then -value else value, rest)
  | _ => none

def fractionPart : List Char → Option (List Char × List Char)
  | '.' :: rest => grouped Text.isDigit rest
  | _ => none

def specialFloat : List Char → Option (List Char)
  | 'i' :: 'n' :: 'f' :: rest => some rest
  | 'n' :: 'a' :: 'n' :: rest => some rest
  | _ => none

def before (text rest : List Char) : String :=
  .ofList (text.take (text.length - rest.length))

def float (text : List Char) : Option (Value × List Char) :=
  let (negative, unsigned) := sign text
  match specialFloat unsigned with
  | some rest => some (.float (before text rest), rest)
  | none => do
    let (whole, rest) ← wholeDigits unsigned
    let (fraction, exponent, rest) ← match fractionPart rest with
      | some (fraction, rest) =>
        match exponentPart rest with
        | some (exponent, rest) => some (fraction, exponent, rest)
        | none => some (fraction, 0, rest)
      | none => do
        let (exponent, rest) ← exponentPart rest
        some ([], exponent, rest)
    if !negative ∧ overflowsDouble (whole ++ fraction) (exponent - fraction.length) then none
    else some (.float (before text rest), rest)

def field (count low high : Nat) (text : List Char) : Option (Nat × List Char) :=
  let digits := text.take count
  let value := decimalValue digits
  if digits.length = count ∧ digits.all Text.isDigit ∧ low ≤ value ∧ value ≤ high then
    some (value, text.drop count)
  else none

def symbol (wanted : Char) : List Char → Option (List Char)
  | c :: rest => if c = wanted then some rest else none
  | [] => none

def daysIn (year month : Nat) : Nat :=
  if month = 2 then
    if year % 4 = 0 ∧ (year % 100 ≠ 0 ∨ year % 400 = 0) then 29 else 28
  else if [4, 6, 9, 11].contains month then 30
  else 31

def date (text : List Char) : Option (List Char) := do
  let (year, rest) ← field 4 0 9999 text
  let rest ← symbol '-' rest
  let (month, rest) ← field 2 1 12 rest
  let rest ← symbol '-' rest
  let (_, rest) ← field 2 1 (daysIn year month) rest
  some rest

def hourMinute (text : List Char) : Option (List Char) := do
  let (_, rest) ← field 2 0 23 text
  let rest ← symbol ':' rest
  let (_, rest) ← field 2 0 59 rest
  some rest

def time (text : List Char) : Option (List Char) := do
  let rest ← hourMinute text
  let rest ← symbol ':' rest
  let (_, rest) ← field 2 0 60 rest
  match rest with
  | '.' :: fraction =>
    let after := fraction.dropWhile Text.isDigit
    some (if after.length < fraction.length then after else rest)
  | _ => some rest

def offset (text : List Char) : List Char :=
  match text with
  | 'Z' :: rest | 'z' :: rest => rest
  | '+' :: rest | '-' :: rest => (hourMinute rest).getD text
  | _ => text

def datetime (text : List Char) : Option (Value × List Char) := do
  let rest ← match date text with
    | none => time text
    | some rest =>
      match rest with
      | 'T' :: inner | 't' :: inner | ' ' :: inner => some (((time inner).map offset).getD rest)
      | _ => some rest
  some (.datetime (before text rest), rest)

def boolean : List Char → Option (Value × List Char)
  | 't' :: 'r' :: 'u' :: 'e' :: rest => some (.boolean true, rest)
  | 'f' :: 'a' :: 'l' :: 's' :: 'e' :: rest => some (.boolean false, rest)
  | _ => none

def scalar (text : List Char) : Option (Value × List Char) :=
  (boolean text).or ((datetime text).or ((float text).or (integer text)))

end PolicyGate.Toml
