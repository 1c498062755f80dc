import PolicyGate.Json.Reader
import PolicyGate.Decimal.Shortest

/-!
JSON numbers. One that is not wanted is only checked. One that stands where something else was
wanted is read for the message that names it: an integer if it fits 64 bits, else a double.
-/

namespace PolicyGate.Json

/-- A double as messages show it: positional between `1e-5` and `1e16`, always with a point or an
exponent. -/
def doubleText (negative : Bool) (bits : UInt64) : String :=
  let number := Decimal.shortest bits
  let written := Nat.toDigits 10 number.digits
  let count : Int := written.length
  let point := count + number.exponent
  let unsigned :=
    if number.digits = 0 then ['0', '.', '0']
    else if 0 ≤ number.exponent ∧ point ≤ 16 then
      written ++ List.replicate number.exponent.toNat '0' ++ ['.', '0']
    else if 0 < point ∧ point ≤ 16 then
      written.take point.toNat ++ '.' :: written.drop point.toNat
    else if -5 < point ∧ point ≤ 0 then
      '0' :: '.' :: List.replicate (-point).toNat '0' ++ written
    else if written.length = 1 then written ++ 'e' :: (toString (point - 1)).toList
    else written.take 1 ++ '.' :: written.drop 1 ++ 'e' :: (toString (point - 1)).toList
  (if negative then "-" else "") ++ String.ofList unsigned

/-- A whole number times a power of ten as a double: one multiplication or division by a power up
to `1e308`, after as many divisions as a smaller exponent needs. `none` where that overflows. -/
def scaleDouble : Nat → Float → Int → Option Float
  | 0, _, _ => some 0
  | fuel + 1, value, exponent =>
    if exponent.natAbs ≤ 308 then
      let power := Float.ofScientific 1 false exponent.natAbs
      if 0 ≤ exponent then
        let scaled := value * power
        if scaled.isInf then none else some scaled
      else some (value / power)
    else if value == 0 then some value
    else if 0 ≤ exponent then none
    else scaleDouble fuel (value / Float.ofScientific 1 false 308) (exponent + 308)

namespace Reader

def maxWord : Nat := Nat.pow 2 64 - 1

def takeDigits (value taken : Nat) : List Char → Nat × Nat
  | [] => (value, taken)
  | c :: rest =>
    let longer := value * 10 + Text.digitValue c
    if maxWord < longer then (value, taken) else takeDigits longer (taken + 1) rest

def double (negative : Bool) (value : Nat) (exponent : Int) : Reader Found := do
  match scaleDouble 8 value.toUInt64.toFloat exponent with
  | none => failHere .numberOutOfRange
  | some scaled => pure (.float (doubleText negative scaled.toBits))

def overflowAt (value taken : Nat) : List Char → Option Nat
  | [] => none
  | c :: rest =>
    let longer := value * 10 + Text.digitValue c
    if Nat.pow 2 31 ≤ longer then some (taken + 1) else overflowAt longer (taken + 1) rest

def exponentPart (negative : Bool) (value : Nat) (exponent : Int) : Reader Found := do
  skip
  let sign ← peek
  if sign = some '+' ∨ sign = some '-' then skip
  match ← peek with
  | none => failHere .endInValue
  | some c =>
    if !Text.isDigit c then failNext .badNumber
    else
      let before : Cursor ← get
      let written ← digits
      match overflowAt 0 0 written with
      | some taken =>
        if value ≠ 0 ∧ sign ≠ some '-' then
          throw ⟨.numberOutOfRange, before.line, before.column + taken⟩
        else pure (.float (doubleText negative 0))
      | none =>
        let power : Int := ((Text.number? 10 written).getD 0 : Nat)
        double negative value (if sign = some '-' then exponent - power else exponent + power)

def exponentOrEnd (negative : Bool) (value : Nat) (exponent : Int) : Reader Found := do
  match ← peek with
  | some 'e' | some 'E' => exponentPart negative value exponent
  | _ => double negative value exponent

def fractionPart (negative : Bool) (value : Nat) (exponent : Int) : Reader Found := do
  skip
  let written ← digits
  if written.isEmpty then
    if (← peek).isSome then failNext .badNumber else failHere .endInValue
  else
    let (longer, taken) := takeDigits value 0 written
    exponentOrEnd negative longer (exponent - taken)

def wholeText (negative : Bool) (value : Nat) : Found :=
  if !negative then .integer (toString value)
  else if value = 0 ∨ Nat.pow 2 63 < value then .float (doubleText true value.toUInt64.toFloat.toBits)
  else .integer ("-" ++ toString value)

def number (negative : Bool) : Reader Found := do
  match ← peek with
  | none => failHere .endInValue
  | some c =>
    if !Text.isDigit c then failNext .badNumber
    else if c = '0' then
      skip
      match ← peek with
      | some '.' => fractionPart negative 0 0
      | some 'e' | some 'E' => exponentPart negative 0 0
      | some d => if Text.isDigit d then failNext .badNumber else pure (wholeText negative 0)
      | none => pure (wholeText negative 0)
    else
      let written ← digits
      let (value, taken) := takeDigits 0 0 written
      let dropped : Int := (written.length - taken : Nat)
      match ← peek with
      | some '.' => fractionPart negative value dropped
      | some 'e' | some 'E' => exponentPart negative value dropped
      | _ => if dropped = 0 then pure (wholeText negative value) else double negative value dropped

def skipExponent : Reader Unit := do
  skip
  let sign ← peek
  if sign = some '+' ∨ sign = some '-' then skip
  match ← peek with
  | none => failHere .badNumber
  | some c => if Text.isDigit c then discard digits else failNext .badNumber

def skipFraction : Reader Unit := do
  match ← peek with
  | some '.' =>
    skip
    if (← digits).isEmpty then failNext .badNumber
    else
      match ← peek with
      | some 'e' | some 'E' => skipExponent
      | _ => pure ()
  | some 'e' | some 'E' => skipExponent
  | _ => pure ()

def skipNumber : Reader Unit := do
  match ← peek with
  | none => failHere .badNumber
  | some c =>
    if !Text.isDigit c then failNext .badNumber
    else if c = '0' then
      skip
      if ((← peek).map Text.isDigit).getD false then failNext .badNumber else skipFraction
    else
      discard digits
      skipFraction

end Reader

end PolicyGate.Json
