/-!
Reading bytes as UTF-8: strictly, and with the replacement character for what is not UTF-8.
-/

namespace PolicyGate.Text

/-- A character of which some bytes have been read: how many are still owed, the least and the
greatest the next may be, and the bits so far. -/
structure Unfinished where
  owed : Nat
  low : UInt8
  high : UInt8
  bits : Nat

def replacement : Char := '\uFFFD'

def openByte (byte : UInt8) : List Char × Option Unfinished :=
  let value := byte.toNat
  if byte < 0x80 then ([Char.ofNat value], none)
  else if byte < 0xC2 then ([replacement], none)
  else if byte < 0xE0 then ([], some ⟨1, 0x80, 0xBF, value - 0xC0⟩)
  else if byte = 0xE0 then ([], some ⟨2, 0xA0, 0xBF, 0⟩)
  else if byte = 0xED then ([], some ⟨2, 0x80, 0x9F, 0xD⟩)
  else if byte < 0xF0 then ([], some ⟨2, 0x80, 0xBF, value - 0xE0⟩)
  else if byte = 0xF0 then ([], some ⟨3, 0x90, 0xBF, 0⟩)
  else if byte < 0xF4 then ([], some ⟨3, 0x80, 0xBF, value - 0xF0⟩)
  else if byte = 0xF4 then ([], some ⟨3, 0x80, 0x8F, 4⟩)
  else ([replacement], none)

def readByte (state : Option Unfinished) (byte : UInt8) : List Char × Option Unfinished :=
  match state with
  | none => openByte byte
  | some unfinished =>
    if unfinished.low ≤ byte ∧ byte ≤ unfinished.high then
      let bits := 64 * unfinished.bits + (byte.toNat - 0x80)
      if unfinished.owed ≤ 1 then ([Char.ofNat bits], none)
      else ([], some ⟨unfinished.owed - 1, 0x80, 0xBF, bits⟩)
    else
      let (opened, next) := openByte byte
      (replacement :: opened, next)

def decodeFrom (state : Option Unfinished) : List UInt8 → List Char
  | [] => if state.isSome then [replacement] else []
  | byte :: rest =>
    let (found, next) := readByte state byte
    found ++ decodeFrom next rest

/-- Each longest part that begins a character without finishing it counts as one replacement. -/
def decodeLossy (bytes : ByteArray) : List Char := decodeFrom none bytes.toList

end PolicyGate.Text
