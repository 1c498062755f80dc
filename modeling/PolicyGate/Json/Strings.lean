import PolicyGate.Json.Reader

/-!
JSON strings, from behind the opening quote. A string that is wanted is decoded; one that is not
is only checked, and there an escape may stand for half a surrogate pair.
-/

namespace PolicyGate.Json.Reader

def shortEscape? : Char → Option Char
  | '"' => some '"'
  | '\\' => some '\\'
  | '/' => some '/'
  | 'b' => some '\x08'
  | 'f' => some '\x0c'
  | 'n' => some '\n'
  | 'r' => some '\r'
  | 't' => some '\t'
  | _ => none

def isLeading (unit : Nat) : Bool := 0xD800 ≤ unit && unit ≤ 0xDBFF

def isTrailing (unit : Nat) : Bool := 0xDC00 ≤ unit && unit ≤ 0xDFFF

def joinSurrogates (leading trailing : Nat) : Char :=
  Char.ofNat (0x10000 + (leading - 0xD800) * 0x400 + (trailing - 0xDC00))

def pairPart (wanted : Char) : Reader Unit := do
  match ← peek with
  | none => failHere .endInString
  | some c => if c = wanted then skip else failNext .unpairedEscape

def unicodeEscape : Reader Char := do
  let unit ← hexEscape
  if isTrailing unit then failHere .loneSurrogate
  else if isLeading unit then do
    pairPart '\\'
    pairPart 'u'
    let second ← hexEscape
    if isTrailing second then pure (joinSurrogates unit second) else failHere .loneSurrogate
  else pure (Char.ofNat unit)

def escape : Reader Char := do
  match ← peek with
  | none => failHere .endInString
  | some c =>
    if c = 'u' then skip; unicodeEscape
    else
      match shortEscape? c with
      | some escaped => skip; pure escaped
      | none => failNext .badEscape

def stringFrom : Nat → List Char → Reader String
  | 0, _ => failHere .endInString
  | fuel + 1, found => do
    match ← peek with
    | none => failHere .endInString
    | some c =>
      if c = '"' then skip; pure (.ofList found.reverse)
      else if c = '\\' then skip; stringFrom fuel ((← escape) :: found)
      else if c.toNat < 0x20 then failNext .controlCharacter
      else skip; stringFrom fuel (c :: found)

def string : Reader String := do stringFrom ((← remaining) + 1) []

def skipEscape : Reader Unit := do
  match ← peek with
  | none => failHere .endInString
  | some c =>
    if c = 'u' then skip; discard hexEscape
    else if (shortEscape? c).isSome then skip
    else failNext .badEscape

def skipStringFrom : Nat → Reader Unit
  | 0 => failHere .endInString
  | fuel + 1 => do
    match ← peek with
    | none => failHere .endInString
    | some c =>
      if c = '"' then skip
      else if c = '\\' then skip; skipEscape; skipStringFrom fuel
      else if c.toNat < 0x20 then failHere .controlCharacter
      else skip; skipStringFrom fuel

def skipString : Reader Unit := do skipStringFrom ((← remaining) + 1)

end PolicyGate.Json.Reader
