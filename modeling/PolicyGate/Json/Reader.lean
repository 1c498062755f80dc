import PolicyGate.Json.Error
import PolicyGate.Text.Digit

/-!
Reading JSON from the left. A reader takes the text that is left, with its position, and either
fails or gives a value and the text after it.

A failure is placed either where the reader stands or behind the next byte, so that an unexpected
byte is counted and the end of the text is not.
-/

namespace PolicyGate.Json

structure Cursor where
  rest : List Char
  line : Nat
  column : Nat

namespace Cursor

def start (text : String) : Cursor := ⟨text.toList, 1, 0⟩

/-- Line and column behind the next bytes, which may end inside a character. -/
def placeFrom (line column : Nat) : Nat → List Char → Nat × Nat
  | 0, _ => (line, column)
  | _, [] => (line, column)
  | bytes + 1, c :: rest =>
    if c = '\n' then placeFrom (line + 1) 0 bytes rest
    else if c.utf8Size ≤ bytes + 1 then
      placeFrom line (column + c.utf8Size) (bytes + 1 - c.utf8Size) rest
    else (line, column + bytes + 1)

def placeAfter (cursor : Cursor) (bytes : Nat) : Nat × Nat :=
  placeFrom cursor.line cursor.column bytes cursor.rest

def next (cursor : Cursor) : Cursor :=
  match cursor.rest with
  | [] => cursor
  | c :: rest =>
    if c = '\n' then ⟨rest, cursor.line + 1, 0⟩
    else ⟨rest, cursor.line, cursor.column + c.utf8Size⟩

def isGap (c : Char) : Bool := c = ' ' || c = '\n' || c = '\t' || c = '\r'

def skipGapFrom (line column : Nat) : List Char → Cursor
  | [] => ⟨[], line, column⟩
  | c :: rest =>
    if c = '\n' then skipGapFrom (line + 1) 0 rest
    else if isGap c then skipGapFrom line (column + 1) rest
    else ⟨c :: rest, line, column⟩

def skipGap (cursor : Cursor) : Cursor := skipGapFrom cursor.line cursor.column cursor.rest

end Cursor

abbrev Reader := StateT Cursor (Except Error)

namespace Reader

def failHere {α : Type} (fault : Fault) : Reader α := fun cursor =>
  .error ⟨fault, cursor.line, cursor.column⟩

def failNext {α : Type} (fault : Fault) : Reader α := fun cursor =>
  let (line, column) := cursor.placeAfter 1
  .error ⟨fault, line, column⟩

def peek : Reader (Option Char) := fun cursor => .ok (cursor.rest.head?, cursor)

def skip : Reader Unit := fun cursor => .ok ((), cursor.next)

def peekPastGap : Reader (Option Char) := fun cursor =>
  let cursor := cursor.skipGap
  .ok (cursor.rest.head?, cursor)

def remaining : Reader Nat := fun cursor => .ok (cursor.rest.length, cursor)

def word : List Char → Reader Unit
  | [] => pure ()
  | wanted :: rest => do
    match ← peek with
    | none => failHere .endInValue
    | some c => if c = wanted then skip; word rest else failNext .expectedWord

def digits : Reader (List Char) := fun cursor =>
  let found := cursor.rest.takeWhile Text.isDigit
  .ok (found, ⟨cursor.rest.dropWhile Text.isDigit, cursor.line, cursor.column + found.length⟩)

def hexEscape : Reader Nat := fun cursor =>
  let (line, column) := cursor.placeAfter 4
  match cursor.rest with
  | a :: b :: c :: d :: rest =>
    match Text.number? 16 [a, b, c, d] with
    | some value => .ok (value, ⟨rest, line, column⟩)
    | none => .error ⟨.badEscape, line, column⟩
  | rest =>
    if (String.ofList rest).utf8ByteSize < 4 then .error ⟨.endInString, line, column⟩
    else .error ⟨.badEscape, line, column⟩

end Reader

end PolicyGate.Json
