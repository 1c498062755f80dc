import PolicyGate.Json.Strings
import PolicyGate.Json.Numbers
import PolicyGate.Text.Quoted

/-!
Reading values of a wanted shape, and passing over values that nobody wants.

A record is read from an object, whose unknown members are passed over, or from a list that gives
its fields in order. Lists that are passed over may nest to any depth.
-/

namespace PolicyGate.Json.Reader

inductive Container where
  | list
  | object
  deriving DecidableEq

/-- What comes next while values are passed over: a value, or what may follow one inside its
container; before the first one, no comma may. -/
inductive Expecting where
  | value
  | more (afterValue : Bool)

def Container.unclosed : Container → Fault
  | .list => .endInList
  | .object => .endInObject

def Container.noEnd : Container → Fault
  | .list => .expectedListEnd
  | .object => .expectedObjectEnd

def Container.closing : Container → Char
  | .list => ']'
  | .object => '}'

def colon : Reader Unit := do
  match ← peekPastGap with
  | some ':' => skip
  | some _ => failNext .expectedColon
  | none => failHere .endInObject

def skipKey : List Container → Reader Unit
  | .object :: _ => do
    match ← peekPastGap with
    | some '"' => skip; skipString; colon
    | some _ => failNext .expectedKey
    | none => failHere .endInObject
  | _ => pure ()

def skipScalar : Reader (Option Container) := do
  match ← peekPastGap with
  | none => failHere .endInValue
  | some 'n' => skip; word ['u', 'l', 'l']; pure none
  | some 't' => skip; word ['r', 'u', 'e']; pure none
  | some 'f' => skip; word ['a', 'l', 's', 'e']; pure none
  | some '"' => skip; skipString; pure none
  | some '-' => skip; skipNumber; pure none
  | some '[' => skip; pure (some .list)
  | some '{' => skip; pure (some .object)
  | some c => if Text.isDigit c then skipNumber; pure none else failNext .expectedValue

def skipFrom : Nat → Expecting → List Container → Reader Unit
  | 0, _, _ => failHere .endInValue
  | fuel + 1, .value, opened => do
    match ← skipScalar with
    | some container => skipFrom fuel (.more false) (container :: opened)
    | none => skipFrom fuel (.more true) opened
  | _ + 1, .more _, [] => pure ()
  | fuel + 1, .more afterValue, container :: opened => do
    match ← peekPastGap with
    | none => failHere container.unclosed
    | some c =>
      if c = container.closing then skip; skipFrom fuel (.more true) opened
      else if !afterValue then
        skipKey (container :: opened); skipFrom fuel .value (container :: opened)
      else if c = ',' then
        skip; skipKey (container :: opened); skipFrom fuel .value (container :: opened)
      else failNext container.noEnd

def skipValue : Reader Unit := do skipFrom (2 * (← remaining) + 4) .value []

def wrongType {α : Type} (wanted : String) : Reader α := do
  let fail (found : Found) : Reader α := failHere (.wrongType found wanted)
  match ← peekPastGap with
  | some 'n' => skip; word ['u', 'l', 'l']; fail .null
  | some 't' => skip; word ['r', 'u', 'e']; fail (.boolean true)
  | some 'f' => skip; word ['a', 'l', 's', 'e']; fail (.boolean false)
  | some '-' => skip; fail (← number true)
  | some '"' => skip; fail (.string (Text.quoted (← string)))
  | some '[' => fail .sequence
  | some '{' => fail .object
  | some c => if Text.isDigit c then fail (← number false) else failNext .expectedValue
  | none => failHere .endInValue

def text : Reader String := do
  match ← peekPastGap with
  | none => failHere .endInValue
  | some '"' => skip; string
  | some _ => wrongType "a string"

def optional {α : Type} (reader : Reader α) : Reader (Option α) := do
  match ← peekPastGap with
  | some 'n' => skip; word ['u', 'l', 'l']; pure none
  | _ => some <$> reader

def nextKey (first : Bool) : Reader (Option String) := do
  match ← peekPastGap with
  | none => failHere .endInObject
  | some '}' => pure none
  | some c =>
    if first then
      if c = '"' then skip; some <$> string else failNext .expectedKey
    else if c = ',' then
      skip
      match ← peekPastGap with
      | some '"' => skip; some <$> string
      | some '}' => failNext .trailingComma
      | some _ => failNext .expectedKey
      | none => failHere .endInValue
    else failNext .expectedObjectEnd

def members {σ : Type} (onMember : String → σ → Reader σ) : Nat → Bool → σ → Reader σ
  | 0, _, _ => failHere .endInObject
  | fuel + 1, first, record => do
    match ← nextKey first with
    | none => skip; pure record
    | some key => members onMember fuel false (← onMember key record)

def nextElement (first : Bool) : Reader Bool := do
  match ← peekPastGap with
  | none => failHere .endInList
  | some ']' => pure false
  | some c =>
    if first then pure true
    else if c = ',' then
      skip
      match ← peekPastGap with
      | some ']' => failNext .trailingComma
      | some _ => pure true
      | none => failHere .endInValue
    else failNext .expectedListEnd

def endList : Reader Unit := do
  match ← peekPastGap with
  | some ']' => skip
  | some ',' =>
    skip
    if (← peekPastGap) = some ']' then failNext .trailingComma
    else failNext .trailingCharacters
  | some _ => failNext .trailingCharacters
  | none => failHere .endInList

/-- The fields of a record in order; those that are not there keep what they have. -/
def elements {σ : Type} : List (σ → Reader σ) → Bool → σ → Reader σ
  | [], _, record => do endList; pure record
  | field :: fields, first, record => do
    if ← nextElement first then elements fields false (← field record)
    else endList; pure record

def record {σ : Type} (wanted : String) (onMember : String → σ → Reader σ)
    (fields : List (σ → Reader σ)) (initial : σ) : Reader σ := do
  match ← peekPastGap with
  | none => failHere .endInValue
  | some '[' => skip; elements fields true initial
  | some '{' => skip; members onMember ((← remaining) + 1) true initial
  | some _ => wrongType wanted

def duplicate {α : Type} (name : String) : Reader α := do
  if (← peekPastGap) = some '}' then skip
  failHere (.duplicateField name)

def document {α : Type} (reader : Reader α) (source : String) : Except Error α :=
  let whole : Reader α := do
    let value ← reader
    match ← peekPastGap with
    | some _ => failNext .trailingCharacters
    | none => pure value
  (·.1) <$> whole.run (.start source)

end PolicyGate.Json.Reader
