import PolicyGate.Pattern.Basic
import PolicyGate.Unicode.ByteForm

/-!
How large the machines for a pattern become, with every repetition written out: one that reads the
bytes of a text forward and one that reads them backward. Patterns beyond the limit are refused, so
that no short text can demand unbounded work.
-/

namespace PolicyGate.Pattern

open Unicode

def stateSize : Nat := 32

def linkSize : Nat := 4

def rangeSize : Nat := 8

def forwardStates : Nat → List (List (Nat × Nat)) → List (List (List (Nat × Nat)))
  | 0, _ => []
  | depth + 1, forms =>
    let leads := (forms.filterMap List.head?).eraseDups
    let later := leads.map fun lead => (forms.filter (·.head? = some lead)).map List.tail
    forms :: (later.filter (· ≠ [[]])).flatMap (forwardStates depth)

def forwardSize (forms : List (List (Nat × Nat))) : Nat :=
  let sizes := (forwardStates 4 forms).eraseDups.map fun rest =>
    stateSize + rangeSize * (rest.filterMap List.head?).eraseDups.length
  sizes.foldl (· + ·) stateSize

def sharedLength : List (Nat × Nat) → List (Nat × Nat) → Nat
  | byte :: first, other :: second => if byte = other then sharedLength first second + 1 else 0
  | _, _ => 0

/-- Forms that begin alike end in the same states of a backward machine. -/
def backwardStates (before : List (Nat × Nat)) : List (List (Nat × Nat)) → Nat
  | [] => 0
  | form :: forms => form.length - sharedLength before form + backwardStates form forms

def backwardSize (forms : List (List (Nat × Nat))) : Nat :=
  2 * stateSize + linkSize * forms.length + stateSize * backwardStates [] forms

/-- A single character takes a state for each of its bytes, and sets within ASCII take one in all,
with one behind it. -/
def setSize (backward : Bool) (set : CharSet) : Nat :=
  let ranges := set.ranges
  match ranges with
  | [] => stateSize
  | [(first, last)] =>
    if first = last then stateSize * (byteForms ranges).flatten.length
    else if last < 128 then 2 * stateSize
    else if backward then backwardSize (byteForms ranges)
    else forwardSize (byteForms ranges)
  | _ =>
    if ranges.all (·.2 < 128) then 2 * stateSize + rangeSize * ranges.length
    else if backward then backwardSize (byteForms ranges)
    else forwardSize (byteForms ranges)

def isZeroWidth : Pattern → Bool
  | empty => true
  | assertion _ => true
  | one _ => false
  | seq first second => first.isZeroWidth && second.isZeroWidth
  | either left right => left.isZeroWidth && right.isZeroWidth
  | repeated body _ most => body.isZeroWidth || most = some 0
  | captured body => body.isZeroWidth

def mayBeEmpty : Pattern → Bool
  | empty => true
  | assertion _ => true
  | one _ => false
  | seq first second => first.mayBeEmpty && second.mayBeEmpty
  | either left right => left.mayBeEmpty || right.mayBeEmpty
  | repeated body least _ => body.mayBeEmpty || least = 0
  | captured body => body.mayBeEmpty

def repetition (body : Pattern) (least : Nat) (most : Option Nat) : Nat × Option Nat :=
  if body.isZeroWidth then (min least 1, some ((most.map (min · 1)).getD 1)) else (least, most)

def isNothing : Pattern → Bool
  | empty => true
  | seq first second => first.isNothing && second.isNothing
  | repeated body least most =>
    match body.repetition least most with
    | (0, some 0) => true
    | (1, some 1) => body.isNothing
    | _ => false
  | _ => false

def set? : Pattern → Option CharSet
  | one set => some set
  | either left right => do some (.union (← left.set?) (← right.set?))
  | _ => none

def repeatedSize (body : Pattern) (size least : Nat) (most : Option Nat) : Nat :=
  match body.repetition least most with
  | (0, some 0) => stateSize
  | (1, some 1) => size
  | (0, some 1) => size + 2 * stateSize + 2 * linkSize
  | (0, none) =>
    if body.mayBeEmpty then size + 3 * stateSize + 4 * linkSize
    else size + stateSize + 2 * linkSize
  | (least, none) => least * size + stateSize + 2 * linkSize
  | (least, some most) =>
    if least = most then least * size
    else
      let front := if least = 0 then stateSize else least * size
      front + stateSize + (most - least) * (size + stateSize + 2 * linkSize)

/-- The size of a pattern by itself, and what it adds as a branch of a choice between several. -/
def sizes (backward : Bool) : Pattern → Nat × Nat
  | empty | assertion _ => branch stateSize
  | one set => branch (setSize backward set)
  | seq first second =>
    if first.isNothing then branch (sizes backward second).1
    else if second.isNothing then branch (sizes backward first).1
    else branch ((sizes backward first).1 + (sizes backward second).1)
  | either left right =>
    let branches := (sizes backward left).2 + (sizes backward right).2
    match set? (either left right) with
    | some set => (setSize backward set, branches)
    | none => (2 * stateSize + branches, branches)
  | repeated body least most =>
    branch (repeatedSize body (sizes backward body).1 least most)
  | captured body => branch ((sizes backward body).1 + if backward then 0 else 2 * stateSize)
where
  branch (size : Nat) : Nat × Nat := (size, size + linkSize)

def size (backward : Bool) (pattern : Pattern) : Nat := (pattern.sizes backward).1

def sizeLimit : Nat := 10 * Nat.pow 2 20

/-- A match may begin anywhere, which takes two states, and is a state of its own. The forward
machine also marks where it begins and ends. -/
def IsSmall (pattern : Pattern) : Prop :=
  let frame := 3 * stateSize + 2 * linkSize
  pattern.size false + frame + 2 * stateSize ≤ sizeLimit ∧ pattern.size true + frame ≤ sizeLimit

instance (pattern : Pattern) : Decidable pattern.IsSmall := by
  unfold IsSmall
  infer_instance

end PolicyGate.Pattern
