/-!
Sets of code points as ascending ranges, and the text in which the tables of this folder are
written: hexadecimal numbers, `first-last` or a single point, with blanks or line ends between
entries. All tables of this folder are those of Unicode 15.1.
-/

namespace PolicyGate.Unicode

/-- Ranges in ascending order that do not overlap, both ends included. -/
structure RangeTable where
  ranges : Array (Nat × Nat)

namespace RangeTable

def digitValue (digit : Char) : Nat :=
  if digit.toNat ≤ 57 then digit.toNat - 48 else digit.toNat - 55

def closeEntry (found : Array (Nat × Nat)) (first : Option Nat) :
    Option Nat → Array (Nat × Nat)
  | none => found
  | some last => found.push (first.getD last, last)

def entriesFrom (found : Array (Nat × Nat)) (first number : Option Nat) :
    List Char → Array (Nat × Nat)
  | [] => closeEntry found first number
  | '-' :: rest => entriesFrom found number none rest
  | c :: rest =>
    if c = ' ' ∨ c = '\n' then entriesFrom (closeEntry found first number) none none rest
    else entriesFrom found first (some (16 * number.getD 0 + digitValue c)) rest

def ofText (text : String) : RangeTable :=
  ⟨entriesFrom #[] none none text.toList⟩

def containsBetween (ranges : Array (Nat × Nat)) (point low high : Nat) : Bool :=
  if low < high then
    let middle := (low + high) / 2
    match ranges[middle]? with
    | none => false
    | some (first, last) =>
      if point < first then containsBetween ranges point low middle
      else if last < point then containsBetween ranges point (middle + 1) high
      else true
  else false
termination_by high - low

def contains (table : RangeTable) (point : Nat) : Bool :=
  containsBetween table.ranges point 0 table.ranges.size

end RangeTable

def insertRange (low high : Nat) : List (Nat × Nat) → List (Nat × Nat)
  | [] => [(low, high)]
  | (first, last) :: rest =>
    if high + 1 < first then (low, high) :: (first, last) :: rest
    else if last + 1 < low then (first, last) :: insertRange low high rest
    else insertRange (min low first) (max high last) rest

def unite (left right : List (Nat × Nat)) : List (Nat × Nat) :=
  left.foldr (fun range found => insertRange range.1 range.2 found) right

def lastPoint : Nat := 0x10FFFF

def gapsFrom (start : Nat) : List (Nat × Nat) → List (Nat × Nat)
  | [] => if start ≤ lastPoint then [(start, lastPoint)] else []
  | (first, last) :: rest =>
    if start < first then (start, first - 1) :: gapsFrom (last + 1) rest
    else gapsFrom (last + 1) rest

def gaps (ranges : List (Nat × Nat)) : List (Nat × Nat) := gapsFrom 0 ranges

end PolicyGate.Unicode
