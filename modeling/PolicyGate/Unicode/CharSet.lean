import PolicyGate.Unicode.Ranges
import PolicyGate.Unicode.Folding

/-!
Sets of characters as expressions over ranges and tables, with one function that decides
membership.
-/

namespace PolicyGate.Unicode

inductive CharSet where
  | empty
  | range (first last : Nat)
  | table (ranges : RangeTable)
  | union (left right : CharSet)
  | inter (left right : CharSet)
  | diff (left right : CharSet)
  | complement (set : CharSet)
  /-- The set and all case variants of its members. -/
  | folded (set : CharSet)

namespace CharSet

def single (c : Char) : CharSet := .range c.toNat c.toNat

def ofText (text : String) : CharSet := .table (.ofText text)

def unionAll (sets : List CharSet) : CharSet := sets.foldr .union .empty

def ascii : CharSet := .range 0 0x7F

def mem : CharSet → Char → Bool
  | empty, _ => false
  | range first last, c => first ≤ c.toNat && c.toNat ≤ last
  | table ranges, c => ranges.contains c.toNat
  | union left right, c => left.mem c || right.mem c
  | inter left right, c => left.mem c && right.mem c
  | diff left right, c => left.mem c && !right.mem c
  | complement set, c => !set.mem c
  | folded set, c => (caseVariants c).any set.mem

def symmDiff (left right : CharSet) : CharSet :=
  .union (.diff left right) (.diff right left)

def isClosed : CharSet → Bool
  | empty => true
  | folded _ => true
  | complement set => set.isClosed
  | union left right | inter left right | diff left right => left.isClosed && right.isClosed
  | _ => false

def close : CharSet → CharSet
  | union left right => .union left.close right.close
  | set => if set.isClosed then set else .folded set

def ranges : CharSet → List (Nat × Nat)
  | empty => []
  | range first last => if first ≤ last then [(first, last)] else []
  | table ranges => unite ranges.ranges.toList []
  | union left right => unite left.ranges right.ranges
  | inter left right => gaps (unite (gaps left.ranges) (gaps right.ranges))
  | diff left right => gaps (unite (gaps left.ranges) right.ranges)
  | complement set => gaps set.ranges
  | folded set => foldRanges set.ranges

end CharSet

end PolicyGate.Unicode
