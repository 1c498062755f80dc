import PolicyGate.Unicode.Ranges

/-!
Ranges of characters as UTF-8 writes them: sequences of ranges of bytes.
-/

namespace PolicyGate.Unicode

/-- The numbers of a range with so many digits to base 64 behind the leading one, as ranges of each
digit. -/
def digitForms : Nat → Nat → Nat → List (List (Nat × Nat))
  | 0, first, last => [[(first, last)]]
  | count + 1, first, last =>
    let unit := Nat.pow 64 (count + 1)
    let whole (low high : Nat) := [(low, high) :: List.replicate (count + 1) (0, 63)]
    let inside (lead low high : Nat) := (digitForms count low high).map ((lead, lead) :: ·)
    let (low, high) := (first / unit, last / unit)
    let (start, stop) := (first % unit, last % unit)
    if start = 0 ∧ stop = unit - 1 then whole low high
    else if low = high then inside low start stop
    else
      let front := if start = 0 then [] else inside low start (unit - 1)
      let back := if stop = unit - 1 then [] else inside high 0 stop
      let low := if start = 0 then low else low + 1
      let high := if stop = unit - 1 then high + 1 else high
      front ++ (if low < high then whole low (high - 1) else []) ++ back

structure Encoding where
  first : Nat
  last : Nat
  count : Nat
  lead : Nat

def encodings : List Encoding :=
  [⟨0, 0x7F, 0, 0⟩, ⟨0x80, 0x7FF, 1, 0xC0⟩, ⟨0x800, 0xD7FF, 2, 0xE0⟩, ⟨0xE000, 0xFFFF, 2, 0xE0⟩,
    ⟨0x10000, 0x10FFFF, 3, 0xF0⟩]

def Encoding.bytes (encoding : Encoding) : List (Nat × Nat) → List (Nat × Nat)
  | [] => []
  | (low, high) :: rest =>
    let behind := rest.map fun digit => (0x80 + digit.1, 0x80 + digit.2)
    (encoding.lead + low, encoding.lead + high) :: behind

def Encoding.forms (encoding : Encoding) (range : Nat × Nat) : List (List (Nat × Nat)) :=
  let low := max range.1 encoding.first
  let high := min range.2 encoding.last
  if low ≤ high then (digitForms encoding.count low high).map encoding.bytes else []

def byteForms (ranges : List (Nat × Nat)) : List (List (Nat × Nat)) :=
  ranges.flatMap fun range => encodings.flatMap fun encoding => encoding.forms range

end PolicyGate.Unicode
