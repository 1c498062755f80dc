/-!
Case mappings written as runs of evenly spaced code points that all move by the same distance.
-/

namespace PolicyGate.Unicode

structure CaseRun where
  first : Nat
  last : Nat
  step : Nat
  shift : Int

namespace CaseRun

def covers (run : CaseRun) (point : Nat) : Bool :=
  run.first ≤ point && point ≤ run.last && (point - run.first) % run.step == 0

/-- The image of a code point under the first run that covers it, else the point itself. -/
def apply (runs : List CaseRun) (point : Nat) : Nat :=
  match runs.find? (·.covers point) with
  | some run => (point + run.shift).toNat
  | none => point

def sources (runs : List CaseRun) (image : Nat) : List Nat :=
  runs.filterMap fun run =>
    let source := (image : Int) - run.shift
    if 0 ≤ source ∧ run.covers source.toNat then some source.toNat else none

def within (run : CaseRun) (low high : Nat) : List (Nat × Nat) :=
  if run.last < low ∨ high < run.first then []
  else
    let ahead := (max run.first low - run.first + run.step - 1) / run.step
    let start := run.first + ahead * run.step
    let stop := min run.last high
    if stop < start then []
    else if run.step = 1 then [(start, stop)]
    else (List.range ((stop - start) / run.step + 1)).map fun count =>
      (start + count * run.step, start + count * run.step)

def images (run : CaseRun) (range : Nat × Nat) : List (Nat × Nat) :=
  (run.within range.1 range.2).map fun (low, high) =>
    ((low + run.shift).toNat, (high + run.shift).toNat)

def origins (run : CaseRun) (range : Nat × Nat) : List (Nat × Nat) :=
  run.within (range.1 - run.shift).toNat (range.2 - run.shift).toNat

end CaseRun

end PolicyGate.Unicode
