/-!
The shortest decimal that reads back as a given double. A double stands for all numbers nearer to
it than to its neighbours; of the decimals in that interval the one with the fewest digits is
taken, and among those of that length the nearest.
-/

namespace PolicyGate

structure Decimal where
  digits : Nat
  exponent : Int

namespace Decimal

/-- The interval of a double, as fractions over one denominator. -/
structure Interval where
  low : Nat
  value : Nat
  high : Nat
  denominator : Nat
  closed : Bool

namespace Interval

def ofBits (bits : UInt64) : Interval :=
  let fraction : Nat := bits.toNat % Nat.pow 2 52
  let biased : Nat := bits.toNat / Nat.pow 2 52 % Nat.pow 2 11
  let mantissa : Nat := if biased = 0 then fraction else Nat.pow 2 52 + fraction
  let exponent : Int := if biased = 0 then -1074 else (biased : Int) - 1075
  let below : Nat := if fraction = 0 ∧ 1 < biased then 1 else 2
  let scale := exponent - 2
  let factor := Nat.pow 2 scale.toNat
  ⟨(4 * mantissa - below) * factor, 4 * mantissa * factor, (4 * mantissa + 2) * factor,
    Nat.pow 2 (-scale).toNat, mantissa % 2 = 0⟩

def shift (interval : Interval) (exponent : Int) : Interval :=
  let up := Nat.pow 10 (-exponent).toNat
  { interval with
    low := interval.low * up
    value := interval.value * up
    high := interval.high * up
    denominator := interval.denominator * Nat.pow 10 exponent.toNat }

def holds (interval : Interval) (number : Nat) : Bool :=
  let scaled := number * interval.denominator
  if interval.closed then interval.low ≤ scaled && scaled ≤ interval.high
  else interval.low < scaled && scaled < interval.high

/-- The whole number next to the value that lies in the interval, if one of its two neighbours
does. -/
def neighbour? (interval : Interval) : Option Nat :=
  let lower := interval.value / interval.denominator
  let upper := lower + 1
  let middle := (2 * lower + 1) * interval.denominator
  match interval.holds lower, interval.holds upper with
  | true, false => some lower
  | false, true => some upper
  | false, false => none
  | true, true =>
    if 2 * interval.value < middle then some lower
    else if middle < 2 * interval.value then some upper
    else if lower % 2 = 0 then some lower else some upper

def magnitude (interval : Interval) : Int :=
  let reached (power : Int) : Bool :=
    let shifted := interval.shift power
    shifted.denominator ≤ shifted.value
  let powers := (List.range 640).map fun (step : Nat) => (310 : Int) - step
  (powers.find? reached).getD 0

end Interval

def strip (number : Decimal) : Nat → Decimal
  | 0 => number
  | fuel + 1 =>
    if number.digits ≠ 0 ∧ number.digits % 10 = 0 then
      strip ⟨number.digits / 10, number.exponent + 1⟩ fuel
    else number

def shortest (bits : UInt64) : Decimal :=
  let interval := Interval.ofBits bits
  if interval.value = 0 then ⟨0, 0⟩
  else
    let top := interval.magnitude
    let attempt (places : Nat) : Option Decimal :=
      let exponent := top - places
      ((interval.shift exponent).neighbour?).map (⟨·, exponent⟩)
    match (List.range 17).findSome? attempt with
    | some found => found.strip 20
    | none => ⟨0, 0⟩

end Decimal

end PolicyGate
