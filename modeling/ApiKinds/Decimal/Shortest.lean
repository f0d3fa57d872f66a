/-
  The shortest decimal that reads back as a given double.

  * `Interval`: the numbers that round to a double, between the middles to its two
    neighbours; the ends belong to it if the significand is even.
  * `shortest`: the first number of digits for which one of the two neighbours of
    the double on the grid of such decimals lies in the interval; the nearer one of
    two.
-/
import ApiKinds.Decimal.Binary64

namespace ApiKinds.Binary64

/-- A closed or open interval of fractions over one denominator, with the double
    itself inside. -/
structure Interval where
  low : Nat
  value : Nat
  high : Nat
  den : Nat
  closed : Bool

/-- What rounds to the size of a double. Below a power of two the step to the
    neighbour is half as wide. -/
def interval (x : Binary64) : Interval :=
  let (m, q) := x.decoded
  let narrow := x.fractionField = 0 ∧ 1 < x.exponentField
  let up := if 0 ≤ q then twoTo q.toNat else 1
  let down := if 0 ≤ q then 1 else twoTo (-q).toNat
  { low := (4 * m - if narrow then 1 else 2) * up
    value := 4 * m * up
    high := (4 * m + 2) * up
    den := 4 * down
    closed := m % 2 = 0 }

/-- Whether `digits · 10 ^ e` lies in the interval. -/
def Interval.holds (i : Interval) (digits : Nat) (e : Int) : Bool :=
  let (n, d) := if 0 ≤ e then (digits * tenTo e.toNat, 1) else (digits, tenTo (-e).toNat)
  let (l, v, h) := (i.low * d, n * i.den, i.high * d)
  if i.closed then l ≤ v && v ≤ h else l < v && v < h

/-- Twice the interval's value in units of `10 ^ e`, as a fraction. -/
def Interval.inUnits (i : Interval) (e : Int) : Nat × Nat :=
  if 0 ≤ e then (i.value, i.den * tenTo e.toNat) else (i.value * tenTo (-e).toNat, i.den)

/-- The better of the two neighbours on the grid `10 ^ e`, if one reads back. -/
def candidate? (i : Interval) (e : Int) : Option Nat :=
  let (n, d) := i.inUnits e
  let floor := n / d
  let rest := 2 * (n % d)
  let nearest := if rest < d ∨ (rest = d ∧ floor % 2 = 0) then floor else floor + 1
  let other := if nearest = floor then floor + 1 else floor
  if i.holds nearest e then some nearest
  else if i.holds other e then some other
  else none

/-- The power of ten of the leading digit of a positive fraction. -/
def leadingPower (num den : Nat) : Int :=
  if den ≤ num then (digitCount (num / den) : Int) - 1
  else
    let guess := digitCount den - digitCount num
    if den ≤ num * tenTo (guess - 1) then 1 - (guess : Int)
    else if den ≤ num * tenTo guess then -(guess : Int)
    else -(guess : Int) - 1

/-- Tries grids of growing fineness, the leading digit standing at `10 ^ top`. -/
def search (i : Interval) (top : Int) : Nat → Nat → Nat × Int
  | 0, places => ((i.inUnits (top - places)).1 / (i.inUnits (top - places)).2, top - places)
  | steps + 1, places =>
    match candidate? i (top - places) with
    | some digits => (digits, top - places)
    | none => search i top steps (places + 1)

/-- Drops zeros at the end. -/
def trimZeros : Nat → Nat × Int → Nat × Int
  | 0, d => d
  | steps + 1, (digits, e) =>
    if digits ≠ 0 ∧ digits % 10 = 0 then trimZeros steps (digits / 10, e + 1) else (digits, e)

/-- Digits and power of ten of the shortest decimal that reads back as the size of a
    finite double. -/
def shortest (x : Binary64) : Nat × Int :=
  if x.isZero then (0, 0)
  else
    let i := x.interval
    trimZeros 20 (search i (leadingPower i.value i.den) 17 0)

end ApiKinds.Binary64
