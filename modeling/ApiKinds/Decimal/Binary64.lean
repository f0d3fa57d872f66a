/-
  Double-precision numbers as their 64 bits, and the reading of decimals into
  them.

  * `Decimal`: a sign, a significand and a power of ten.
  * `Binary64`: a double by its bits; `decoded` gives significand and power of two
    of a finite one.
  * `roundRatio num den` is the double nearest to a positive ratio, a tie going to
    the even significand, unless it lies beyond the greatest one.
  * `ofDecimal?`, `ofInt`: the nearest double of a decimal and of an integer.
-/
import ApiKinds.Decimal.Power

namespace ApiKinds

/-- The number `± significand · 10 ^ exponent`. -/
structure Decimal where
  negative : Bool
  significand : Nat
  exponent : Int
deriving DecidableEq, Repr

/-- A double-precision number. -/
structure Binary64 where
  bits : UInt64
deriving DecidableEq, Repr, Inhabited

namespace Binary64

/-! ## Parts of a double -/

/-- The exponent of the smallest step between doubles. -/
def minExponent : Int := -1074

/-- The least significand of a normal double. -/
def normalBound : Nat := twoTo 52

def isNegative (x : Binary64) : Bool :=
  x.bits.toNat ≥ twoTo 63

/-- The eleven bits of the exponent. -/
def exponentField (x : Binary64) : Nat :=
  x.bits.toNat / twoTo 52 % twoTo 11

/-- The bits behind the leading one. -/
def fractionField (x : Binary64) : Nat :=
  x.bits.toNat % twoTo 52

def isFinite (x : Binary64) : Bool :=
  x.exponentField != 2047

/-- Significand and exponent of the size of a finite double, `m · 2 ^ q`. -/
def decoded (x : Binary64) : Nat × Int :=
  if x.exponentField = 0 then (x.fractionField, minExponent)
  else (normalBound + x.fractionField, (x.exponentField : Int) - 1075)

def isZero (x : Binary64) : Bool :=
  x.decoded.1 == 0

/-- The double with the given sign and the size `m · 2 ^ q`, for a significand below
    `2 ^ 53` that is small only at the least exponent; `none` beyond the range. -/
def encode? (negative : Bool) (m : Nat) (q : Int) : Option Binary64 :=
  let sign := if negative then twoTo 63 else 0
  if m < normalBound then some ⟨.ofNat (sign + m)⟩
  else
    let field := (q + 1075).toNat
    if field < 2047 then some ⟨.ofNat (sign + field * twoTo 52 + (m - normalBound))⟩ else none

/-! ## Rounding -/

/-- The integer nearest to `num / den`, a tie going to the even one. -/
def roundDiv (num den : Nat) : Nat :=
  let q := num / den
  let rest := 2 * (num % den)
  if rest < den ∨ (rest = den ∧ q % 2 = 0) then q else q + 1

/-- Numerator and denominator of `num / (den · 2 ^ q)`. -/
def scaled (num den : Nat) (q : Int) : Nat × Nat :=
  if 0 ≤ q then (num, den * twoTo q.toNat) else (num * twoTo (-q).toNat, den)

/-- The exponent at which the ratio has 53 bits, but never below the least one. -/
def exponentOf (num den : Nat) : Int :=
  let guess := (num.log2 : Int) - den.log2 - 52
  let (n, d) := scaled num den guess
  max minExponent (if n / d < normalBound then guess - 1 else guess)

/-- The double nearest to `± num / den`. -/
def roundRatio (negative : Bool) (num den : Nat) : Option Binary64 :=
  let q := exponentOf num den
  let (n, d) := scaled num den q
  let m := roundDiv n d
  if m = 2 * normalBound then encode? negative normalBound (q + 1) else encode? negative m q

/-! ## Decimals -/

/-- The number of decimal digits, one for zero. -/
def digitCount (n : Nat) : Nat :=
  (Nat.toDigits 10 n).length

/-- The double nearest to a decimal; `none` if it is beyond the range. Decimals far
    beyond either end are decided by their magnitude alone. -/
def ofDecimal? (d : Decimal) : Option Binary64 :=
  if d.significand = 0 then encode? d.negative 0 minExponent
  else
    let magnitude := d.exponent + digitCount d.significand
    if magnitude < -330 then encode? d.negative 0 minExponent
    else if 310 < magnitude then none
    else if 0 ≤ d.exponent then
      roundRatio d.negative (d.significand * tenTo d.exponent.toNat) 1
    else roundRatio d.negative d.significand (tenTo (-d.exponent).toNat)

/-- Positive zero. -/
def zero : Binary64 := ⟨0⟩

/-- The double nearest to an integer of moderate size. -/
def ofInt (i : Int) : Binary64 :=
  (ofDecimal? ⟨decide (i < 0), i.natAbs, 0⟩).getD zero

end Binary64

end ApiKinds
