/-
  The text of a double.

  * `NumberStyle`: how a format writes the exponent.
  * `NumberStyle.write`: the shortest digits that read back, with a point and at
    least one digit on either side of it while the number is of moderate size, and
    with an exponent otherwise.
-/
import ApiKinds.Decimal.Shortest

namespace ApiKinds

/-- How numbers with an exponent are written. -/
structure NumberStyle where
  /-- A positive exponent has a sign. -/
  plusSign : Bool
  /-- The least number of digits of an exponent. -/
  exponentWidth : Nat

namespace NumberStyle

/-- The powers of ten of the leading digit for which a number is written with a point
    only. -/
def isPositional (top : Int) : Bool :=
  -5 ≤ top && top < 16

/-- Digits with the point behind the digit at `10 ^ 0`. -/
def positional (digits : List Char) (top : Int) : List Char :=
  if top < 0 then ['0', '.'] ++ List.replicate (-top - 1).toNat '0' ++ digits
  else
    let whole := top.toNat + 1
    if digits.length ≤ whole then
      digits ++ List.replicate (whole - digits.length) '0' ++ ['.', '0']
    else digits.take whole ++ ['.'] ++ digits.drop whole

/-- Digits with the point behind the first one, if others follow, and an exponent. -/
def scientific (style : NumberStyle) (digits : List Char) (top : Int) : List Char :=
  let head := match digits with
    | [] => []
    | [d] => [d]
    | d :: rest => d :: '.' :: rest
  let sign := if top < 0 then ['-'] else if style.plusSign then ['+'] else []
  let power := Nat.toDigits 10 top.natAbs
  head ++ ['e'] ++ sign ++ List.replicate (style.exponentWidth - power.length) '0' ++ power

/-- The text of a finite double. -/
def write (style : NumberStyle) (x : Binary64) : String :=
  let (digits, e) := x.shortest
  let digits := Nat.toDigits 10 digits
  let top := e + digits.length - 1
  let size := if x.isZero then ['0', '.', '0']
    else if isPositional top then positional digits top
    else style.scientific digits top
  .ofList ((if x.isNegative then ['-'] else []) ++ size)

end NumberStyle

end ApiKinds
