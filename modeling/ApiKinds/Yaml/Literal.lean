/-
  What a scalar stands for.

  * `integer?`, `double?`, `bool?`, `isNull`: the words for values that are no text.
  * `plainValue?`: the value of a scalar without quotes. An integer that has more
    than 64 bits is an error, and if it has more than 128 bits it is a double.
  * `scalarValue?`: the value of any scalar, as its tag demands.
-/
import ApiKinds.Yaml.Basic
import ApiKinds.Yaml.Node

namespace ApiKinds.Yaml

open Text

/-! ## Words -/

def isNull (s : String) : Bool :=
  ["null", "Null", "NULL", "~"].contains s

def bool? (s : String) : Option Bool :=
  if ["true", "True", "TRUE"].contains s then some true
  else if ["false", "False", "FALSE"].contains s then some false
  else none

/-! ## Integers -/

/-- The marks of the bases other than ten. -/
def bases : List (Char × Nat) :=
  [('x', 16), ('o', 8), ('b', 2)]

/-- The value of a digit in a base. -/
def digitIn? (base : Nat) (c : Char) : Option Nat :=
  (hexDigit? c).filter (· < base)

/-- The number written by digits in a base. -/
def numeral? (base : Nat) (digits : List Char) : Option Nat :=
  if digits.isEmpty then none
  else (digits.mapM (digitIn? base)).map fun values => values.foldl (fun n d => base * n + d) 0

/-- The number written with a mark for its base. -/
def markedNumeral? : List Char → Option Nat
  | '0' :: mark :: digits => (bases.lookup mark).bind (numeral? · digits)
  | _ => none

/-- The text without a sign. -/
def unsigned : List Char → List Char
  | '+' :: rest => rest
  | '-' :: rest => rest
  | s => s

/-- Whether a text has nothing but digits, of which the first of several is zero; such a
    text is no number. -/
def isPaddedDigits (s : List Char) : Bool :=
  match unsigned s with
  | '0' :: d :: rest => (d :: rest).all Char.isDigit
  | _ => false

/-- The integer that a text writes. -/
def integer? (s : List Char) : Option Int :=
  let size := unsigned s
  let plain := if isPaddedDigits s then none else numeral? 10 size
  (markedNumeral? size <|> plain).map fun n => if s.head? = some '-' then -n else n

/-! ## Doubles -/

/-- Digits with a point and an exponent, of which there has to be a digit. -/
def decimal? (negative : Bool) (s : List Char) : Option Decimal := do
  let (whole, rest) := s.span Char.isDigit
  let (fraction, rest) := match rest with
    | '.' :: rest => rest.span Char.isDigit
    | rest => ([], rest)
  let exponent : Int ← match rest with
    | [] => some 0
    | mark :: rest =>
      if mark = 'e' ∨ mark = 'E' then
        (numeral? 10 (unsigned rest)).map fun n => if rest.head? = some '-' then -n else n
      else none
  let significand ← numeral? 10 (whole ++ fraction)
  some ⟨negative, significand, exponent - fraction.length⟩

/-- The double that a text writes, which is finite unless it is named. -/
def double? (s : String) : Option Binary64 :=
  let cs := s.toList
  let size := String.ofList (unsigned cs)
  let isSigned := size != s
  let negative := cs.head? = some '-'
  if [".inf", ".Inf", ".INF"].contains size then
    some (if negative then minusInfinity else infinity)
  else if !isSigned && [".nan", ".NaN", ".NAN"].contains s then some notANumber
  else (decimal? negative (unsigned cs)).bind Binary64.ofDecimal?

/-! ## Scalars -/

/-- The integer, if it has 64 bits. -/
def shortInteger? (i : Int) : Option Value :=
  if Json.Number.fits i then some (.number (.int i)) else none

/-- Whether an integer has 128 bits. -/
def isMediumInteger (i : Int) : Bool :=
  -(twoTo 127 : Int) ≤ i && i < twoTo 128

/-- The value of a scalar that is no integer. -/
def otherValue (s : String) : Value :=
  if isPaddedDigits s.toList then .string s
  else
    match double? s with
    | some x => .number (.real x)
    | none => .string s

/-- The value of a scalar without quotes. -/
def plainValue? (s : String) : Option Value :=
  if s == "" || isNull s then some .null
  else
    match bool? s with
    | some b => some (.bool b)
    | none =>
      match (integer? s.toList).filter isMediumInteger with
      | some i => shortInteger? i
      | none => some (otherValue s)

/-- The value of a scalar without regard to its tag. -/
def untaggedValue? (s : Scalar) : Option Value :=
  if s.isPlain then plainValue? s.text else some (.string s.text)

/-- The tag for a type of values. -/
def typeTag (name : String) : String :=
  "tag:yaml.org,2002:" ++ name

/-- The name of a tag that is no type of YAML itself. -/
def localTag? (tag : String) : Option String :=
  (dropPrefix? "!" tag).map fun _ => tagName tag

/-- Keeps the local tag of a value. -/
def withTag (tag : Option String) (value : Value) : Value :=
  match tag.bind localTag? with
  | none => value
  | some name => .tagged name value

/-- The value that the type given by a tag makes of a text. -/
def typedValue? (tag text : String) : Option Value :=
  if tag == typeTag "bool" then (bool? text).map .bool
  else if tag == typeTag "int" then
    ((integer? text.toList).filter isMediumInteger).bind shortInteger?
  else if tag == typeTag "float" then (double? text).map fun x => .number (.real x)
  else if tag == typeTag "null" then if isNull text then some .null else none
  else some (.string text)

/-- The value of a scalar. -/
def scalarValue? (s : Scalar) : Option Value :=
  match s.tag with
  | none => untaggedValue? s
  | some tag =>
    if (localTag? tag).isSome then (untaggedValue? s).map (withTag s.tag)
    else typedValue? tag s.text

end ApiKinds.Yaml
