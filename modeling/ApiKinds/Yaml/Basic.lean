/-
  YAML values.

  * `Value`: a value with the pairs of a mapping in the order they are written; any
    value may be a key. A tag that begins with `!` stays with its value.
  * `Value.same`: two keys are the same, where the order of pairs does not matter.
-/
import ApiKinds.Json.Basic

namespace ApiKinds.Yaml

/-- A YAML value. Doubles may be infinite or no number. -/
inductive Value where
  | null
  | bool (value : Bool)
  | number (value : Json.Number)
  | string (value : String)
  | sequence (items : List Value)
  | mapping (pairs : List (Value × Value))
  | tagged (tag : String) (value : Value)
deriving Inhabited, Repr

/-! ## Doubles -/

/-- Positive infinity. -/
def infinity : Binary64 := ⟨0x7FF0000000000000⟩

/-- Negative infinity. -/
def minusInfinity : Binary64 := ⟨0xFFF0000000000000⟩

/-- A double that is no number. -/
def notANumber : Binary64 := ⟨0x7FF8000000000000⟩

/-- Whether a double is no number. -/
def isNotANumber (x : Binary64) : Bool :=
  !x.isFinite && x.fractionField != 0

/-! ## Equality of keys -/

/-- Same double; zero has no sign, and what is no number is the same. -/
def sameDouble (a b : Binary64) : Bool :=
  a == b || (a.isZero && b.isZero) || (isNotANumber a && isNotANumber b)

/-- Same number; an integer is no double. -/
def sameNumber : Json.Number → Json.Number → Bool
  | .int a, .int b => a == b
  | .real a, .real b => sameDouble a b
  | _, _ => false

/-- The tag without the mark that it may begin with, unless it is nothing else. -/
def tagName (tag : String) : String :=
  match Text.dropPrefix? "!" tag with
  | some "" => tag
  | some name => name
  | none => tag

namespace Value

mutual
/-- Whether two values are the same key. -/
def same : Value → Value → Bool
  | null, null => true
  | bool a, bool b => a == b
  | number a, number b => sameNumber a b
  | string a, string b => a == b
  | sequence a, sequence b => sameItems a b
  | mapping a, mapping b => a.length == b.length && samePairs a b
  | tagged s a, tagged t b => tagName s == tagName t && same a b
  | _, _ => false

def sameItems : List Value → List Value → Bool
  | [], [] => true
  | a :: as, b :: bs => same a b && sameItems as bs
  | _, _ => false

/-- Whether every pair of the first list occurs in the second. -/
def samePairs : List (Value × Value) → List (Value × Value) → Bool
  | [], _ => true
  | (k, v) :: rest, pairs =>
    pairs.any (fun p => same k p.1 && same v p.2) && samePairs rest pairs
end

end Value

end ApiKinds.Yaml
