/-
  JSON values.

  * `Json`: a value with the members of an object in the order they are written,
    so a key may occur more than once.
  * `Json.Number` keeps integers of 64 bits apart from doubles.
  * `Json.canonical` puts the members of every object in key order, where of two
    members with the same key the later one stays.
-/
import ApiKinds.Dict
import ApiKinds.Text.Basic
import ApiKinds.Decimal.Style

namespace ApiKinds

/-- A number: an integer, or a finite double. -/
inductive Json.Number where
  | int (value : Int)
  | real (value : Binary64)
deriving DecidableEq, Repr

/-- A JSON value. -/
inductive Json where
  | null
  | bool (value : Bool)
  | number (value : Json.Number)
  | string (value : String)
  | array (items : List Json)
  | object (members : List (String × Json))
deriving Inhabited, Repr

namespace Json

/-! ## Numbers -/

/-- The integers that are kept as such: signed or unsigned of 64 bits. -/
def Number.fits (i : Int) : Bool :=
  -(twoTo 63 : Int) ≤ i && i < twoTo 64

/-- The integers of 64 bits with a sign. -/
def Number.fitsSigned (i : Int) : Bool :=
  -(twoTo 63 : Int) ≤ i && i < twoTo 63

/-- The integer of 64 bits with a sign that a number is. -/
def Number.signed? : Number → Option Int
  | .int i => if fitsSigned i then some i else none
  | .real _ => none

/-- The integer of 64 bits without a sign that a number is. -/
def Number.unsigned? : Number → Option Nat
  | .int i => if 0 ≤ i ∧ i < twoTo 64 then some i.toNat else none
  | .real _ => none

/-- The nearest double. -/
def Number.toBinary64 : Number → Binary64
  | .int i => .ofInt i
  | .real x => x

/-- Doubles in JSON text have a signed exponent of at least two digits. -/
def numberStyle : NumberStyle := ⟨true, 2⟩

/-- The text of a number. -/
def Number.text : Number → String
  | .int i => toString i
  | .real x => numberStyle.write x

/-- A value for an integer, as a double if it does not fit. -/
def ofInt (i : Int) : Json :=
  .number (if Number.fits i then .int i else .real (.ofInt i))

def ofNat (n : Nat) : Json :=
  ofInt n

/-- A value for a double, `null` if it is not finite. -/
def ofDouble (x : Binary64) : Json :=
  if x.isFinite then .number (.real x) else .null

/-- The value, or `null`. -/
def ofOption {α : Type} (write : α → Json) : Option α → Json
  | none => .null
  | some a => write a

/-- A list of values. -/
def ofList {α : Type} (write : α → Json) (items : List α) : Json :=
  .array (items.map write)

/-- An object with an entry per key. -/
def ofEntries {α : Type} (write : α → Json) (entries : List (String × α)) : Json :=
  .object (entries.map fun p => (p.1, write p.2))

/-! ## Canonical form -/

mutual
/-- The value with the members of every object in key order, each key once. -/
def canonical : Json → Json
  | .null => .null
  | .bool b => .bool b
  | .number n => .number n
  | .string s => .string s
  | .array items => .array (canonicalItems items)
  | .object members => .object (Entries.ofList (canonicalMembers members))

def canonicalItems : List Json → List Json
  | [] => []
  | item :: rest => canonical item :: canonicalItems rest

def canonicalMembers : List (String × Json) → List (String × Json)
  | [] => []
  | (key, value) :: rest => (key, canonical value) :: canonicalMembers rest
end

end Json

end ApiKinds
