/-
  Shapes: schemas as a catalog shows them.

  * `Literal`: a value of an enumeration or a default. Integers beyond 64 bits with
    a sign are doubles.
  * `Literal.ofJson` converts a JSON value; `Literal.read?` instead tries the sorts of
    literals one after the other.
  * `Shape`: a named node with its type, its constraints and the shapes inside it; a
    node that stands for a component carries the component's name.
-/
import ApiKinds.Json.Record

namespace ApiKinds

/-! ## Literals -/

/-- A value of an enumeration, or a default. -/
inductive Literal where
  | null
  | bool (value : Bool)
  | integer (value : Int)
  | float (value : Binary64)
  | text (value : String)
  | list (items : List Literal)
  | map (entries : List (String × Literal))
deriving Inhabited, Repr

namespace Literal

def text? : Literal → Option String
  | text s => some s
  | _ => none

def isNull : Literal → Bool
  | null => true
  | _ => false

/-- A number: an integer if it fits 64 bits with a sign, else the nearest double. -/
def ofNumber (n : Json.Number) : Literal :=
  match n with
  | .int i => if Json.Number.fitsSigned i then .integer i else .float n.toBinary64
  | .real x => .float x

mutual
/-- The literal of a JSON value. -/
def ofJson : Json → Literal
  | .null => .null
  | .bool b => .bool b
  | .number n => ofNumber n
  | .string s => .text s
  | .array items => .list (ofItems items)
  | .object members => .map (Entries.ofList (ofMembers members))

def ofItems : List Json → List Literal
  | [] => []
  | item :: rest => ofJson item :: ofItems rest

def ofMembers : List (String × Json) → List (String × Literal)
  | [] => []
  | (key, value) :: rest => (key, ofJson value) :: ofMembers rest
end

/-- The sorts of literals without parts, in the order they are tried. -/
def readers : List (Json → Option Literal) :=
  [ fun
      | .null => some .null
      | _ => none,
    fun value => value.bool?.map .bool,
    fun
      | .number (.int i) => if Json.Number.fitsSigned i then some (.integer i) else none
      | _ => none,
    fun value => value.double?.map .float,
    fun value => value.string?.map .text ]

mutual
/-- The first sort of literal that a JSON value fits, lists and maps being the last. -/
def read? : Json → Option Literal
  | .array items => (readItems? items).map .list
  | .object members => (readMembers? members).map (.map ∘ Entries.ofList)
  | value => readers.findSome? (· value)

def readItems? : List Json → Option (List Literal)
  | [] => some []
  | item :: rest => do
    let value ← read? item
    let values ← readItems? rest
    some (value :: values)

def readMembers? : List (String × Json) → Option (List (String × Literal))
  | [] => some []
  | (key, member) :: rest => do
    let value ← read? member
    let values ← readMembers? rest
    some ((key, value) :: values)
end

mutual
def toJson : Literal → Json
  | .null => .null
  | .bool b => .bool b
  | .integer i => .ofInt i
  | .float x => .ofDouble x
  | .text s => .string s
  | .list items => .array (writeItems items)
  | .map entries => .object (writeEntries entries)

def writeItems : List Literal → List Json
  | [] => []
  | item :: rest => toJson item :: writeItems rest

def writeEntries : List (String × Literal) → List (String × Json)
  | [] => []
  | (key, value) :: rest => (key, toJson value) :: writeEntries rest
end

end Literal

/-! ## Shapes -/

/-- What a node of a shape says of itself. -/
structure Trait where
  name : String
  /-- The declared type, or the one its parts imply. -/
  type : Option String := none
  format : Option String := none
  description : Option String := none
  required : List String := []
  /-- The component that the node stands for. -/
  component : Option String := none
  enum : List Literal := []
  default : Option Literal := none
  nullable : Bool := false
  minLength : Option Nat := none
  maxLength : Option Nat := none
  minimum : Option Binary64 := none
  maximum : Option Binary64 := none
  pattern : Option String := none
  minItems : Option Nat := none
  maxItems : Option Nat := none
deriving Inhabited, Repr

/-- A schema as a catalog shows it. -/
structure Shape extends Trait where
  /-- The shapes of properties, in key order. -/
  properties : List (String × Shape) := []
  items : Option Shape := none
deriving Inhabited, Repr

end ApiKinds
