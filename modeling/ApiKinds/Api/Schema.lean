/-
  Schema objects of an API description.

  * `RefOr α`: a reference to a component, or the object itself in its place.
  * `Facets`: the keywords of a schema that hold no further schema; keywords the
    model does not know are its `extensions`.
  * `Schema`: the facets, and the schemas of properties, items and `allOf` members.
-/
import ApiKinds.Json.Basic

namespace ApiKinds.Api

/-- A reference, or an object written in place. -/
inductive RefOr (α : Type) where
  | ref (target : String)
  | inline (value : α)
deriving Repr

namespace RefOr

variable {α : Type}

/-- The target of a reference. -/
def target? : RefOr α → Option String
  | ref target => some target
  | inline _ => none

/-- The object written in place. -/
def inline? : RefOr α → Option α
  | ref _ => none
  | inline value => some value

end RefOr

/-- The keywords of a schema that hold no schema. -/
structure Facets where
  /-- The type names; a single one may be written without a list. -/
  types : List String := []
  format : Option String := none
  description : Option String := none
  required : List String := []
  enum : List Json := []
  default : Option Json := none
  nullable : Bool := false
  minLength : Option Nat := none
  maxLength : Option Nat := none
  minimum : Option Binary64 := none
  maximum : Option Binary64 := none
  pattern : Option String := none
  minItems : Option Nat := none
  maxItems : Option Nat := none
  /-- The other keywords, in key order. -/
  extensions : List (String × Json) := []
deriving Inhabited, Repr

/-- A schema object. -/
structure Schema extends Facets where
  /-- The schemas of properties, in key order. -/
  properties : List (String × RefOr Schema) := []
  items : Option (RefOr Schema) := none
  allOf : List (RefOr Schema) := []
deriving Inhabited, Repr

/-- The first type name other than `null`. -/
def Facets.primaryType? (facets : Facets) : Option String :=
  facets.types.find? (· != "null")

end ApiKinds.Api
