/-
  The shape of a schema.

  * A reference is expanded: its shape is that of the component it leads to, and
    carries the component's name. Properties keep their references as stubs, which
    have no parts (`stub`).
  * A schema that only wraps one `allOf` member is the member, under its own
    description and nullability (`wrapped?`).
  * `expand` keeps the names of the components it is inside of, and gives a stub for
    a component that is already being expanded. As every name it enters is that of
    a further reference among the components, their number bounds the depth.
-/
import ApiKinds.Api.Reference
import ApiKinds.Catalog.Shape

namespace ApiKinds

open Api

/-! ## References inside schemas -/

mutual
/-- The references that occur in a schema. -/
def Api.Schema.references : Schema → List String
  | ⟨_, properties, items, allOf⟩ =>
    referencesInEntries properties ++
      (match items with
        | none => []
        | some schema => referencesOf schema) ++
      referencesInList allOf

/-- The reference itself, or those in a schema written in place. -/
def referencesOf : RefOr Schema → List String
  | .ref target => [target]
  | .inline schema => schema.references

def referencesInEntries : List (String × RefOr Schema) → List String
  | [] => []
  | (_, schema) :: rest => referencesOf schema ++ referencesInEntries rest

def referencesInList : List (RefOr Schema) → List String
  | [] => []
  | schema :: rest => referencesOf schema ++ referencesInList rest
end

/-- The references among the component schemas. -/
def Api.Document.schemaReferences (doc : Document) : List String :=
  match doc.components with
  | none => []
  | some components => components.schemas.values.flatMap referencesOf

/-! ## Nodes -/

/-- The declared type, or the one that the parts of a schema imply. -/
def Api.Schema.impliedType (schema : Schema) : Option String :=
  match schema.primaryType? with
  | some name => some name
  | none =>
    if !schema.properties.isEmpty then some "object"
    else if schema.items.isSome then some "array"
    else none

/-- What a schema says of itself, under a name. -/
def Api.Schema.trait (schema : Schema) (name : String) : Trait where
  name := name
  type := schema.impliedType
  format := schema.format
  description := schema.description
  required := schema.required
  enum := schema.enum.map Literal.ofJson
  default := schema.default.map Literal.ofJson
  nullable := schema.nullable || schema.types.contains "null"
  minLength := schema.minLength
  maxLength := schema.maxLength
  minimum := schema.minimum
  maximum := schema.maximum
  pattern := schema.pattern
  minItems := schema.minItems
  maxItems := schema.maxItems

/-- A node in place of a component, without its parts. -/
def stub (name component : String) (target : Schema) : Shape where
  name := name
  type := target.impliedType
  format := target.format
  description := target.description
  nullable := target.nullable
  component := some component

/-- The only `allOf` member of a schema without type and properties. -/
def Api.Schema.wrapped? (schema : Schema) : Option (RefOr Schema) :=
  match schema.allOf with
  | [member] => if schema.types.isEmpty && schema.properties.isEmpty then some member else none
  | _ => none

/-- The shape of a member under the description and nullability of its wrapper. -/
def Shape.under (wrapper : Facets) (shape : Shape) : Shape :=
  { shape with
    description := wrapper.description <|> shape.description
    nullable := shape.nullable || wrapper.nullable }

/-- The reference that a property stands for, in place or as the only `allOf` member. -/
def linkOf? : RefOr Schema → Option String
  | .ref target => some target
  | .inline schema => schema.wrapped?.bind RefOr.target?

/-- The node of a property that stands for a reference. -/
def linked (doc : Document) (name reference : String) (property : RefOr Schema) : Shape :=
  let component := lastSegment reference
  let node : Shape := match doc.schema? (.ref reference) with
    | some target => stub name component target
    | none => { name := name, component := some component }
  match property with
  | .ref _ => node
  | .inline wrapper => node.under wrapper.toFacets

/-! ## Expansion -/

section
variable (doc : Document) (enter : String → String → Option Shape)

mutual
/-- The shape of a schema under a name; `enter name reference` is the shape of what a
    reference leads to. -/
def shapeOf (name : String) : Schema → Shape
  | ⟨facets, properties, items, allOf⟩ =>
    match wrappedShape? name (facets.types.isEmpty && properties.isEmpty) allOf with
    | some shape => shape.under facets
    | none =>
      ⟨Schema.trait ⟨facets, properties, items, allOf⟩ name, shapesOf properties, itemsShape? items⟩

/-- The shape of the only `allOf` member of a schema that says nothing else. -/
def wrappedShape? (name : String) (plain : Bool) : List (RefOr Schema) → Option Shape
  | [] => none
  | [member] => if plain then shapeOfRef name member else none
  | _ :: _ :: _ => none

/-- The shape of the items of an array. -/
def itemsShape? : Option (RefOr Schema) → Option Shape
  | none => none
  | some schema => shapeOfRef "Items" schema

/-- The shape of a schema, or of what its reference leads to, if anything. -/
def shapeOfRef (name : String) : RefOr Schema → Option Shape
  | .ref reference => enter name reference
  | .inline schema => some (shapeOf name schema)

/-- The shapes of properties. -/
def shapesOf : List (String × RefOr Schema) → List (String × Shape)
  | [] => []
  | (name, property) :: rest =>
    match linkOf? property with
    | some reference => (name, linked doc name reference property) :: shapesOf rest
    | none =>
      match shapeOfRef name property with
      | some shape => (name, shape) :: shapesOf rest
      | none => shapesOf rest
end

end

/-- The shape of what a reference leads to, inside the components being expanded. -/
def expand (doc : Document) : Nat → List String → String → String → Option Shape
  | depth, inside, name, reference =>
    match doc.schema? (.ref reference) with
    | none => none
    | some target =>
      let component := lastSegment reference
      match depth with
      | 0 => some (stub name component target)
      | depth + 1 =>
        if inside.contains component then some (stub name component target)
        else
          let shape := shapeOf doc (expand doc depth (component :: inside)) name target
          some { shape with component := some component }

/-- The shape of a schema under a name; `none` if it is a reference that leads to
    nothing. -/
def Api.Document.shape? (doc : Document) (name : String) (schema : RefOr Schema) :
    Option Shape :=
  shapeOfRef doc (expand doc (doc.schemaReferences.length + 1) []) name schema

end ApiKinds
