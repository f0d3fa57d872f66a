/-
  Reading API descriptions from JSON values.

  * `reference?`: an object with a text under `$ref` is a reference, whatever else it
    holds.
  * `readSchemaRef?`: schemas, by recursion on the value. Schemas and parameters collect
    the members they do not know.
  * `Document.read?`: a whole description. A version may be written as a number and
    keeps its text.
  * `layout`: the members that a description asks for.
-/
import ApiKinds.Api.Document
import ApiKinds.Json.Record
import ApiKinds.Json.Written

namespace ApiKinds.Api

open Json

/-! ## References -/

/-- The target of a reference, which is written as an object. -/
def reference? : Json → Option String
  | .object members => do (← Record.ofMembers? ["$ref"] members).required "$ref" string?
  | _ => none

/-- A reference, or else an object that `read` accepts. -/
def RefOr.read? {α : Type} (read : Json → Option α) (value : Json) : Option (RefOr α) :=
  match reference? value with
  | some target => some (.ref target)
  | none => (read value).map .inline

/-- A text, or a number by its text. -/
def versionText? : Json → Option String
  | .string s => some s
  | .number n => some n.text
  | _ => none

/-! ## Schemas -/

/-- One type name, or a list of them. -/
def types? : Json → Option (List String)
  | .string name => some [name]
  | value => listOf? string? value

/-- The keywords of a schema that the model knows. -/
def Schema.fieldNames : List String :=
  ["type", "format", "description", "properties", "required", "items", "allOf", "enum",
    "default", "nullable", "minLength", "maxLength", "minimum", "maximum", "pattern",
    "minItems", "maxItems"]

/-- The facets of a schema with the given members. -/
def Facets.read? (members : List (String × Json)) : Option Facets := do
  let r ← Record.ofMembers? Schema.fieldNames members
  some {
    types := ← r.withDefault "type" [] types?
    format := ← r.optional "format" string?
    description := ← r.optional "description" string?
    required := ← r.list "required" string?
    enum := ← r.list "enum" any?
    default := ← r.optional "default" any?
    nullable := ← r.flag "nullable"
    minLength := ← r.optional "minLength" natural?
    maxLength := ← r.optional "maxLength" natural?
    minimum := ← r.optional "minimum" double?
    maximum := ← r.optional "maximum" double?
    pattern := ← r.optional "pattern" string?
    minItems := ← r.optional "minItems" natural?
    maxItems := ← r.optional "maxItems" natural?
    extensions := otherMembers Schema.fieldNames members }

/-- A schema from its facets and the schemas inside it, if all could be read. -/
def Schema.assemble? (facets : Option Facets) (properties : Option (List (String × RefOr Schema)))
    (items : Option (Option (RefOr Schema))) (allOf : Option (List (RefOr Schema))) :
    Option Schema := do
  some {
    toFacets := ← facets
    properties := Entries.ofList (← properties)
    items := ← items
    allOf := ← allOf }

mutual
/-- A schema, or a reference to one. -/
def readSchemaRef? : Json → Option (RefOr Schema)
  | .object members =>
    match reference? (.object members) with
    | some target => some (.ref target)
    | none =>
      (Schema.assemble? (Facets.read? members) (propertiesIn? members) (itemsIn? members)
        (allOfIn? members)).map .inline
  | _ => none

/-- What stands under `properties`. -/
def propertiesIn? : List (String × Json) → Option (List (String × RefOr Schema))
  | [] => some []
  | (key, value) :: rest =>
    if key = "properties" then readProperties? value else propertiesIn? rest

/-- What stands under `items`. -/
def itemsIn? : List (String × Json) → Option (Option (RefOr Schema))
  | [] => some none
  | (key, value) :: rest =>
    if key = "items" then
      if value.isNull then some none else (readSchemaRef? value).map some
    else itemsIn? rest

/-- What stands under `allOf`. -/
def allOfIn? : List (String × Json) → Option (List (RefOr Schema))
  | [] => some []
  | (key, value) :: rest => if key = "allOf" then readAllOf? value else allOfIn? rest

def readProperties? : Json → Option (List (String × RefOr Schema))
  | .object members => readEntries? members
  | _ => none

def readAllOf? : Json → Option (List (RefOr Schema))
  | .array items => readList? items
  | _ => none

def readEntries? : List (String × Json) → Option (List (String × RefOr Schema))
  | [] => some []
  | (key, value) :: rest => do
    let schema ← readSchemaRef? value
    let entries ← readEntries? rest
    some ((key, schema) :: entries)

def readList? : List Json → Option (List (RefOr Schema))
  | [] => some []
  | value :: rest => do
    let schema ← readSchemaRef? value
    let schemas ← readList? rest
    some (schema :: schemas)
end

/-! ## The other objects -/

def Parameter.fieldNames : List String :=
  ["name", "in", "description", "required", "schema"]

def Parameter.read? : Json → Option Parameter
  | .object members => do
    let r ← Record.ofMembers? fieldNames members
    some {
      name := ← r.required "name" string?
      location := ← r.required "in" string?
      description := ← r.optional "description" string?
      required := ← r.flag "required"
      schema := ← r.optional "schema" readSchemaRef?
      extensions := .ofList (otherMembers fieldNames members) }
  | _ => none

def MediaType.read? (value : Json) : Option MediaType := do
  let r ← value.record? ["schema"]
  some { schema := ← r.optional "schema" readSchemaRef? }

def RequestBody.read? (value : Json) : Option RequestBody := do
  let r ← value.record? ["description", "content", "required"]
  some {
    description := ← r.optional "description" string?
    content := ← r.dict "content" MediaType.read?
    required := ← r.flag "required" }

def Response.read? (value : Json) : Option Response := do
  let r ← value.record? ["description", "content"]
  some {
    description := ← r.optional "description" string?
    content := ← r.dict "content" MediaType.read? }

def Operation.fieldNames : List String :=
  ["operationId", "summary", "description", "tags", "parameters", "requestBody", "responses"]

def Operation.read? (value : Json) : Option Operation := do
  let r ← value.record? fieldNames
  some {
    operationId := ← r.optional "operationId" string?
    summary := ← r.optional "summary" string?
    description := ← r.optional "description" string?
    tags := ← r.list "tags" string?
    parameters := ← r.list "parameters" (RefOr.read? Parameter.read?)
    requestBody := ← r.optional "requestBody" (RefOr.read? RequestBody.read?)
    responses := ← r.dict "responses" (RefOr.read? Response.read?) }

def PathItem.fieldNames : List String :=
  ["get", "put", "post", "delete", "patch", "head", "options", "parameters"]

def PathItem.read? (value : Json) : Option PathItem := do
  let r ← value.record? fieldNames
  some {
    get := ← r.optional "get" Operation.read?
    put := ← r.optional "put" Operation.read?
    post := ← r.optional "post" Operation.read?
    delete := ← r.optional "delete" Operation.read?
    patch := ← r.optional "patch" Operation.read?
    head := ← r.optional "head" Operation.read?
    options := ← r.optional "options" Operation.read?
    parameters := ← r.list "parameters" (RefOr.read? Parameter.read?) }

def Components.fieldNames : List String :=
  ["schemas", "parameters", "requestBodies", "responses"]

def Components.read? (value : Json) : Option Components := do
  let r ← value.record? fieldNames
  some {
    schemas := ← r.dict "schemas" readSchemaRef?
    parameters := ← r.dict "parameters" (RefOr.read? Parameter.read?)
    requestBodies := ← r.dict "requestBodies" (RefOr.read? RequestBody.read?)
    responses := ← r.dict "responses" (RefOr.read? Response.read?) }

def Info.fieldNames : List String :=
  ["title", "version", "description"]

def Info.read? (value : Json) : Option Info := do
  let r ← value.record? fieldNames
  some {
    title := ← r.optional "title" string?
    version := ← r.optional "version" versionText?
    description := ← r.optional "description" string? }

def Server.fieldNames : List String :=
  ["url", "description"]

def Server.read? (value : Json) : Option Server := do
  let r ← value.record? fieldNames
  some {
    url := ← r.required "url" string?
    description := ← r.optional "description" string? }

def Document.fieldNames : List String :=
  ["openapi", "info", "servers", "paths", "components"]

/-- An API description. -/
def Document.read? (value : Json) : Option Document := do
  let r ← value.record? fieldNames
  some {
    openapi := ← r.optional "openapi" versionText?
    info := ← r.withDefault "info" {} Info.read?
    servers := ← r.list "servers" Server.read?
    paths := ← r.optional "paths" (dictOf? PathItem.read?)
    components := ← r.optional "components" Components.read? }

/-! ## What is asked for -/

/-- Positions in a description. Below `whole` everything is asked for. -/
inductive Position where
  | document
  | info
  | servers
  | server
  | paths
  | pathItem
  | operation
  | components
  | whole
deriving DecidableEq, Repr

namespace Position

/-- The fields of an object at a position, in order, if only they are asked for. -/
def fields? : Position → Option (List (String × Position))
  | document => some
      [("openapi", whole), ("info", info), ("servers", servers), ("paths", paths),
        ("components", components)]
  | info => some (Info.fieldNames.map (·, whole))
  | server => some (Server.fieldNames.map (·, whole))
  | pathItem => some (PathItem.fieldNames.map fun name =>
      (name, if name = "parameters" then whole else operation))
  | operation => some (Operation.fieldNames.map (·, whole))
  | components => some (Components.fieldNames.map (·, whole))
  | servers | paths | whole => none

/-- The position of the items or members of a collection. -/
def inner : Position → Position
  | servers => server
  | paths => pathItem
  | _ => whole

end Position

/-- The members that a description asks for. -/
def layout : Layout Position where
  member position key := match position.fields? with
    | some fields => Entries.get? key fields
    | none => some position.inner
  item position index := match position.fields? with
    | some fields => (fields[index]?.map (·.2)).getD .whole
    | none => position.inner

/-- A description from the bytes of a JSON document. -/
def Document.readJson? (bytes : List UInt8) : Option Document :=
  (readWith? layout .document bytes).bind Document.read?

end ApiKinds.Api
