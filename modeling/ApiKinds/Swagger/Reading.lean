/-
  Reading Swagger 2.0 descriptions from JSON values, by the same rules as those in
  the form of OpenAPI 3.
-/
import ApiKinds.Swagger.Document
import ApiKinds.Api.Reading

namespace ApiKinds.Swagger

open Json Api

/-! ## Objects -/

def Parameter.fieldNames : List String :=
  ["name", "in", "description", "required", "schema", "type", "format", "items", "enum",
    "default", "minimum", "maximum", "minLength", "maxLength", "pattern", "minItems",
    "maxItems"]

def Parameter.read? : Json → Option Parameter
  | .object members => do
    let r ← Record.ofMembers? fieldNames members
    some {
      name := ← r.required "name" string?
      location := ← r.required "in" string?
      description := ← r.optional "description" string?
      required := ← r.flag "required"
      schema := ← r.optional "schema" readSchemaRef?
      types := ← r.withDefault "type" [] types?
      format := ← r.optional "format" string?
      items := ← r.optional "items" readSchemaRef?
      enum := ← r.list "enum" any?
      default := ← r.optional "default" any?
      minimum := ← r.optional "minimum" double?
      maximum := ← r.optional "maximum" double?
      minLength := ← r.optional "minLength" natural?
      maxLength := ← r.optional "maxLength" natural?
      pattern := ← r.optional "pattern" string?
      minItems := ← r.optional "minItems" natural?
      maxItems := ← r.optional "maxItems" natural?
      extensions := .ofList (otherMembers fieldNames members) }
  | _ => none

def Response.fieldNames : List String :=
  ["description", "schema"]

def Response.read? (value : Json) : Option Response := do
  let r ← value.record? fieldNames
  some {
    description := ← r.optional "description" string?
    schema := ← r.optional "schema" readSchemaRef? }

def Operation.fieldNames : List String :=
  ["operationId", "summary", "description", "tags", "consumes", "produces", "parameters",
    "responses"]

def Operation.read? (value : Json) : Option Operation := do
  let r ← value.record? fieldNames
  some {
    operationId := ← r.optional "operationId" string?
    summary := ← r.optional "summary" string?
    description := ← r.optional "description" string?
    tags := ← r.list "tags" string?
    consumes := ← r.optional "consumes" (listOf? string?)
    produces := ← r.optional "produces" (listOf? string?)
    parameters := ← r.list "parameters" (RefOr.read? Parameter.read?)
    responses := ← r.dict "responses" (RefOr.read? Response.read?) }

def PathItem.read? (value : Json) : Option PathItem := do
  let r ← value.record? Api.PathItem.fieldNames
  some {
    get := ← r.optional "get" Operation.read?
    put := ← r.optional "put" Operation.read?
    post := ← r.optional "post" Operation.read?
    delete := ← r.optional "delete" Operation.read?
    patch := ← r.optional "patch" Operation.read?
    head := ← r.optional "head" Operation.read?
    options := ← r.optional "options" Operation.read?
    parameters := ← r.list "parameters" (RefOr.read? Parameter.read?) }

def Document.fieldNames : List String :=
  ["swagger", "info", "host", "basePath", "schemes", "consumes", "produces", "paths",
    "definitions", "parameters", "responses"]

/-- A description in the form of Swagger 2.0. -/
def Document.read? (value : Json) : Option Document := do
  let r ← value.record? fieldNames
  some {
    swagger := ← r.optional "swagger" versionText?
    info := ← r.withDefault "info" {} Info.read?
    host := ← r.optional "host" string?
    basePath := ← r.optional "basePath" string?
    schemes := ← r.list "schemes" string?
    consumes := ← r.list "consumes" string?
    produces := ← r.list "produces" string?
    paths := ← r.optional "paths" (dictOf? PathItem.read?)
    definitions := ← r.dict "definitions" readSchemaRef?
    parameters := ← r.dict "parameters" Parameter.read?
    responses := ← r.dict "responses" Response.read? }

/-! ## What is asked for -/

/-- Positions in a description. Below `whole` everything is asked for. -/
inductive Position where
  | document
  | info
  | paths
  | pathItem
  | operation
  | responses
  | response
  | whole
deriving DecidableEq, Repr

namespace Position

/-- The fields of an object at a position, in order, if only they are asked for. -/
def fields? : Position → Option (List (String × Position))
  | document => some (Document.fieldNames.map fun name =>
      (name, match name with
        | "info" => info
        | "paths" => paths
        | "responses" => responses
        | _ => whole))
  | info => some (Info.fieldNames.map (·, whole))
  | pathItem => some (Api.PathItem.fieldNames.map fun name =>
      (name, if name = "parameters" then whole else operation))
  | operation => some (Operation.fieldNames.map (·, whole))
  | response => some (Response.fieldNames.map (·, whole))
  | paths | responses | whole => none

/-- The position of the items or members of a collection. -/
def inner : Position → Position
  | paths => pathItem
  | responses => response
  | _ => whole

end Position

/-- The members that a description asks for. -/
def layout : Layout Position where
  member position key := match position.fields? with
    | some fields => Entries.get? key fields
    | none => some position.inner
  item position index := match position.fields? with
    | some fields => (fields[index]?.map (·.2)).getD .whole
    | none => position.inner

/-- A description from the bytes of a JSON document. -/
def Document.readJson? (bytes : List UInt8) : Option Document :=
  (readWith? layout .document bytes).bind Document.read?

end ApiKinds.Swagger
