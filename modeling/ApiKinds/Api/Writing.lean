/-
  API descriptions as JSON values.

  * `Schema.toJson`: a keyword is written if it is set; the type names are always a
    list, and the unknown keywords follow the known ones.
  * `Document.toJson`: the other objects write all of their fields, `null` for those
    that are absent; of a path item the methods that exist are written.
-/
import ApiKinds.Api.Document

namespace ApiKinds.Api

open Json

/-! ## Schemas -/

/-- The reference, or the object by its own writer. -/
def RefOr.toJson {α : Type} (write : α → Json) : RefOr α → Json
  | .ref target => .object [("$ref", .string target)]
  | .inline value => write value

/-- A list of texts. -/
def texts (items : List String) : Json :=
  .ofList .string items

/-- A member for a value that is present. -/
def present {α : Type} (name : String) (write : α → Json) : Option α → List (String × Json)
  | none => []
  | some value => [(name, write value)]

/-- A member for a list that is not empty. -/
def nonempty {α : Type} (name : String) (write : α → Json) (items : List α) :
    List (String × Json) :=
  if items.isEmpty then [] else [(name, .ofList write items)]

/-- The members before the schemas inside a schema. -/
def Facets.leading (facets : Facets) : List (String × Json) :=
  nonempty "type" .string facets.types ++
    present "format" .string facets.format ++
    present "description" .string facets.description

/-- The members behind the schemas inside a schema. -/
def Facets.trailing (facets : Facets) : List (String × Json) :=
  nonempty "enum" id facets.enum ++
    present "default" id facets.default ++
    (if facets.nullable then [("nullable", .bool true)] else []) ++
    present "minLength" .ofNat facets.minLength ++
    present "maxLength" .ofNat facets.maxLength ++
    present "minimum" ofDouble facets.minimum ++
    present "maximum" ofDouble facets.maximum ++
    present "pattern" .string facets.pattern ++
    present "minItems" .ofNat facets.minItems ++
    present "maxItems" .ofNat facets.maxItems ++
    facets.extensions

mutual
/-- The members of a schema. -/
def Schema.toJson : Schema → Json
  | ⟨facets, properties, items, allOf⟩ =>
    .object (facets.leading ++
      (if properties.isEmpty then [] else [("properties", .object (writeEntries properties))]) ++
      nonempty "required" .string facets.required ++
      (match items with
        | none => []
        | some schema => [("items", writeSchemaRef schema)]) ++
      (if allOf.isEmpty then [] else [("allOf", .array (writeList allOf))]) ++
      facets.trailing)

/-- A schema, or its reference. -/
def writeSchemaRef : RefOr Schema → Json
  | .ref target => .object [("$ref", .string target)]
  | .inline schema => schema.toJson

def writeEntries : List (String × RefOr Schema) → List (String × Json)
  | [] => []
  | (key, schema) :: rest => (key, writeSchemaRef schema) :: writeEntries rest

def writeList : List (RefOr Schema) → List Json
  | [] => []
  | schema :: rest => writeSchemaRef schema :: writeList rest
end

/-! ## The other objects -/

def ofDict {α : Type} (write : α → Json) (entries : Dict α) : Json :=
  .ofEntries write entries.entries

def Parameter.toJson (parameter : Parameter) : Json :=
  .object ([
    ("name", .string parameter.name),
    ("in", .string parameter.location),
    ("description", .ofOption .string parameter.description),
    ("required", .bool parameter.required),
    ("schema", .ofOption writeSchemaRef parameter.schema)] ++ parameter.extensions.entries)

def MediaType.toJson (media : MediaType) : Json :=
  .object [("schema", .ofOption writeSchemaRef media.schema)]

def RequestBody.toJson (body : RequestBody) : Json :=
  .object [
    ("description", .ofOption .string body.description),
    ("content", ofDict MediaType.toJson body.content),
    ("required", .bool body.required)]

def Response.toJson (response : Response) : Json :=
  .object [
    ("description", .ofOption .string response.description),
    ("content", ofDict MediaType.toJson response.content)]

def Operation.toJson (operation : Operation) : Json :=
  .object [
    ("operationId", .ofOption .string operation.operationId),
    ("summary", .ofOption .string operation.summary),
    ("description", .ofOption .string operation.description),
    ("tags", texts operation.tags),
    ("parameters", .ofList (RefOr.toJson Parameter.toJson) operation.parameters),
    ("requestBody", .ofOption (RefOr.toJson RequestBody.toJson) operation.requestBody),
    ("responses", ofDict (RefOr.toJson Response.toJson) operation.responses)]

def PathItem.toJson (item : PathItem) : Json :=
  .object (
    present "get" Operation.toJson item.get ++
    present "put" Operation.toJson item.put ++
    present "post" Operation.toJson item.post ++
    present "delete" Operation.toJson item.delete ++
    present "patch" Operation.toJson item.patch ++
    present "head" Operation.toJson item.head ++
    present "options" Operation.toJson item.options ++
    [("parameters", .ofList (RefOr.toJson Parameter.toJson) item.parameters)])

def Components.toJson (components : Components) : Json :=
  .object [
    ("schemas", ofDict writeSchemaRef components.schemas),
    ("parameters", ofDict (RefOr.toJson Parameter.toJson) components.parameters),
    ("requestBodies", ofDict (RefOr.toJson RequestBody.toJson) components.requestBodies),
    ("responses", ofDict (RefOr.toJson Response.toJson) components.responses)]

def Info.toJson (info : Info) : Json :=
  .object [
    ("title", .ofOption .string info.title),
    ("version", .ofOption .string info.version),
    ("description", .ofOption .string info.description)]

def Server.toJson (server : Server) : Json :=
  .object [
    ("url", .string server.url),
    ("description", .ofOption .string server.description)]

/-- An API description as a JSON value. -/
def Document.toJson (doc : Document) : Json :=
  .object [
    ("openapi", .ofOption .string doc.openapi),
    ("info", doc.info.toJson),
    ("servers", .ofList Server.toJson doc.servers),
    ("paths", .ofOption (ofDict PathItem.toJson) doc.paths),
    ("components", .ofOption Components.toJson doc.components)]

end ApiKinds.Api
