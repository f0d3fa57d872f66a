/-
  Swagger 2.0 descriptions as JSON values. All fields are written, `null` for those
  that are absent; only schemas leave out what is not set.
-/
import ApiKinds.Swagger.Document
import ApiKinds.Api.Writing

namespace ApiKinds.Swagger

open Api

def Parameter.toJson (parameter : Parameter) : Json :=
  .object ([
    ("name", .string parameter.name),
    ("in", .string parameter.location),
    ("description", .ofOption .string parameter.description),
    ("required", .bool parameter.required),
    ("schema", .ofOption writeSchemaRef parameter.schema),
    ("type", texts parameter.types),
    ("format", .ofOption .string parameter.format),
    ("items", .ofOption writeSchemaRef parameter.items),
    ("enum", .array parameter.enum),
    ("default", .ofOption id parameter.default),
    ("minimum", .ofOption Json.ofDouble parameter.minimum),
    ("maximum", .ofOption Json.ofDouble parameter.maximum),
    ("minLength", .ofOption .ofNat parameter.minLength),
    ("maxLength", .ofOption .ofNat parameter.maxLength),
    ("pattern", .ofOption .string parameter.pattern),
    ("minItems", .ofOption .ofNat parameter.minItems),
    ("maxItems", .ofOption .ofNat parameter.maxItems)] ++ parameter.extensions.entries)

def Response.toJson (response : Response) : Json :=
  .object [
    ("description", .ofOption .string response.description),
    ("schema", .ofOption writeSchemaRef response.schema)]

def Operation.toJson (operation : Operation) : Json :=
  .object [
    ("operationId", .ofOption .string operation.operationId),
    ("summary", .ofOption .string operation.summary),
    ("description", .ofOption .string operation.description),
    ("tags", texts operation.tags),
    ("consumes", .ofOption texts operation.consumes),
    ("produces", .ofOption texts operation.produces),
    ("parameters", .ofList (RefOr.toJson Parameter.toJson) operation.parameters),
    ("responses", ofDict (RefOr.toJson Response.toJson) operation.responses)]

def PathItem.toJson (item : PathItem) : Json :=
  .object [
    ("get", .ofOption Operation.toJson item.get),
    ("put", .ofOption Operation.toJson item.put),
    ("post", .ofOption Operation.toJson item.post),
    ("delete", .ofOption Operation.toJson item.delete),
    ("patch", .ofOption Operation.toJson item.patch),
    ("head", .ofOption Operation.toJson item.head),
    ("options", .ofOption Operation.toJson item.options),
    ("parameters", .ofList (RefOr.toJson Parameter.toJson) item.parameters)]

/-- A Swagger 2.0 description as a JSON value. -/
def Document.toJson (doc : Document) : Json :=
  .object [
    ("swagger", .ofOption .string doc.swagger),
    ("info", doc.info.toJson),
    ("host", .ofOption .string doc.host),
    ("basePath", .ofOption .string doc.basePath),
    ("schemes", texts doc.schemes),
    ("consumes", texts doc.consumes),
    ("produces", texts doc.produces),
    ("paths", .ofOption (ofDict PathItem.toJson) doc.paths),
    ("definitions", ofDict writeSchemaRef doc.definitions),
    ("parameters", ofDict Parameter.toJson doc.parameters),
    ("responses", ofDict Response.toJson doc.responses)]

end ApiKinds.Swagger
