/-
  Catalogs and reports as JSON values. All fields are written, in the order they are
  declared, with `null` for those that are absent.
-/
import ApiKinds.Catalog.Basic
import ApiKinds.Catalog.Report

namespace ApiKinds

open Json

/-- A list of texts. -/
def textList (items : List String) : Json :=
  .ofList .string items

def optionalText (value : Option String) : Json :=
  .ofOption .string value

def optionalCount (value : Option Nat) : Json :=
  .ofOption .ofNat value

def optionalDouble (value : Option Binary64) : Json :=
  .ofOption .ofDouble value

/-! ## Shapes -/

/-- The members in front of the shapes inside a shape. -/
def Trait.leading (t : Trait) : List (String × Json) :=
  [("name", .string t.name),
    ("type", optionalText t.type),
    ("format", optionalText t.format),
    ("description", optionalText t.description),
    ("required", textList t.required)]

/-- The members behind the shapes inside a shape. -/
def Trait.trailing (t : Trait) : List (String × Json) :=
  [("ref", optionalText t.component),
    ("enum", .ofList Literal.toJson t.enum),
    ("default", .ofOption Literal.toJson t.default),
    ("nullable", .bool t.nullable),
    ("min_length", optionalCount t.minLength),
    ("max_length", optionalCount t.maxLength),
    ("minimum", optionalDouble t.minimum),
    ("maximum", optionalDouble t.maximum),
    ("pattern", optionalText t.pattern),
    ("min_items", optionalCount t.minItems),
    ("max_items", optionalCount t.maxItems)]

mutual
def Shape.toJson : Shape → Json
  | ⟨t, properties, items⟩ =>
    .object (t.leading ++
      [("properties", .object (Shape.writeEntries properties)),
        ("items", match items with
          | none => .null
          | some shape => shape.toJson)] ++
      t.trailing)

def Shape.writeEntries : List (String × Shape) → List (String × Json)
  | [] => []
  | (key, shape) :: rest => (key, shape.toJson) :: Shape.writeEntries rest
end

def optionalShape (shape : Option Shape) : Json :=
  .ofOption Shape.toJson shape

/-! ## Catalogs -/

def Method.toJson (method : Method) : Json :=
  .string method.name

def ParamLocation.toJson (location : ParamLocation) : Json :=
  .string location.name

def Param.toJson (param : Param) : Json :=
  .object [
    ("name", .string param.name),
    ("location", param.location.toJson),
    ("required", .bool param.required),
    ("param_type", optionalText param.type),
    ("description", optionalText param.description),
    ("id_field_ref", optionalText param.idField)]

def ResourceOperation.toJson (operation : ResourceOperation) : Json :=
  .object [
    ("method", operation.method.toJson),
    ("path", .string operation.path),
    ("operation_id", optionalText operation.operationId),
    ("summary", optionalText operation.summary),
    ("request_body", optionalShape operation.requestBody),
    ("response_body", optionalShape operation.responseBody),
    ("path_params", .ofList Param.toJson operation.pathParams),
    ("query_params", .ofList Param.toJson operation.queryParams)]

def Resource.toJson (resource : Resource) : Json :=
  .object [
    ("name", .string resource.name),
    ("plural_name", .string resource.pluralName),
    ("path", .string resource.path),
    ("operations", .ofList ResourceOperation.toJson resource.operations),
    ("schema", optionalShape resource.schema),
    ("description", optionalText resource.description)]

def QueryEndpoint.toJson (query : QueryEndpoint) : Json :=
  .object [
    ("name", .string query.name),
    ("operation_id", optionalText query.operationId),
    ("path", .string query.path),
    ("base_path", .string query.basePath),
    ("operation", .string query.operation),
    ("summary", optionalText query.summary),
    ("description", optionalText query.description),
    ("path_params", .ofList Param.toJson query.pathParams),
    ("query_params", .ofList Param.toJson query.queryParams),
    ("response_schema", optionalShape query.responseSchema),
    ("response_schema_ref", optionalText query.responseComponent),
    ("response_is_array", .bool query.responseIsArray)]

def ActionEndpoint.toJson (action : ActionEndpoint) : Json :=
  .object [
    ("name", .string action.name),
    ("operation_id", optionalText action.operationId),
    ("path", .string action.path),
    ("parent_resource", optionalText action.parentResource),
    ("parent_id_param", optionalText action.parentIdParam),
    ("parent_id_type", optionalText action.parentIdType),
    ("action_name", .string action.actionName),
    ("http_method", action.method.toJson),
    ("summary", optionalText action.summary),
    ("description", optionalText action.description),
    ("path_params", .ofList Param.toJson action.pathParams),
    ("query_params", .ofList Param.toJson action.queryParams),
    ("request_schema", optionalShape action.requestSchema),
    ("response_schema", optionalShape action.responseSchema),
    ("has_binary_body", .bool action.hasBinaryBody),
    ("binary_content_type", optionalText action.binaryContentType)]

def Catalog.toJson (catalog : Catalog) : Json :=
  .object [
    ("title", .string catalog.title),
    ("version", .string catalog.version),
    ("description", optionalText catalog.description),
    ("base_url", optionalText catalog.baseUrl),
    ("resources", .ofList Resource.toJson catalog.resources),
    ("query_endpoints", .ofList QueryEndpoint.toJson catalog.queryEndpoints),
    ("action_endpoints", .ofList ActionEndpoint.toJson catalog.actionEndpoints),
    ("schemas", .ofEntries Shape.toJson catalog.schemas.entries)]

/-! ## Reports -/

/-- The names of reasons. -/
def FilterReason.name : FilterReason → String
  | path => "path"
  | tag => "tag"
  | operation => "operation"

/-- The names of outcomes that need nothing further. -/
def Outcome.plain : List (String × Outcome) :=
  [("resource", .resource), ("resource_collection", .resourceCollection),
    ("resource_item", .resourceItem), ("query_endpoint", .queryEndpoint),
    ("action_endpoint", .actionEndpoint), ("skipped", .skipped), ("dropped", .dropped)]

def Outcome.toJson : Outcome → Json
  | filtered reason => .object [("filtered", .string reason.name)]
  | resource => .string "resource"
  | resourceCollection => .string "resource_collection"
  | resourceItem => .string "resource_item"
  | queryEndpoint => .string "query_endpoint"
  | actionEndpoint => .string "action_endpoint"
  | skipped => .string "skipped"
  | dropped => .string "dropped"

def Row.toJson (row : Row) : Json :=
  .object [
    ("path", .string row.path),
    ("methods", .string row.methods),
    ("classification", row.outcome.toJson),
    ("kind", optionalText row.kind),
    ("parent_id_param", optionalText row.parentIdParam)]

def Report.toJson (report : Report) : Json :=
  .object [("rows", .ofList Row.toJson report.rows)]

end ApiKinds
