/-
  Reading catalogs and reports from JSON values.

  Fields that may be absent need not be there; all others have to. The members of an
  enumeration are written by name, or as an object with the name and `null`.

  * `Catalog.read?`, `Report.read?` and the readers of their parts.
  * `CatalogPosition`, `catalogLayout`: the members that they ask for.
-/
import ApiKinds.Catalog.Basic
import ApiKinds.Catalog.Writing
import ApiKinds.Json.Written

namespace ApiKinds

open Json

/-! ## Enumerations -/

/-- A member of an enumeration: its name, or the name with `null`. -/
def enumMember? {α : Type} (members : List (String × α)) : Json → Option α
  | .string name => Entries.get? name members
  | .object [(name, .null)] => Entries.get? name members
  | _ => none

def Method.read? : Json → Option Method :=
  enumMember? (Method.all.map fun method => (method.name, method))

def ParamLocation.read? : Json → Option ParamLocation :=
  enumMember? (ParamLocation.all.map fun location => (location.name, location))

def FilterReason.read? : Json → Option FilterReason :=
  enumMember? ([.path, .tag, .operation].map fun reason => (reason.name, reason))

def Outcome.read? : Json → Option Outcome
  | .object [("filtered", reason)] => (FilterReason.read? reason).map .filtered
  | value => enumMember? Outcome.plain value

/-! ## Shapes -/

def Shape.fieldNames : List String :=
  ["name", "type", "format", "description", "required", "properties", "items", "ref", "enum",
    "default", "nullable", "min_length", "max_length", "minimum", "maximum", "pattern",
    "min_items", "max_items"]

def Trait.read? (r : Record) : Option Trait := do
  some {
    name := ← r.required "name" string?
    type := ← r.optional "type" string?
    format := ← r.optional "format" string?
    description := ← r.optional "description" string?
    required := ← r.required "required" (listOf? string?)
    component := ← r.optional "ref" string?
    enum := ← r.required "enum" (listOf? Literal.read?)
    default := ← r.optional "default" Literal.read?
    nullable := ← r.required "nullable" bool?
    minLength := ← r.optional "min_length" natural?
    maxLength := ← r.optional "max_length" natural?
    minimum := ← r.optional "minimum" double?
    maximum := ← r.optional "maximum" double?
    pattern := ← r.optional "pattern" string?
    minItems := ← r.optional "min_items" natural?
    maxItems := ← r.optional "max_items" natural? }

/-- A shape from what it says of itself and the shapes inside it. -/
def Shape.assemble? (record : Option Record) (properties : Option (List (String × Shape)))
    (items : Option (Option Shape)) : Option Shape := do
  some {
    toTrait := ← Trait.read? (← record)
    properties := Entries.ofList (← properties)
    items := ← items }

namespace Shape

mutual
/-- A shape: an object, or the list of all its fields. -/
def read? : Json → Option Shape
  | .object members =>
    assemble? (Record.ofMembers? fieldNames members) (propertiesIn? members) (itemsIn? members)
  | .array (a :: b :: c :: d :: e :: properties :: items :: rest) =>
    assemble?
      (fullRecord? fieldNames (.array (a :: b :: c :: d :: e :: properties :: items :: rest)))
      (readProperties? properties)
      (if items.isNull then some none else (read? items).map some)
  | _ => none

/-- What stands under `properties`. -/
def propertiesIn? : List (String × Json) → Option (List (String × Shape))
  | [] => none
  | (key, value) :: rest =>
    if key = "properties" then readProperties? value else propertiesIn? rest

/-- What stands under `items`. -/
def itemsIn? : List (String × Json) → Option (Option Shape)
  | [] => some none
  | (key, value) :: rest =>
    if key = "items" then
      if value.isNull then some none else (read? value).map some
    else itemsIn? rest

def readProperties? : Json → Option (List (String × Shape))
  | .object members => readEntries? members
  | _ => none

def readEntries? : List (String × Json) → Option (List (String × Shape))
  | [] => some []
  | (key, value) :: rest => do
    let shape ← read? value
    let shapes ← readEntries? rest
    some ((key, shape) :: shapes)
end

end Shape

/-! ## Catalogs -/

def Param.fieldNames : List String :=
  ["name", "location", "required", "param_type", "description", "id_field_ref"]

def Param.read? (value : Json) : Option Param := do
  let r ← value.fullRecord? fieldNames
  some {
    name := ← r.required "name" string?
    location := ← r.required "location" ParamLocation.read?
    required := ← r.required "required" bool?
    type := ← r.optional "param_type" string?
    description := ← r.optional "description" string?
    idField := ← r.optional "id_field_ref" string? }

def ResourceOperation.fieldNames : List String :=
  ["method", "path", "operation_id", "summary", "request_body", "response_body", "path_params",
    "query_params"]

def ResourceOperation.read? (value : Json) : Option ResourceOperation := do
  let r ← value.fullRecord? fieldNames
  some {
    method := ← r.required "method" Method.read?
    path := ← r.required "path" string?
    operationId := ← r.optional "operation_id" string?
    summary := ← r.optional "summary" string?
    requestBody := ← r.optional "request_body" Shape.read?
    responseBody := ← r.optional "response_body" Shape.read?
    pathParams := ← r.required "path_params" (listOf? Param.read?)
    queryParams := ← r.required "query_params" (listOf? Param.read?) }

def Resource.fieldNames : List String :=
  ["name", "plural_name", "path", "operations", "schema", "description"]

def Resource.read? (value : Json) : Option Resource := do
  let r ← value.fullRecord? fieldNames
  some {
    name := ← r.required "name" string?
    pluralName := ← r.required "plural_name" string?
    path := ← r.required "path" string?
    operations := ← r.required "operations" (listOf? ResourceOperation.read?)
    schema := ← r.optional "schema" Shape.read?
    description := ← r.optional "description" string? }

def QueryEndpoint.fieldNames : List String :=
  ["name", "operation_id", "path", "base_path", "operation", "summary", "description",
    "path_params", "query_params", "response_schema", "response_schema_ref",
    "response_is_array"]

def QueryEndpoint.read? (value : Json) : Option QueryEndpoint := do
  let r ← value.fullRecord? fieldNames
  some {
    name := ← r.required "name" string?
    operationId := ← r.optional "operation_id" string?
    path := ← r.required "path" string?
    basePath := ← r.required "base_path" string?
    operation := ← r.required "operation" string?
    summary := ← r.optional "summary" string?
    description := ← r.optional "description" string?
    pathParams := ← r.required "path_params" (listOf? Param.read?)
    queryParams := ← r.required "query_params" (listOf? Param.read?)
    responseSchema := ← r.optional "response_schema" Shape.read?
    responseComponent := ← r.optional "response_schema_ref" string?
    responseIsArray := ← r.required "response_is_array" bool? }

def ActionEndpoint.fieldNames : List String :=
  ["name", "operation_id", "path", "parent_resource", "parent_id_param", "parent_id_type",
    "action_name", "http_method", "summary", "description", "path_params", "query_params",
    "request_schema", "response_schema", "has_binary_body", "binary_content_type"]

def ActionEndpoint.read? (value : Json) : Option ActionEndpoint := do
  let r ← value.fullRecord? fieldNames
  some {
    name := ← r.required "name" string?
    operationId := ← r.optional "operation_id" string?
    path := ← r.required "path" string?
    parentResource := ← r.optional "parent_resource" string?
    parentIdParam := ← r.optional "parent_id_param" string?
    parentIdType := ← r.optional "parent_id_type" string?
    actionName := ← r.required "action_name" string?
    method := ← r.required "http_method" Method.read?
    summary := ← r.optional "summary" string?
    description := ← r.optional "description" string?
    pathParams := ← r.required "path_params" (listOf? Param.read?)
    queryParams := ← r.required "query_params" (listOf? Param.read?)
    requestSchema := ← r.optional "request_schema" Shape.read?
    responseSchema := ← r.optional "response_schema" Shape.read?
    hasBinaryBody := ← r.required "has_binary_body" bool?
    binaryContentType := ← r.optional "binary_content_type" string? }

def Catalog.fieldNames : List String :=
  ["title", "version", "description", "base_url", "resources", "query_endpoints",
    "action_endpoints", "schemas"]

def Catalog.read? (value : Json) : Option Catalog := do
  let r ← value.fullRecord? fieldNames
  some {
    title := ← r.required "title" string?
    version := ← r.required "version" string?
    description := ← r.optional "description" string?
    baseUrl := ← r.optional "base_url" string?
    resources := ← r.required "resources" (listOf? Resource.read?)
    queryEndpoints := ← r.required "query_endpoints" (listOf? QueryEndpoint.read?)
    actionEndpoints := ← r.required "action_endpoints" (listOf? ActionEndpoint.read?)
    schemas := ← r.required "schemas" (dictOf? Shape.read?) }

/-! ## Reports -/

def Row.fieldNames : List String :=
  ["path", "methods", "classification", "kind", "parent_id_param"]

def Row.read? (value : Json) : Option Row := do
  let r ← value.fullRecord? fieldNames
  some {
    path := ← r.required "path" string?
    methods := ← r.required "methods" string?
    outcome := ← r.required "classification" Outcome.read?
    kind := ← r.optional "kind" string?
    parentIdParam := ← r.optional "parent_id_param" string? }

def Report.read? (value : Json) : Option Report := do
  let r ← value.fullRecord? ["rows"]
  some { rows := ← r.required "rows" (listOf? Row.read?) }

/-! ## What is asked for -/

/-- Positions in catalogs and reports. Below `whole` everything is asked for. -/
inductive CatalogPosition where
  | catalog
  | resource
  | operation
  | query
  | action
  | param
  | shape
  | report
  | row
  | whole
  /-- A list or map of objects at one position. -/
  | many (inner : CatalogPosition)
deriving DecidableEq, Repr

namespace CatalogPosition

/-- The position of a field by its name, for those that hold objects. -/
def ofField : String → CatalogPosition
  | "resources" => many resource
  | "operations" => many operation
  | "query_endpoints" => many query
  | "action_endpoints" => many action
  | "path_params" | "query_params" => many param
  | "schemas" | "properties" => many shape
  | "schema" | "items" | "request_body" | "response_body" | "request_schema"
  | "response_schema" => shape
  | "rows" => many row
  | _ => whole

/-- The names of the fields of an object at a position, in order, if only they are asked
    for. -/
def fieldNames? : CatalogPosition → Option (List String)
  | catalog => some Catalog.fieldNames
  | resource => some Resource.fieldNames
  | operation => some ResourceOperation.fieldNames
  | query => some QueryEndpoint.fieldNames
  | action => some ActionEndpoint.fieldNames
  | param => some Param.fieldNames
  | shape => some Shape.fieldNames
  | report => some ["rows"]
  | row => some Row.fieldNames
  | whole | many _ => none

/-- The position of the items or members of a collection. -/
def inner : CatalogPosition → CatalogPosition
  | many position => position
  | _ => whole

end CatalogPosition

/-- The members that catalogs and reports ask for. -/
def catalogLayout : Layout CatalogPosition where
  member position key := match position.fieldNames? with
    | some names => if names.contains key then some (.ofField key) else none
    | none => some position.inner
  item position index := match position.fieldNames? with
    | some names => (names[index]?.map CatalogPosition.ofField).getD .whole
    | none => position.inner

end ApiKinds
