/-
  What an operation takes and gives: its parameters, and the schemas of its bodies.

  * `effectiveParameters`: the parameters that a path shares, overridden and
    completed by those of the operation; references that lead to nothing are left
    out.
  * `Param.ofParameter?`: parameters in paths and queries, with the type of their
    schema.
  * `requestSchema?`, `responseSchema?`: the schema of a request in a media type, and
    that of the first success that has one.
-/
import ApiKinds.Catalog.Basic
import ApiKinds.Catalog.Expansion

namespace ApiKinds

open Api

/-! ## Parameters -/

/-- Same name and same location. -/
def Api.Parameter.overrides (new old : Parameter) : Bool :=
  new.name == old.name && new.location == old.location

/-- Puts a parameter in place of the first one that it overrides, or at the end. -/
def overrideOrAppend (new : Parameter) : List Parameter → List Parameter
  | [] => [new]
  | old :: rest => if new.overrides old then new :: rest else old :: overrideOrAppend new rest

/-- The parameters in effect for an operation. -/
def effectiveParameters (doc : Document) (item : PathItem) (operation : Operation) :
    List Parameter :=
  (operation.parameters.filterMap doc.parameter?).foldl
    (fun merged new => overrideOrAppend new merged)
    (item.parameters.filterMap doc.parameter?)

/-- The member of a parameter that names the field it is merged into. -/
def idFieldKey : String := "x-k8s-id-field"

/-- The type of the items of an array schema. -/
def itemType? (doc : Document) (schema : Schema) : Option String :=
  (schema.items.bind doc.schema?).bind (·.primaryType?)

/-- The type of a parameter; with `expandArrays` an array is followed by the type of its
    items. -/
def parameterType? (doc : Document) (expandArrays : Bool) (parameter : Parameter) :
    Option String :=
  match parameter.schema.bind doc.schema? with
  | none => none
  | some schema =>
    match schema.primaryType? with
    | none => none
    | some type =>
      if expandArrays && type == "array" then
        match itemType? doc schema with
        | some inner => some ("array:" ++ inner)
        | none => some type
      else some type

/-- A parameter in a path or a query, as a catalog shows it. -/
def Param.ofParameter? (doc : Document) (expandArrays : Bool) (parameter : Parameter) :
    Option Param :=
  match ParamLocation.ofName? parameter.location with
  | some .path => some (shown .path)
  | some .query => some (shown .query)
  | _ => none
where
  shown (location : ParamLocation) : Param :=
    { name := parameter.name
      location := location
      required := parameter.required
      type := parameterType? doc expandArrays parameter
      description := parameter.description
      idField := parameter.extensionText? idFieldKey }

/-- The parameters of an operation that a catalog shows. -/
def shownParams (doc : Document) (expandArrays : Bool) (item : PathItem)
    (operation : Operation) : List Param :=
  (effectiveParameters doc item operation).filterMap (Param.ofParameter? doc expandArrays)

/-- The parameters at a location. -/
def paramsAt (location : ParamLocation) (params : List Param) : List Param :=
  params.filter (·.location = location)

/-! ## Bodies -/

def jsonType : String := "application/json"

def multipartType : String := "multipart/form-data"

def octetStreamType : String := "application/octet-stream"

/-- The codes of responses that describe the result, in order. -/
def successCodes : List String := ["200", "201"]

/-- The schema of the request body in a media type. -/
def requestSchema? (doc : Document) (operation : Operation) (mediaType : String) :
    Option (RefOr Schema) := do
  let body ← doc.requestBody? (← operation.requestBody)
  (← body.content.get? mediaType).schema

/-- The JSON schema of a response, if it leads to a schema. -/
def responseSchemaFor? (doc : Document) (operation : Operation) (code : String) :
    Option (RefOr Schema) := do
  let response ← doc.response? (← operation.responses.get? code)
  let schema ← (← response.content.get? jsonType).schema
  if (doc.schema? schema).isSome then some schema else none

/-- The JSON schema of the first success that has one. -/
def responseSchema? (doc : Document) (operation : Operation) : Option (RefOr Schema) :=
  successCodes.findSome? (responseSchemaFor? doc operation)

/-- The shape of the JSON body of a request. -/
def requestShape? (doc : Document) (operation : Operation) (name : String) : Option Shape :=
  (requestSchema? doc operation jsonType).bind (doc.shape? name)

/-- The shape of the result of an operation. -/
def responseShape? (doc : Document) (operation : Operation) (name : String) : Option Shape :=
  (responseSchema? doc operation).bind (doc.shape? name)

end ApiKinds
