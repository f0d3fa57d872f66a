/-
  Paths that stand for themselves: actions such as `/pet/{petId}/uploadImage`, and
  queries such as `/pet/findByStatus`.

  * `isActionShape`, `isQueryShape`: what the methods and segments of a path say.
  * `parentOf?`: the Kind that an action is done to.
  * `actionEndpoint?`, `queryEndpoint?`: the endpoint of such a path; without a root
    Kind the root path has none.
-/
import ApiKinds.Path
import ApiKinds.Survey.Payload
import ApiKinds.Survey.View

namespace ApiKinds

open Api ApiKinds.Path

/-! ## Shapes -/

/-- Whether a segment before the last one but after the first is a parameter. -/
def hasInnerParam (parts : List String) : Bool :=
  parts.tail.dropLast.any isParam

/-- Whether a path is an operation: it is written to and not read, and ends in no
    parameter; below an entity it also has to be named like an operation. A path that
    is only read is an operation if its name says so. -/
def isActionShape (view : PathView) : Bool :=
  let parts := segments view.path
  let last := parts.getLast?.getD ""
  if view.has .delete || view.has .patch then false
  else if !(view.has .post || view.has .put) then
    view.has .get && !isParam last && Word.isStrongAction last
  else if view.has .get || isParam last then false
  else if hasInnerParam parts then Word.isAction last
  else true

/-- Whether a path is only read. -/
def isQueryShape (view : PathView) : Bool :=
  view.has .get && !view.has .post && !view.has .put && !view.has .patch && !view.has .delete

/-! ## Parents -/

/-- What an action is done to. -/
structure Parent where
  kind : String
  /-- The parameter that identifies it. -/
  idParam : Option String
deriving DecidableEq, Repr

/-- The parameters behind a plain segment, with that segment. -/
def ownedParams : List String → List (String × String)
  | [] => []
  | part :: rest =>
    match if isParam part then none else rest.head?.bind paramName? with
    | some param => (part, param) :: ownedParams rest
    | none => ownedParams rest

/-- The parent of the action with the given segments: the owner of the last parameter
    before the action, or the first of two segments. -/
def parentOf? (parts : List String) : Option Parent :=
  match (ownedParams parts.dropLast).getLast? with
  | some (owner, param) => some ⟨Word.kindName owner, some param⟩
  | none =>
    match parts with
    | [owner, _] => if isParam owner then none else some ⟨Word.kindName owner, none⟩
    | _ => none

/-! ## Actions -/

/-- The names of an action. -/
structure ActionNames where
  /-- Of the endpoint. -/
  name : String
  /-- Of what is done. -/
  action : String
  parent : Option Parent

/-- The names of the action at a path. -/
def actionNames? (rootKind : Option String) (path : String) : Option ActionNames :=
  if isRoot path then
    rootKind.map fun kind => ⟨kind ++ "Action", Text.lowercase kind, none⟩
  else
    let parts := segments path
    let action := parts.getLast?.getD ""
    let parent := parentOf? parts
    let kind := (parent.map (·.kind)).getD ""
    some ⟨kind ++ Word.upperCamelCase action ++ "Action", action, parent⟩

/-- The operation of an action with its method: POST, else PUT, else GET if the name
    says that something is done. -/
def actionOperation? (view : PathView) (action : String) : Option (Method × Operation) :=
  (view.operation? .post).map (.post, ·) <|>
  (view.operation? .put).map (.put, ·) <|>
  if Word.isStrongAction action then (view.operation? .get).map (.get, ·) else none

/-- Whether a schema stands for the bytes of a file. -/
def isFile (doc : Document) (schema : RefOr Schema) : Bool :=
  (doc.schema? schema).any fun target =>
    target.format == some "binary" || target.primaryType? == some "string"

/-- Whether a property of the schema is a file. -/
def hasFilePart (doc : Document) (schema : RefOr Schema) : Bool :=
  (doc.schema? schema).any fun target =>
    target.properties.any fun property =>
      (doc.schema? property.2).any (·.format == some "binary")

/-- The body of an action. -/
structure ActionBody where
  schema : Option Shape
  /-- The media type in which it is a file, or holds one. -/
  binaryType : Option String

/-- The body of an action. Of several media types the last of JSON, forms and plain bytes
    gives the schema. -/
def actionBody (doc : Document) (operation : Operation) : ActionBody :=
  let json := requestSchema? doc operation jsonType
  let form := requestSchema? doc operation multipartType
  let bytes := requestSchema? doc operation octetStreamType
  { schema := (bytes <|> form <|> json).bind (doc.shape? "RequestBody")
    binaryType :=
      if bytes.any (isFile doc) then some octetStreamType
      else if form.any (hasFilePart doc) then some multipartType
      else none }

/-- The action endpoint of a path with the shape of one. -/
def actionEndpoint? (doc : Document) (rootKind : Option String) (view : PathView) :
    Option ActionEndpoint := do
  let names ← actionNames? rootKind view.path
  let (method, operation) ← actionOperation? view names.action
  let idParam := names.parent.bind (·.idParam)
  let params := shownParams doc false view.item operation
  let identifying := params.filter fun param => some param.name == idParam
  let others := params.filter fun param => some param.name != idParam
  let body := actionBody doc operation
  return {
    name := names.name
    operationId := operation.operationId
    path := view.path
    parentResource := names.parent.map (·.kind)
    parentIdParam := idParam
    parentIdType := identifying.getLast?.bind (·.type)
    actionName := names.action
    method := method
    summary := operation.summary
    description := operation.description
    pathParams := paramsAt .path others
    queryParams := paramsAt .query others
    requestSchema := body.schema
    responseSchema := responseShape? doc operation "Response"
    hasBinaryBody := body.binaryType.isSome
    binaryContentType := body.binaryType }

/-! ## Queries -/

/-- The segments that a query is named by: those of its path, or the root Kind. -/
def querySegments? (rootKind : Option String) (path : String) : Option (List String) :=
  if isRoot path then rootKind.map fun kind => [Text.lowercase kind] else some (segments path)

/-- The result of a query. -/
structure QueryResult where
  isArray : Bool
  /-- The component that it, or each of its items, is. -/
  component : Option String

/-- What the schema of a response says of the result. -/
def queryResult (doc : Document) (schema : RefOr Schema) : QueryResult :=
  match doc.schema? schema with
  | some target =>
    if target.types.contains "array" then
      ⟨true, (target.items.bind RefOr.target?).map lastSegment⟩
    else ⟨false, schema.target?.map lastSegment⟩
  | none => ⟨false, schema.target?.map lastSegment⟩

/-- The query endpoint of a path with the shape of one. -/
def queryEndpoint? (doc : Document) (rootKind : Option String) (view : PathView) :
    Option QueryEndpoint := do
  let operation ← view.operation? .get
  let parts ← querySegments? rootKind view.path
  let params := shownParams doc true view.item operation
  let result := (responseSchema? doc operation).map (queryResult doc)
  return {
    name := Text.join "" ((parts.filter (!isParam ·)).map Word.upperCamelCase) ++ "Query"
    operationId := operation.operationId
    path := view.path
    basePath := "/" ++ parts.head?.getD ""
    operation := parts.getLast?.getD ""
    summary := operation.summary
    description := operation.description
    pathParams := paramsAt .path params
    queryParams := paramsAt .query params
    responseSchema := responseShape? doc operation "Response"
    responseComponent := result.bind (·.component)
    responseIsArray := result.any (·.isArray) }

end ApiKinds
