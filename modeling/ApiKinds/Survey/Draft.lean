/-
  Resources in the making: what the paths of one Kind contribute to it.

  * `Draft.start`: a resource at its first path.
  * `Draft.contribute`: the operations of a path are added. For a method that has one
    already, the operation of a path that ends in a parameter replaces one that does
    not; otherwise the first stays.
  * `Draft.finish`: the resource, its operations in the order of their methods.
-/
import ApiKinds.Path
import ApiKinds.Survey.Payload
import ApiKinds.Survey.View

namespace ApiKinds

open Api

/-! ## Contributions -/

/-- An operation and whether the path that it comes from ends in a parameter. -/
structure DraftOperation where
  operation : ResourceOperation
  fromItem : Bool

/-- A resource in the making. -/
structure Draft where
  name : String
  path : String
  get : Option DraftOperation := none
  post : Option DraftOperation := none
  put : Option DraftOperation := none
  patch : Option DraftOperation := none
  delete : Option DraftOperation := none
  schema : Option Shape := none
  description : Option String := none

/-- An operation as a resource shows it. -/
def resourceOperation (doc : Document) (view : PathView) (method : Method)
    (operation : Operation) : ResourceOperation :=
  let params := shownParams doc false view.item operation
  { method := method
    path := view.path
    operationId := operation.operationId
    summary := operation.summary
    requestBody := requestShape? doc operation "RequestBody"
    responseBody := responseShape? doc operation "ResponseBody"
    pathParams := paramsAt .path params
    queryParams := paramsAt .query params }

/-- The shape of what is stored: a component under its own name, anything else as
    `Resource`. -/
def entityShape? (doc : Document) (schema : RefOr Schema) : Option Shape :=
  match schema with
  | .ref reference => doc.shape? (lastSegment reference) schema
  | .inline _ => doc.shape? "Resource" schema

/-- The shape of what POST, or else PUT, stores at a path. -/
def resourceShape? (doc : Document) (view : PathView) : Option Shape :=
  [Method.post, Method.put].findSome? fun method => do
    entityShape? doc (← requestSchema? doc (← view.operation? method) jsonType)

/-- Whether the last segment of a path is a parameter. -/
def endsInParam (path : String) : Bool :=
  (Path.segments path).getLast?.any Path.isParam

/-- The description of an operation, if it says anything. -/
def Api.Operation.descriptionText? (operation : Operation) : Option String :=
  operation.description.filter (· != "")

/-! ## Drafts -/

namespace Draft

/-- The resource of a Kind at its first path. -/
def start (name firstPath : String) : Draft where
  name := name
  path := Path.basePath firstPath

/-- The operation for a method. -/
def operation? (draft : Draft) : Method → Option DraftOperation
  | .get => draft.get
  | .post => draft.post
  | .put => draft.put
  | .patch => draft.patch
  | .delete => draft.delete

/-- Sets the operation for a method. -/
def set (draft : Draft) (entry : DraftOperation) : Method → Draft
  | .get => { draft with get := some entry }
  | .post => { draft with post := some entry }
  | .put => { draft with put := some entry }
  | .patch => { draft with patch := some entry }
  | .delete => { draft with delete := some entry }

/-- Adds an operation, unless one for the same method has precedence. -/
def offer (draft : Draft) (method : Method) (entry : DraftOperation) : Draft :=
  match draft.operation? method with
  | none => draft.set entry method
  | some old =>
    if entry.fromItem && !old.fromItem then draft.set entry method else draft

/-- Adds the operations of a path. -/
def contribute (doc : Document) (view : PathView) (draft : Draft) : Draft :=
  let fromItem := endsInParam view.path
  let offered := view.operations.foldl (fun draft entry =>
    draft.offer entry.1 ⟨resourceOperation doc view entry.1 entry.2, fromItem⟩) draft
  { offered with
    schema := draft.schema <|> resourceShape? doc view
    description :=
      draft.description <|> view.operations.findSome? (·.2.descriptionText?) }

/-- The resource. -/
def finish (draft : Draft) : Resource where
  name := draft.name
  pluralName := Word.plural draft.name
  path := draft.path
  operations := Method.all.filterMap fun method => (draft.operation? method).map (·.operation)
  schema := draft.schema
  description := draft.description

end Draft

end ApiKinds
