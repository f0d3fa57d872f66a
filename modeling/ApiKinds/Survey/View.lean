/-
  What a filter leaves of a path.

  * `PathView`: a path with the operations that are left, and the names of those
    that are not.
  * `Decision`: a path is kept as such a view, or dropped for a reason.
  * `decide`: patterns for the path are tried first, then its tags, then the
    operation ids; a path that loses all of its operations is dropped.
-/
import ApiKinds.Api.Document
import ApiKinds.Catalog.Basic
import ApiKinds.Catalog.Report
import ApiKinds.Filter

namespace ApiKinds

open Api

/-! ## Operations of a path -/

/-- The operation of a path for a method. -/
def Api.PathItem.operation? (item : PathItem) : Method → Option Operation
  | .get => item.get
  | .post => item.post
  | .put => item.put
  | .patch => item.patch
  | .delete => item.delete

/-- The operations that take part in classification, in the order of their methods. -/
def Api.PathItem.methodOperations (item : PathItem) : List (Method × Operation) :=
  Method.all.filterMap fun method => (item.operation? method).map (method, ·)

/-- The tags of all operations of a path, sorted and without repetition. -/
def Api.PathItem.tags (item : PathItem) : List String :=
  (Dict.ofList ((item.operations.flatMap (·.tags)).map (·, ()))).keys

/-- The id of an operation, or the empty text. -/
def Api.Operation.idText (operation : Operation) : String :=
  operation.operationId.getD ""

/-! ## Views -/

/-- A path and its operations that are left. -/
structure PathView where
  path : String
  item : PathItem
  /-- In the order of their methods. -/
  operations : List (Method × Operation)
  /-- The methods that are filtered, with the ids of their operations. -/
  excluded : List String := []

namespace PathView

/-- The path with all of its operations. -/
def whole (path : String) (item : PathItem) : PathView where
  path := path
  item := item
  operations := item.methodOperations

def operation? (view : PathView) (method : Method) : Option Operation :=
  (view.operations.find? (·.1 = method)).map (·.2)

def has (view : PathView) (method : Method) : Bool :=
  view.operations.any (·.1 = method)

/-- The methods, with those that are filtered between tildes. -/
def methodsLabel (view : PathView) : String :=
  let kept := Text.join "," (view.operations.map (·.1.name))
  if view.excluded.isEmpty then kept
  else
    let excluded := "~" ++ Text.join "," view.excluded ++ "~"
    if kept == "" then excluded else kept ++ " " ++ excluded

end PathView

/-! ## Decisions -/

/-- What becomes of a path before it is classified. -/
inductive Decision where
  | keep (view : PathView)
  | drop (reason : FilterReason) (methods : String)

namespace Decision

/-- The view of a path that is kept. -/
def view? : Decision → Option PathView
  | keep view => some view
  | drop .. => none

end Decision

/-- How a filtered operation is shown. -/
def excludedLabel (method : Method) (operation : Operation) : String :=
  if operation.idText == "" then method.name
  else method.name ++ "(" ++ operation.idText ++ ")"

/-- The view without the operations whose ids are not admitted. -/
def PathView.restrict (view : PathView) (admits : String → Bool) : PathView :=
  { view with
    operations := view.operations.filter fun entry => admits entry.2.idText
    excluded := (view.operations.filter fun entry => !admits entry.2.idText).map
      fun entry => excludedLabel entry.1 entry.2 }

/-- What a filter that restricts anything makes of a path. -/
def PathFilter.decide (filter : PathFilter) (path : String) (item : PathItem) : Decision :=
  let view := PathView.whole path item
  if !filter.admitsPath path then .drop .path view.methodsLabel
  else if !filter.admitsTags item.tags then .drop .tag view.methodsLabel
  else if !filter.restrictsOperations then .keep view
  else
    let left := view.restrict filter.admitsOperation
    if left.operations.isEmpty && !left.excluded.isEmpty then .drop .operation left.methodsLabel
    else .keep left

/-- What a filter, if there is one, makes of a path. -/
def decidePath (filter : Option PathFilter) (path : String) (item : PathItem) : Decision :=
  match filter with
  | none => .keep (.whole path item)
  | some filter =>
    if filter.restricts then filter.decide path item else .keep (.whole path item)

end ApiKinds
