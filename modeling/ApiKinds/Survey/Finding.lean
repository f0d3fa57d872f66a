/-
  Findings: what a path of an API turns out to be.

  * `pairedItem?`: the item path that a collection path with POST is folded into.
  * `Finding`: the outcome of a path with what comes of it: an action, a query, a
    contribution to a resource, or nothing.
  * `PathView.finding`: the finding of a path that is kept, given the pairs of collections and
    items.
-/
import ApiKinds.Survey.Endpoint

namespace ApiKinds

open Api

/-! ## Collections and their items -/

/-- The paths that address an entity, behind the collections that they lie in. -/
def itemsByCollection (kept : List PathView) : List (String × PathView) :=
  kept.filterMap fun view => (Path.collectionOf? view.path).map (·, view)

/-- The first of the item paths of a collection that is written to, if that item can be
    read, replaced or deleted. -/
def pairedItem? (items : List (String × PathView)) (view : PathView) : Option String :=
  if view.has .post then
    match Entries.get? view.path items with
    | some item =>
      if item.has .get || item.has .put || item.has .delete then some item.path else none
    | none => none
  else none

/-- The collections that are folded into an item path, with that path. -/
def pairs (kept : Dict PathView) : Dict String :=
  let items := itemsByCollection kept.values
  kept.filterMap fun _ => pairedItem? items

/-! ## Findings -/

/-- What a path turns out to be. -/
inductive Finding where
  | filtered (path : String) (reason : FilterReason) (methods : String)
  /-- It has no operation or no name. -/
  | skipped (view : PathView)
  /-- It is the root path, and there is no root Kind. -/
  | dropped (view : PathView)
  | action (view : PathView) (endpoint : ActionEndpoint)
  | query (view : PathView) (endpoint : QueryEndpoint)
  /-- It contributes to the resource of a name. -/
  | resource (view : PathView) (outcome : Outcome) (name : String)

/-- An action or query that has no name. -/
def unnamed (rootKind : Option String) (view : PathView) : Finding :=
  if Path.isRoot view.path && rootKind.isNone then .dropped view else .skipped view

/-- A contribution to a resource, unless the resource has no name. -/
def contribution (view : PathView) (outcome : Outcome) (name : String) : Finding :=
  if name == "" then .skipped view else .resource view outcome name

/-- Whether the collection of an item path is folded into an item. -/
def isItemOf (paired : Dict String) (path : String) : Bool :=
  (Path.collectionOf? path).any paired.contains

/-- The finding of a path that is not folded into an item. -/
def PathView.singleFinding (doc : Document) (rootKind : Option String) (paired : Dict String)
    (view : PathView) : Finding :=
  if isActionShape view then
    match actionEndpoint? doc rootKind view with
    | some endpoint => .action view endpoint
    | none => unnamed rootKind view
  else if isQueryShape view then
    match queryEndpoint? doc rootKind view with
    | some endpoint => .query view endpoint
    | none => unnamed rootKind view
  else
    contribution view (if isItemOf paired view.path then .resourceItem else .resource)
      (Path.resourceName view.path rootKind)

/-- The finding of a path that is kept. -/
def PathView.finding (doc : Document) (rootKind : Option String) (paired : Dict String)
    (view : PathView) : Finding :=
  if view.operations.isEmpty then .skipped view
  else
    match paired.get? view.path with
    | some itemPath =>
      contribution view .resourceCollection (Path.resourceName itemPath rootKind)
    | none => view.singleFinding doc rootKind paired

namespace Finding

/-- The row of a report. -/
def row : Finding → Row
  | filtered path reason methods => ⟨path, methods, .filtered reason, none, none⟩
  | skipped view => ⟨view.path, view.methodsLabel, .skipped, none, none⟩
  | dropped view => ⟨view.path, view.methodsLabel, .dropped, none, none⟩
  | action view endpoint =>
    ⟨view.path, view.methodsLabel, .actionEndpoint, some endpoint.name, endpoint.parentIdParam⟩
  | query view endpoint =>
    ⟨view.path, view.methodsLabel, .queryEndpoint, some endpoint.name, none⟩
  | resource view outcome name => ⟨view.path, view.methodsLabel, outcome, some name, none⟩

def action? : Finding → Option ActionEndpoint
  | action _ endpoint => some endpoint
  | _ => none

def query? : Finding → Option QueryEndpoint
  | query _ endpoint => some endpoint
  | _ => none

/-- The name of a resource and the path that contributes to it. -/
def contribution? : Finding → Option (String × PathView)
  | resource view _ name => some (name, view)
  | _ => none

end Finding

end ApiKinds
