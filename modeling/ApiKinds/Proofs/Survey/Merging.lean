/-
  What a resource is, given all the paths that contribute to it.

  * `Report.contributors`, `contributingViews`: the paths whose rows name a resource, in
    order.
  * `Resource.MergeOf`: the resource that paths come to, without the order in which it was
    built.
  * `resources_merged`: the resources of a survey are in order, and each is what the paths
    of its rows come to.
-/
import ApiKinds.Proofs.Survey.Partition

namespace ApiKinds

open Api

/-- The paths whose rows name a resource, in path order. -/
def Report.contributors (report : Report) (name : String) : List String :=
  (report.rows.filter fun row => row.outcome.isResource && row.kind == some name).map (·.path)

/-- The same paths with what survives on them. -/
def contributingViews (doc : Document) (filter : Option PathFilter) (rootKind : Option String)
    (name : String) : List PathView :=
  ((doc.survey filter rootKind).report.contributors name).filterMap (keptViews doc filter).get?

section
variable (doc : Document) (filter : Option PathFilter) (rootKind : Option String) (name : String)

/-- The rows of a resource are those of the paths that are added to its draft. -/
theorem contributingViews_eq_viewsOf : contributingViews doc filter rootKind name =
    viewsOf name ((findings doc filter (namedKind? rootKind)).filterMap Finding.contribution?) := by
  have hrows : (doc.survey filter rootKind).report.rows =
      (findings doc filter (namedKind? rootKind)).map Finding.row := rfl
  rw [contributingViews, Report.contributors, viewsOf, hrows, List.filter_map, List.filterMap_map,
    List.filterMap_map, List.filterMap_filter, List.filter_filterMap, List.map_filterMap]
  apply List.filterMap_congr
  intro finding hfinding
  rcases mem_findings_iff.1 hfinding with
    ⟨path, -, reason, methods, -, -, rfl⟩ | ⟨view, hview, hfound⟩
  · rfl
  have hsort := foundIn_foundAt doc filter (namedKind? rootKind) view
  rw [← hfound] at hsort
  cases hsort with
  | @resource outcome found _ houtcome _ =>
    by_cases hname : found = name
    · simp [Finding.row, Finding.contribution?, houtcome, hname, mem_keptViews.1 hview,
        Option.filter_some]
    · simp [Finding.row, Finding.contribution?, hname, Option.filter_some]
  | _ => simp [Finding.row, Finding.contribution?, Outcome.isResource]

/-- Every contributing path is kept. -/
theorem paths_contributingViews : (contributingViews doc filter rootKind name).map (·.path) =
    (doc.survey filter rootKind).report.contributors name := by
  rw [contributingViews, List.map_filterMap]
  refine (List.filterMap_congr fun path hpath => ?_).trans List.filterMap_some
  obtain ⟨row, hrow, rfl⟩ := List.mem_map.1 hpath
  obtain ⟨hrow, hname⟩ := List.mem_filter.1 hrow
  obtain ⟨houtcome, hkind⟩ := Bool.and_eq_true_iff.1 hname
  obtain ⟨view, hview, hpath⟩ := exists_view_of_isResource hrow houtcome (by simpa using hkind)
  rw [← hpath, mem_keptViews.1 (mem_contributions.1 hview).1]
  rfl

end

/-! ## Merged resources -/

/-- A resource is what paths in this order come to. -/
structure Resource.MergeOf (doc : Document) (views : List PathView) (resource : Resource) :
    Prop where
  pluralName : resource.pluralName = Word.plural resource.name
  /-- It lies where the first path does. -/
  path : ∃ first rest, views = first :: rest ∧ resource.path = Path.basePath first.path
  /-- It has one operation for each method that survives on one of the paths. -/
  methods : resource.methods = Method.all.filter fun method => views.any (·.has method)
  /-- The first path that has the method and ends in a parameter gives the operation, or
      else the first path that has the method. -/
  operations : ∀ operation ∈ resource.operations, ∃ view raw,
    sourceFor? operation.method views = some view ∧
    view.operation? operation.method = some raw ∧
    operation = resourceOperation doc view operation.method raw
  /-- The first path that stores anything gives the shape. -/
  schema : resource.schema = views.findSome? (resourceShape? doc)
  /-- The first operation that says anything gives the description. -/
  description : resource.description = views.findSome? fun view =>
    Method.all.findSome? fun method => (view.operation? method).bind (·.descriptionText?)

section
variable {doc : Document} {views : List PathView} {draft : Draft}

/-- A finished draft has one operation for each method that one of its paths has. -/
theorem Draft.MergeOf.methods_finish (h : draft.MergeOf doc views) :
    draft.finish.methods = Method.all.filter fun method => views.any (·.has method) := by
  rw [Resource.methods, finish, List.map_filterMap, ← List.filterMap_eq_filter]
  apply List.filterMap_congr
  intro method _
  simp only [h.operation, Option.guard, ← sourceFor?_isSome]
  cases hsource : sourceFor? method views with
  | none => rfl
  | some view =>
    obtain ⟨raw, hraw⟩ := PathView.exists_of_has (sourceFor?_mem hsource).2
    simp [PathView.draftOperation?, hraw, resourceOperation]

end

section
variable {doc : Document} {filter : Option PathFilter} {rootKind : Option String}

/-- A resource is what its paths come to, finished. -/
theorem exists_draft_of_resource {resource : Resource}
    (h : resource ∈ (doc.survey filter rootKind).resources) :
    ∃ draft : Draft, draft.Holds doc resource.name
      (contributingViews doc filter rootKind resource.name) ∧ resource = draft.finish := by
  rw [contributingViews_eq_viewsOf]
  exact exists_draft_of_mem_gather h

/-- The resource of a path has an operation for each method of the path. -/
theorem exists_operation_of_mem_contributions {name : String} {view : PathView} {method : Method}
    (h : (name, view) ∈ (findings doc filter (namedKind? rootKind)).filterMap
      Finding.contribution?) (hhas : view.has method) :
    ∃ resource ∈ (doc.survey filter rootKind).resources, resource.name = name ∧
      ∃ operation ∈ resource.operations, operation.method = method := by
  have hname : name ∈ (doc.survey filter rootKind).resources.map (·.name) :=
    mem_names_gather.2 ⟨view, h⟩
  obtain ⟨resource, hresource, rfl⟩ := List.mem_map.1 hname
  refine ⟨resource, hresource, rfl, List.mem_map.1 ?_⟩
  obtain ⟨draft, hholds, hdraft⟩ := exists_draft_of_mem_gather hresource
  have hmethods := hholds.methods_finish
  rw [← hdraft] at hmethods
  change method ∈ resource.methods
  rw [hmethods, List.mem_filter, List.any_eq_true]
  exact ⟨by cases method <;> decide, view, mem_viewsOf.2 h, hhas⟩

end

end ApiKinds
