/-
  Which path an operation of a resource comes from, if several paths have it.

  * `exposingPaths`: the paths of a resource that have a method, in order.
  * `path_of_operation`: the first of them that ends in a parameter gives the operation, or
    else the first of all.
  * `contributor_of_endsInParam`: such a path is an entity, or its name is that of a segment
    further up.
  * `survey_precedes`: so the operation of the first path gives way to entities alone just if
    no path of the other sort comes before them.
-/
import ApiKinds.Proofs.Survey.Merging
import ApiKinds.Proofs.Survey.Pairing

namespace ApiKinds

open Api

/-! ## Paths that have a method -/

/-- The paths that contribute to a resource and have a method, in order. -/
def exposingPaths (doc : Document) (filter : Option PathFilter) (rootKind : Option String)
    (name : String) (method : Method) : List String :=
  ((doc.survey filter rootKind).report.contributors name).filter (Survives doc filter · method)

section
variable {doc : Document} {filter : Option PathFilter} {rootKind : Option String}
  {name path : String} {method : Method}

theorem paths_exposingViews (doc : Document) (filter : Option PathFilter)
    (rootKind : Option String) (name : String) (method : Method) :
    ((contributingViews doc filter rootKind name).filter (·.has method)).map (·.path) =
      exposingPaths doc filter rootKind name method := by
  rw [exposingPaths, ← paths_contributingViews, List.filter_map]
  congr 1
  apply List.filter_congr
  intro view hview
  rw [contributingViews_eq_viewsOf] at hview
  have hkept := mem_keptViews.1 (mem_contributions.1 (mem_viewsOf.1 hview)).1
  rw [Function.comp_apply, Bool.eq_iff_iff, decide_eq_true_iff, survives_iff hkept]

/-- A path of a resource that has a method contributes an operation for it. -/
theorem exists_view_of_mem_exposingPaths
    (h : path ∈ exposingPaths doc filter rootKind name method) :
    ∃ view, (name, view) ∈ (findings doc filter (namedKind? rootKind)).filterMap
      Finding.contribution? ∧ view.has method ∧ view.path = path := by
  rw [← paths_exposingViews] at h
  obtain ⟨view, hview, hpath⟩ := List.mem_map.1 h
  obtain ⟨hview, hhas⟩ := List.mem_filter.1 hview
  rw [contributingViews_eq_viewsOf] at hview
  exact ⟨view, mem_viewsOf.1 hview, hhas, hpath⟩

theorem map_path_sourceFor? (method : Method) (views : List PathView) :
    (sourceFor? method views).map (·.path) =
      (((views.filter (·.has method)).map (·.path)).find? endsInParam).or
        ((views.filter (·.has method)).map (·.path)).head? := by
  simp only [sourceFor?, Option.orElse_eq_orElse, Option.orElse_eq_or, Option.map_or,
    List.find?_map, List.head?_map, Function.comp_def]

/-- The first path that has the method and ends in a parameter gives the operation, or else
    the first that has the method. -/
theorem path_of_operation {resource : Resource} {operation : ResourceOperation}
    (hresource : resource ∈ (doc.survey filter rootKind).resources)
    (hoperation : operation ∈ resource.operations) :
    some operation.path =
      ((exposingPaths doc filter rootKind resource.name operation.method).find? endsInParam).or
        (exposingPaths doc filter rootKind resource.name operation.method).head? := by
  obtain ⟨draft, hholds, hdraft⟩ := exists_draft_of_resource hresource
  rw [hdraft] at hoperation
  obtain ⟨view, raw, hsource, -, heq⟩ := hholds.mem_operations hoperation
  have hpath : operation.path = view.path := by rw [heq]; rfl
  rw [hpath, ← paths_exposingViews, ← map_path_sourceFor?, hsource, Option.map_some]

/-! ## Paths that end in a parameter -/

/-- A collection does not end in a parameter. -/
theorem not_endsInParam_of_folds {item : String} (h : Folds doc filter path item)
    (hname : Path.resourceName item rootKind ≠ "") : ¬ endsInParam path := by
  obtain ⟨before, owner, param, hends, rfl⟩ := Path.collectionOf?_eq_some_iff.1 h.collectionOf?
  have howner : owner ≠ "" := Path.owner_ne_empty_of_resourceName hends hname
  rw [endsInParam, Path.segments_of_collection hends howner]
  simp [hends.plain]

/-- A path of a resource that ends in a parameter is an entity, or it is named by a segment
    further up. -/
theorem contributor_of_endsInParam
    (h : path ∈ (doc.survey filter rootKind).report.contributors name) (hends : endsInParam path) :
    Path.isIdPath path ∨
      (doc.survey filter rootKind).report.outcome? path = some .resource ∧
        Path.NamedAbove path name := by
  obtain ⟨row, hrow, rfl⟩ := List.mem_map.1 h
  obtain ⟨hmem, hnamed⟩ := List.mem_filter.1 hrow
  obtain ⟨houtcome, hkind⟩ := Bool.and_eq_true_iff.1 hnamed
  obtain ⟨view, found, hview, hfoundKind, hfound⟩ := exists_found_of_isResource hmem houtcome
  obtain rfl : found = name := Option.some.inj (hfoundKind.symm.trans (beq_iff_eq.1 hkind))
  have hsort := foundIn_foundAt doc filter (namedKind? rootKind) view
  have hcontributes := contributesAs_of_foundIn hfound
  rw [hfound] at hsort
  rw [path_of_get?_keptViews hview] at hcontributes
  cases hsort with
  | resource _ _ hname =>
    generalize hrowOutcome : row.outcome = outcome at hcontributes
    cases hcontributes with
    | collection hfolds _ => exact absurd hends (not_endsInParam_of_folds hfolds hname)
    | item hitem _ =>
      obtain ⟨collection, _, hcollection, -⟩ := exists_folds_of_isItemOf hitem
      exact .inl (Path.isIdPath_of_collectionOf? hcollection)
    | plain =>
      by_cases hentity : Path.isIdPath row.path
      · exact .inl hentity
      refine .inr ⟨?_, ?_⟩
      · rw [Report.outcome?, row?_eq_some_iff.2 ⟨hmem, rfl⟩, Option.map_some, hrowOutcome]
      · exact Path.namedAbove_of_not_isIdPath hends hentity hname

end

/-! ## The law of precedence -/

/-- Operations of other paths than the first are those of entities. -/
def Survey.YieldsToEntities (exposing : String → Method → List String) (survey : Survey) : Prop :=
  ∀ resource ∈ survey.resources, ∀ operation ∈ resource.operations,
    (exposing resource.name operation.method).head? ≠ some operation.path →
      Path.isIdPath operation.path

/-- Operations of paths that end in a parameter take precedence. -/
structure Survey.Precedes (exposing : String → Method → List String) (survey : Survey) : Prop where
  /-- The first path that ends in a parameter gives the operation, or else the first path. -/
  source : ∀ resource ∈ survey.resources, ∀ operation ∈ resource.operations,
    some operation.path = ((exposing resource.name operation.method).find? endsInParam).or
      (exposing resource.name operation.method).head?
  /-- An operation of another path than the first is that of an entity, or of a path on its
      own that is named by a segment further up. -/
  displacing : ∀ resource ∈ survey.resources, ∀ operation ∈ resource.operations,
    (exposing resource.name operation.method).head? ≠ some operation.path →
      Path.isIdPath operation.path ∨ survey.report.outcome? operation.path = some .resource ∧
        Path.NamedAbove operation.path resource.name
  /-- They are all of entities just if the first path that ends in a parameter is one, wherever
      it is not the first path of all. -/
  entities : survey.YieldsToEntities exposing ↔ ∀ name method path,
    (exposing name method).find? endsInParam = some path →
      (exposing name method).head? ≠ some path → Path.isIdPath path

section
variable {doc : Document} {filter : Option PathFilter} {rootKind : Option String}

/-- An operation of another path than the first is that of the first path that ends in a
    parameter. -/
theorem find?_of_displaced {resource : Resource} {operation : ResourceOperation}
    (hresource : resource ∈ (doc.survey filter rootKind).resources)
    (hoperation : operation ∈ resource.operations)
    (hfirst : (exposingPaths doc filter rootKind resource.name operation.method).head? ≠
      some operation.path) :
    (exposingPaths doc filter rootKind resource.name operation.method).find? endsInParam =
      some operation.path := by
  rcases Option.or_eq_some_iff.1 (path_of_operation hresource hoperation).symm with h | ⟨-, h⟩
  · exact h
  · exact absurd h hfirst

/-- The first path that ends in a parameter gives the operation of its resource. -/
theorem exists_operation_of_find? {name path : String} {method : Method}
    (h : (exposingPaths doc filter rootKind name method).find? endsInParam = some path) :
    ∃ resource ∈ (doc.survey filter rootKind).resources, resource.name = name ∧
      ∃ operation ∈ resource.operations, operation.method = method ∧ operation.path = path := by
  obtain ⟨view, hview, hhas, -⟩ := exists_view_of_mem_exposingPaths (List.mem_of_find?_eq_some h)
  obtain ⟨resource, hresource, rfl, operation, hoperation, rfl⟩ :=
    exists_operation_of_mem_contributions hview hhas
  refine ⟨resource, hresource, rfl, operation, hoperation, rfl, ?_⟩
  have hsource := path_of_operation hresource hoperation
  rw [h, Option.some_or] at hsource
  exact Option.some.inj hsource

end

/-- **The first path that ends in a parameter gives the operation**, be it an entity or not. -/
theorem survey_precedes (doc : Document) (filter : Option PathFilter) (rootKind : Option String) :
    (doc.survey filter rootKind).Precedes (exposingPaths doc filter rootKind) where
  source _ hresource _ hoperation := path_of_operation hresource hoperation
  displacing resource hresource operation hoperation hfirst := by
    have hfound := find?_of_displaced hresource hoperation hfirst
    have hcontributor := (List.mem_filter.1 (List.mem_of_find?_eq_some hfound)).1
    exact contributor_of_endsInParam hcontributor (List.find?_some hfound)
  entities := by
    constructor
    · intro hyields name method path hfind hfirst
      obtain ⟨resource, hresource, rfl, operation, hoperation, rfl, rfl⟩ :=
        exists_operation_of_find? hfind
      exact hyields resource hresource operation hoperation hfirst
    · intro h resource hresource operation hoperation hfirst
      exact h _ _ _ (find?_of_displaced hresource hoperation hfirst) hfirst

/-- Pets can be listed, and listed by their colour. -/
def colouredPets : Document where
  paths := some <| .ofList [
    ("/pets", {
      get := some { operationId := some "listPets" }
      post := some { operationId := some "addPet" } }),
    ("/pets/\x7bcolor\x7d", {
      get := some { operationId := some "listPetsByColor" }
      delete := some { operationId := some "deletePetsByColor" } })]

/-- The list of all pets gives way to that of a colour, which is no pet. -/
theorem not_yieldsToEntities_of_colouredPets :
    ¬ (colouredPets.survey none none).YieldsToEntities (exposingPaths colouredPets none none) := by
  have hfind : (exposingPaths colouredPets none none "Pet" .get).find? endsInParam =
      some "/pets/\x7bcolor\x7d" := by decide +kernel
  obtain ⟨resource, hresource, hname, operation, hoperation, hmethod, hpath⟩ :=
    exists_operation_of_find? hfind
  intro hyields
  have hentity := hyields resource hresource operation hoperation
    (by rw [hname, hmethod, hpath]; decide +kernel)
  rw [hpath] at hentity
  exact absurd hentity (by decide +kernel)

end ApiKinds
