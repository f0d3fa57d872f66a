/-
  Parameters in effect, and what an action shows of them.

  * `overridden_effectiveParameters`: the parameters of an operation take the places of those that
    its path shares, and what is left of them comes last.
  * `paramsAt_shownParams`: a catalog shows all parameters in effect in the path and the query.
  * `ActionEndpoint.Complete`: an action shows them all, but the parameter in the path that
    identifies its parent by its type; `Sorts.complete_iff`: this is so just if none in the query
    has the name of that one.
  * `showsParameters_of_action`: what the actions of a survey show.
-/
import ApiKinds.Proofs.Override
import ApiKinds.Proofs.Survey.Partition

namespace ApiKinds

open Api

/-! ## Overriding -/

/-- A list of parameters is what a path shares, overridden and completed by what an operation
    has of its own. -/
structure Overridden (shared own merged : List Parameter) : Prop where
  /-- A place has the last parameter of the operation, or else the first that is shared. -/
  find : ∀ place, merged.find? (·.place = place) =
    (own.findRev? (·.place = place)).or (shared.find? (·.place = place))
  /-- There is a parameter at a place just if there is one in either list. -/
  mem : ∀ place, place ∈ merged.map (·.place) ↔
    place ∈ shared.map (·.place) ∨ place ∈ own.map (·.place)
  /-- The shared places come first, as they were, and then the others in the order in which
      they first appear. -/
  places : merged.map (·.place) = shared.map (·.place) ++
    ((own.map (·.place)).filter (· ∉ shared.map (·.place))).eraseDups
  /-- A place of the operation alone has one parameter. -/
  once : ∀ place ∈ own.map (·.place), place ∉ shared.map (·.place) →
    (merged.map (·.place)).count place = 1

/-- The order of the places says how often each is there. -/
theorem overridden_of_places {shared own merged : List Parameter}
    (hfind : ∀ place, merged.find? (·.place = place) =
      (own.findRev? (·.place = place)).or (shared.find? (·.place = place)))
    (hplaces : merged.map (·.place) = shared.map (·.place) ++
      ((own.map (·.place)).filter (· ∉ shared.map (·.place))).eraseDups) :
    Overridden shared own merged where
  find := hfind
  mem place := by
    rw [hplaces, List.mem_append, List.mem_eraseDups, List.mem_filter, decide_eq_true_iff]
    by_cases hmem : place ∈ shared.map (·.place)
    · simp [hmem]
    · simp [hmem]
  places := hplaces
  once place hown hshared := by
    rw [hplaces, List.count_append, List.count_eq_zero_of_not_mem hshared, Nat.zero_add]
    refine List.count_eq_one_of_mem (nodup_eraseDups _) ?_
    rw [List.mem_eraseDups, List.mem_filter]
    exact ⟨hown, decide_eq_true hshared⟩

/-- **The parameters of an operation take the places of those that its path shares.** -/
theorem overridden_effectiveParameters (doc : Document) (item : PathItem) (operation : Operation) :
    Overridden (item.parameters.filterMap doc.parameter?)
      (operation.parameters.filterMap doc.parameter?)
      (effectiveParameters doc item operation) := by
  rw [effectiveParameters_eq]
  refine overridden_of_places (fun place => find?_overrideAll Parameter.overrides_iff _ _ place) ?_
  rw [keys_overrideAll Parameter.overrides_iff, List.removeAll]
  simp

/-! ## Parameters in effect -/

/-- The parameters in effect for an operation at a location, as an action shows them. -/
def paramsInEffect (doc : Document) (item : PathItem) (operation : Operation)
    (location : ParamLocation) : List Param :=
  ((effectiveParameters doc item operation).filter (·.location = location.name)).map
    (Param.ofParameter?.shown doc false · location)

/-- The parameters in effect in the path or the query that have a name. -/
def namedInEffect (doc : Document) (item : PathItem) (operation : Operation)
    (name : Option String) : List Parameter :=
  (effectiveParameters doc item operation).filter fun parameter =>
    some parameter.name = name ∧ (parameter.location = "path" ∨ parameter.location = "query")

section
variable {expandArrays : Bool}

theorem ParamLocation.ofName?_eq_some_iff {name : String} {location : ParamLocation} :
    ofName? name = some location ↔ name = location.name := by
  constructor
  · intro h
    have hname := List.find?_some (p := fun location : ParamLocation => location.name == name) h
    exact (beq_iff_eq.1 hname).symm
  · rintro rfl
    cases location <;> decide

/-- A catalog shows the parameters in the path and in the query. -/
theorem ofParameter?_eq (doc : Document) (expandArrays : Bool) (parameter : Parameter) :
    Param.ofParameter? doc expandArrays parameter =
      if parameter.location = "path" then
        some (Param.ofParameter?.shown doc expandArrays parameter .path)
      else if parameter.location = "query" then
        some (Param.ofParameter?.shown doc expandArrays parameter .query)
      else none := by
  rw [Param.ofParameter?]
  cases hlocation : ParamLocation.ofName? parameter.location with
  | none =>
    have hnot : ∀ location : ParamLocation, parameter.location ≠ location.name := by
      intro location hname
      cases hlocation.symm.trans (ParamLocation.ofName?_eq_some_iff.2 hname)
    exact ((if_neg (hnot .path)).trans (if_neg (hnot .query))).symm
  | some location =>
    rw [ParamLocation.ofName?_eq_some_iff.1 hlocation]
    cases location <;> simp [ParamLocation.name]

theorem paramsAt_shownParams {location : ParamLocation} (h : location = .path ∨ location = .query)
    (doc : Document) (item : PathItem) (operation : Operation) :
    paramsAt location (shownParams doc false item operation) =
      paramsInEffect doc item operation location := by
  rw [paramsAt, shownParams, paramsInEffect, List.filter_filterMap, ← List.filterMap_eq_map,
    List.filterMap_filter]
  refine List.filterMap_congr fun parameter _ => ?_
  rw [ofParameter?_eq]
  by_cases hpath : parameter.location = "path"
  · rcases h with rfl | rfl <;>
      simp [hpath, ParamLocation.name, Param.ofParameter?.shown, Option.filter_some]
  by_cases hquery : parameter.location = "query"
  · rcases h with rfl | rfl <;>
      simp [hquery, ParamLocation.name, Param.ofParameter?.shown, Option.filter_some]
  · rcases h with rfl | rfl <;> simp [hpath, hquery, ParamLocation.name]

/-- The types of the parameters with a name are shown wherever they are. -/
theorem types_shownParams (doc : Document) (item : PathItem) (operation : Operation)
    (name : Option String) :
    ((shownParams doc false item operation).filter fun param => some param.name == name).map
        (·.type) =
      (namedInEffect doc item operation name).map (parameterType? doc false) := by
  rw [shownParams, namedInEffect, List.filter_filterMap, List.map_filterMap,
    ← List.filterMap_eq_map, List.filterMap_filter]
  refine List.filterMap_congr fun parameter _ => ?_
  rw [ofParameter?_eq]
  by_cases hpath : parameter.location = "path"
  · by_cases hname : some parameter.name = name <;>
      simp [hpath, hname, Param.ofParameter?.shown, Option.filter_some]
  by_cases hquery : parameter.location = "query"
  · by_cases hname : some parameter.name = name <;>
      simp [hquery, hname, Param.ofParameter?.shown, Option.filter_some]
  · simp [hpath, hquery]

theorem location_of_mem_shownParams {doc : Document} {item : PathItem} {operation : Operation}
    {param : Param} (h : param ∈ shownParams doc expandArrays item operation) :
    param.location = .path ∨ param.location = .query := by
  obtain ⟨parameter, -, hparam⟩ := List.mem_filterMap.1 h
  rw [ofParameter?_eq] at hparam
  split at hparam
  · cases hparam
    exact .inl rfl
  split at hparam
  · cases hparam
    exact .inr rfl
  · cases hparam

end

theorem paramsAt_filter (location : ParamLocation) (keep : Param → Bool) (params : List Param) :
    paramsAt location (params.filter keep) = (paramsAt location params).filter keep := by
  rw [paramsAt, paramsAt, List.filter_filter, List.filter_filter]
  exact List.filter_congr fun param _ => Bool.and_comm ..

/-! ## Sorted parameters -/

namespace ActionEndpoint

/-- A parameter has the name of the one that identifies the parent. -/
def identifies (endpoint : ActionEndpoint) (param : Param) : Bool :=
  some param.name == endpoint.parentIdParam

/-- An action shows all parameters in the path and the query, but the one in the path that
    identifies its parent by its type (that of the last, if there are several). -/
structure Complete (endpoint : ActionEndpoint) (inPath inQuery : List Param) : Prop where
  query : endpoint.queryParams = inQuery
  path : endpoint.pathParams = inPath.filter (!endpoint.identifies ·)
  type : endpoint.parentIdType = (inPath.filter endpoint.identifies).getLast?.bind (·.type)

/-- An action sorts the parameters that have not the name of the one that identifies its parent,
    and shows those that have it by the type of the last. -/
structure Sorts (endpoint : ActionEndpoint) (params : List Param) : Prop where
  query : endpoint.queryParams = paramsAt .query (params.filter (!endpoint.identifies ·))
  path : endpoint.pathParams = paramsAt .path (params.filter (!endpoint.identifies ·))
  type : endpoint.parentIdType = (params.filter endpoint.identifies).getLast?.bind (·.type)

/-- An action that sorts its parameters is complete just if none in the query has the name of the
    one that identifies its parent. -/
theorem Sorts.complete_iff {endpoint : ActionEndpoint} {params : List Param}
    (h : endpoint.Sorts params)
    (hparams : ∀ param ∈ params, param.location = .path ∨ param.location = .query) :
    endpoint.Complete (paramsAt .path params) (paramsAt .query params) ↔
      ∀ param ∈ paramsAt .query params, endpoint.identifies param = false := by
  have hquery := h.query
  have hpath := h.path
  rw [paramsAt_filter] at hquery hpath
  have hall : endpoint.queryParams = paramsAt .query params ↔
      ∀ param ∈ paramsAt .query params, endpoint.identifies param = false := by
    rw [hquery, List.filter_eq_self]
    simp
  refine ⟨fun hcomplete => hall.1 hcomplete.query, fun hnone => ⟨hall.2 hnone, hpath, ?_⟩⟩
  have hsame : (paramsAt .path params).filter endpoint.identifies =
      params.filter endpoint.identifies := by
    rw [paramsAt, List.filter_filter]
    refine List.filter_congr fun param hmem => ?_
    rcases hparams param hmem with hlocation | hlocation
    · simp [hlocation]
    · have hin : param ∈ paramsAt .query params :=
        List.mem_filter.2 ⟨hmem, decide_eq_true hlocation⟩
      simp [hnone param hin]
  rw [hsame, h.type]

end ActionEndpoint

theorem exists_sorts_of_actionEndpoint? {doc : Document} {rootKind : Option String}
    {view : PathView} {endpoint : ActionEndpoint}
    (h : actionEndpoint? doc rootKind view = some endpoint) : ∃ operation,
      view.operation? endpoint.method = some operation ∧
        endpoint.Sorts (shownParams doc false view.item operation) := by
  simp only [actionEndpoint?, bind, Option.bind_eq_some_iff] at h
  obtain ⟨names, -, ⟨method, operation⟩, hoperation, h⟩ := h
  cases h
  exact ⟨operation, (method_of_actionOperation? hoperation).1, rfl, rfl, rfl⟩

/-! ## Parameters of actions -/

/-- What an action shows of the parameters in effect for its operation. -/
structure ShowsParameters (doc : Document) (item : PathItem) (operation : Operation)
    (endpoint : ActionEndpoint) : Prop where
  query : endpoint.queryParams =
    (paramsInEffect doc item operation .query).filter (!endpoint.identifies ·)
  path : endpoint.pathParams =
    (paramsInEffect doc item operation .path).filter (!endpoint.identifies ·)
  /-- The type is that of the last with the name of the one that identifies the parent. -/
  type : endpoint.parentIdType = (namedInEffect doc item operation
    endpoint.parentIdParam).getLast?.bind (parameterType? doc false)
  /-- They are complete just if none in the query has the name of the one that identifies the
      parent. -/
  complete : endpoint.Complete (paramsInEffect doc item operation .path)
      (paramsInEffect doc item operation .query) ↔
    ∀ param ∈ paramsInEffect doc item operation .query, endpoint.identifies param = false

theorem ActionEndpoint.Sorts.showsParameters {doc : Document} {item : PathItem}
    {operation : Operation} {endpoint : ActionEndpoint}
    (h : endpoint.Sorts (shownParams doc false item operation)) :
    ShowsParameters doc item operation endpoint := by
  have hpath := paramsAt_shownParams (.inl rfl) doc item operation
  have hquery := paramsAt_shownParams (.inr rfl) doc item operation
  refine ⟨?_, ?_, ?_, ?_⟩
  · rw [h.query, paramsAt_filter, hquery]
  · rw [h.path, paramsAt_filter, hpath]
  · have htypes := congrArg (fun types : List (Option String) => types.getLast?.bind id)
      (types_shownParams doc item operation endpoint.parentIdParam)
    simp only [List.getLast?_map, Option.bind_map] at htypes
    exact h.type.trans htypes
  · rw [← hpath, ← hquery]
    exact h.complete_iff fun _ => location_of_mem_shownParams

/-- **An action shows all parameters of its operation in the path and the query but those that
    have the name of the one that identifies its parent**, wherever they are. -/
theorem showsParameters_of_action {doc : Document} {filter : Option PathFilter}
    {rootKind : Option String} {endpoint : ActionEndpoint}
    (h : endpoint ∈ (doc.survey filter rootKind).actionEndpoints) :
    ∃ item operation, doc.pathItems.get? endpoint.path = some item ∧
      item.operation? endpoint.method = some operation ∧
      ShowsParameters doc item operation endpoint := by
  obtain ⟨view, hview, haction⟩ := exists_view_of_action h
  obtain ⟨operation, hoperation, hsorts⟩ := exists_sorts_of_actionEndpoint? haction
  rw [path_of_actionEndpoint? haction]
  exact ⟨view.item, operation, get?_pathItems_of_kept hview,
    operation?_item_of_kept hview hoperation, hsorts.showsParameters⟩

/-- An operation with a parameter in the query that has the name of one in the path. -/
def uploadImage : Operation where
  parameters := [
    .inline { name := "petId", location := "path", required := true,
              schema := some (.inline { types := ["integer"] }) },
    .inline { name := "petId", location := "query",
              schema := some (.inline { types := ["string"] }) },
    .inline { name := "caption", location := "query" }]

/-- A path with this operation. -/
def uploadPath : PathItem where
  post := some uploadImage

/-- A document with this path, which is an action. -/
def namesakePets : Document where
  paths := some <| .ofList [("/pets/{petId}/uploadImage", uploadPath)]

theorem shows_of_namesakePets : ∃ endpoint ∈ (namesakePets.survey none none).actionEndpoints,
    endpoint.path = "/pets/{petId}/uploadImage" ∧ endpoint.parentIdParam = some "petId" ∧
      ∃ item operation, namesakePets.pathItems.get? endpoint.path = some item ∧
        item.operation? endpoint.method = some operation ∧
        ShowsParameters namesakePets item operation endpoint := by
  have hactions : (namesakePets.survey none none).actionEndpoints.map
      (fun endpoint => (endpoint.path, endpoint.parentIdParam)) =
      [("/pets/{petId}/uploadImage", some "petId")] := by decide +kernel
  obtain ⟨endpoint, hmem, heq⟩ := List.mem_map.1 (hactions ▸ List.mem_singleton_self _)
  obtain ⟨hpath, hparam⟩ := Prod.mk.inj heq
  exact ⟨endpoint, hmem, hpath, hparam, showsParameters_of_action hmem⟩

/-- Of two parameters that are called `petId`, the one in the query is lost, and its type is
    shown in place of that of the one in the path. -/
theorem incomplete_of_namesakePets : ∃ endpoint ∈ (namesakePets.survey none none).actionEndpoints,
    (endpoint.path = "/pets/{petId}/uploadImage" ∧ endpoint.method = .post) ∧
      endpoint.queryParams.map (·.name) = ["caption"] ∧
      (paramsInEffect namesakePets uploadPath uploadImage .query).map (·.name) =
        ["petId", "caption"] ∧
      endpoint.parentIdType = some "string" ∧
      (paramsInEffect namesakePets uploadPath uploadImage .path).map (·.type) = [some "integer"] ∧
      ¬ endpoint.Complete (paramsInEffect namesakePets uploadPath uploadImage .path)
        (paramsInEffect namesakePets uploadPath uploadImage .query) := by
  have hactions : (namesakePets.survey none none).actionEndpoints.map
      (fun endpoint => ((endpoint.path, endpoint.method), endpoint.queryParams.map (·.name),
        endpoint.parentIdType)) =
      [(("/pets/{petId}/uploadImage", .post), ["caption"], some "string")] := by decide +kernel
  have hnames : (paramsInEffect namesakePets uploadPath uploadImage .query).map (·.name) =
      ["petId", "caption"] := by decide +kernel
  obtain ⟨endpoint, hmem, heq⟩ := List.mem_map.1 (hactions ▸ List.mem_singleton_self _)
  obtain ⟨hplace, hquery, htype⟩ := And.imp_right Prod.mk.inj (Prod.mk.inj heq)
  refine ⟨endpoint, hmem, Prod.mk.inj hplace, hquery, hnames, htype, by decide +kernel, ?_⟩
  intro hcomplete
  rw [hcomplete.query, hnames] at hquery
  exact absurd hquery (by decide)

end ApiKinds
