/-
  The methods of paths, and where a survey shows them.

  * `methods_of_isActionShape`: an action is written to and not read, or only read.
  * `method_of_actionEndpoint?`: of the methods of an action the first of POST, PUT and GET
    becomes that of its endpoint.
  * `Survey.Shows`: a survey shows a method of a path.
  * `survey_shows`: a survey shows every method that is left on a path with a name, but for
    PUT beside the POST of an action, which is nowhere.
-/
import ApiKinds.Proofs.Survey.Merging
import ApiKinds.Proofs.Survey.Pairing

namespace ApiKinds

open Api

/-! ## Methods of endpoints -/

section
variable {doc : Document} {rootKind : Option String} {view : PathView} {method : Method}

theorem methods_of_isActionShape (h : isActionShape view) :
    (∀ method, view.has method → method = .post ∨ method = .put) ∨
      ∀ method, view.has method → method = .get := by
  rw [isActionShape] at h
  split at h
  · cases h
  next hnone =>
  have hnone : ¬ view.has .delete ∧ ¬ view.has .patch := by simpa using hnone
  split at h
  · next hread =>
    have hread : ¬ view.has .post ∧ ¬ view.has .put := by simpa using hread
    refine .inr fun method hhas => ?_
    cases method with
    | get => rfl
    | post => exact absurd hhas hread.1
    | put => exact absurd hhas hread.2
    | patch => exact absurd hhas hnone.2
    | delete => exact absurd hhas hnone.1
  split at h
  · cases h
  next hwritten =>
  have hwritten : ¬ view.has .get := by
    intro hget
    simp [hget] at hwritten
  refine .inl fun method hhas => ?_
  cases method with
  | get => exact absurd hhas hwritten
  | post => exact .inl rfl
  | put => exact .inr rfl
  | patch => exact absurd hhas hnone.2
  | delete => exact absurd hhas hnone.1

theorem method_of_actionEndpoint? {endpoint : ActionEndpoint}
    (h : actionEndpoint? doc rootKind view = some endpoint) :
    view.has endpoint.method ∧ (view.has .post → endpoint.method = .post) ∧
      (view.has .put → endpoint.method = .post ∨ endpoint.method = .put) := by
  simp only [actionEndpoint?, bind, Option.bind_eq_some_iff] at h
  obtain ⟨names, -, ⟨method, operation⟩, hoperation, h⟩ := h
  cases h
  obtain ⟨hfound, hfirst⟩ := method_of_actionOperation? hoperation
  exact ⟨PathView.has_of_operation? hfound, hfirst⟩

/-- The endpoint of an action has all of its methods, unless PUT stands beside POST. -/
theorem eq_method_of_isActionShape {endpoint : ActionEndpoint} (hshape : isActionShape view)
    (h : actionEndpoint? doc rootKind view = some endpoint) (hhas : view.has method) :
    endpoint.method = method ∨ method = .put ∧ view.has .post := by
  obtain ⟨hown, hpost, hput⟩ := method_of_actionEndpoint? h
  rcases methods_of_isActionShape hshape with hwritten | hread
  · rcases hwritten method hhas with rfl | rfl
    · exact .inl (hpost hhas)
    · rcases hput hhas with heq | heq
      · exact .inr ⟨rfl, heq ▸ hown⟩
      · exact .inl heq
  · exact .inl ((hread _ hown).trans (hread method hhas).symm)

/-! ## Methods of findings -/

/-- What a finding says of the methods of its view. -/
def Finding.Fits (view : PathView) : Finding → Prop
  | .action _ _ => isActionShape view
  | .query _ _ => isQueryShape view
  | _ => True

theorem fits_unnamed : (unnamed rootKind view).Fits view := by
  rw [unnamed]
  split <;> trivial

theorem fits_contribution (outcome : Outcome) (name : String) :
    (contribution view outcome name).Fits view := by
  rw [contribution]
  split <;> trivial

/-- Only a path with the shape of an action or a query is found to be one. -/
theorem fits_finding (doc : Document) (rootKind : Option String) (paired : Dict String)
    (view : PathView) : (view.finding doc rootKind paired).Fits view := by
  rw [PathView.finding]
  split
  · trivial
  split
  · exact fits_contribution _ _
  rw [PathView.singleFinding]
  split
  · next haction =>
    split
    · exact haction
    · exact fits_unnamed
  split
  · next hquery =>
    split
    · exact hquery
    · exact fits_unnamed
  · exact fits_contribution _ _

end

/-! ## Where a survey shows a method -/

/-- A survey shows a method of the path of a row. -/
inductive Survey.Shows (survey : Survey) (row : Row) (method : Method) : Prop
  | operation {resource operation} : resource ∈ survey.resources →
      row.kind = some resource.name → operation ∈ resource.operations →
      operation.method = method → Shows survey row method
  | query {endpoint} : endpoint ∈ survey.queryEndpoints → endpoint.path = row.path →
      method = .get → Shows survey row method
  | action {endpoint} : endpoint ∈ survey.actionEndpoints → endpoint.path = row.path →
      endpoint.method = method → Shows survey row method

/-- PUT of an action that is done by POST. -/
structure IsHidden (doc : Document) (filter : Option PathFilter) (row : Row) (method : Method) :
    Prop where
  action : row.outcome = .actionEndpoint
  put : method = .put
  post : Survives doc filter row.path .post

section
variable {doc : Document} {filter : Option PathFilter} {rootKind : Option String}
  {view : PathView} {method : Method}

/-- The row of a path that contributes to a resource shows all methods of the path. -/
theorem shows_of_resource {outcome : Outcome} {name : String}
    (hview : view ∈ (keptViews doc filter).values)
    (h : foundIn doc filter (namedKind? rootKind) view = .resource view outcome name)
    (hhas : view.has method) :
    (doc.survey filter rootKind).Shows (Finding.resource view outcome name).row method := by
  obtain ⟨resource, hresource, hname, operation, hoperation, hmethod⟩ :=
    exists_operation_of_mem_contributions (mem_contributions.2 ⟨hview, outcome, h⟩) hhas
  exact .operation hresource (congrArg some hname.symm) hoperation hmethod

end

/-- A survey shows the methods of paths with a name. -/
structure Survey.ShowsMethods (doc : Document) (filter : Option PathFilter) (survey : Survey) :
    Prop where
  shown : ∀ row ∈ survey.report.rows,
    ¬ (row.outcome.isFiltered ∨ row.outcome = .skipped ∨ row.outcome = .dropped) →
      ∀ method, Survives doc filter row.path method → ¬ IsHidden doc filter row method →
        survey.Shows row method
  /-- Beside the POST of an action nothing with its path is shown. -/
  hidden : ∀ row ∈ survey.report.rows, ∀ method, IsHidden doc filter row method →
    (∀ endpoint ∈ survey.actionEndpoints, endpoint.path = row.path → endpoint.method = .post) ∧
      (∀ endpoint ∈ survey.queryEndpoints, endpoint.path ≠ row.path) ∧
      ∀ resource ∈ survey.resources, ∀ operation ∈ resource.operations, operation.path ≠ row.path

/-- **Every method that is left on a path with a name is shown**, but for PUT of an action
    that is done by POST. -/
theorem survey_shows (doc : Document) (filter : Option PathFilter) (rootKind : Option String) :
    (doc.survey filter rootKind).ShowsMethods doc filter where
  shown row hrow hleft method hsurvives hhidden := by
    obtain ⟨finding, hfinding, rfl⟩ := mem_rows.1 hrow
    rcases mem_findings_iff.1 hfinding with
      ⟨path, -, reason, methods, -, -, rfl⟩ | ⟨view, hview, rfl⟩
    · exact absurd (.inl rfl) hleft
    have hfound := foundIn_foundAt doc filter (namedKind? rootKind) view
    have hfits := fits_finding doc (namedKind? rootKind) (pairs (keptViews doc filter)) view
    have hpath := row_path_of_foundAt hfound
    rw [hpath, survives_iff (mem_keptViews.1 hview)] at hsurvives
    change (foundIn doc filter (namedKind? rootKind) view).Fits view at hfits
    generalize hsort : foundIn doc filter (namedKind? rootKind) view = finding at *
    cases hfound with
    | skipped => exact absurd (.inr (.inl rfl)) hleft
    | dropped => exact absurd (.inr (.inr rfl)) hleft
    | resource => exact shows_of_resource hview hsort hsurvives
    | @query endpoint hquery =>
      have hmem : endpoint ∈ (doc.survey filter rootKind).queryEndpoints :=
        List.mem_filterMap.2 ⟨_, hfinding, rfl⟩
      exact .query hmem (path_of_queryEndpoint? hquery)
        (((isQueryShape_iff view).1 hfits method).1 hsurvives)
    | @action endpoint haction =>
      have hmem : endpoint ∈ (doc.survey filter rootKind).actionEndpoints :=
        List.mem_filterMap.2 ⟨_, hfinding, rfl⟩
      rcases eq_method_of_isActionShape hfits haction hsurvives with heq | ⟨hput, hpost⟩
      · exact .action hmem (path_of_actionEndpoint? haction) heq
      · exact absurd ⟨rfl, hput, view, mem_keptViews.1 hview, hpost⟩ hhidden
  hidden row hrow method hhidden := by
    refine ⟨fun endpoint hendpoint hpath => ?_, ?_, ?_⟩
    · obtain ⟨view, hview, haction⟩ := exists_view_of_action hendpoint
      have hkept := mem_keptViews.1 hview
      rw [← path_of_actionEndpoint? haction, hpath] at hkept
      exact (method_of_actionEndpoint? haction).2.1 ((survives_iff hkept .post).1 hhidden.post)
    · exact path_ne_of_query hrow (by rw [hhidden.action]; decide)
    · exact path_ne_of_operation hrow (by rw [hhidden.action]; decide)

/-- A document with an action that is done by POST and by PUT. -/
def twofoldSync : Document where
  paths := some <| .ofList [
    ("/catalog/sync", {
      post := some { operationId := some "startSync" }
      put := some { operationId := some "changeSync" } })]

/-- Its PUT is shown nowhere, although it is left on a path that is an action. -/
theorem put_unshown_of_twofoldSync : ∃ row ∈ (twofoldSync.survey none none).report.rows,
    row.outcome = .actionEndpoint ∧ Survives twofoldSync none row.path .put ∧
      ¬ (twofoldSync.survey none none).Shows row .put := by
  refine ⟨⟨"/catalog/sync", "POST,PUT", .actionEndpoint, some "CatalogSyncAction", none⟩, ?_, rfl,
    ?_, ?_⟩
  · decide +kernel
  · decide +kernel
  · have hresources : (twofoldSync.survey none none).resources.map (·.name) = [] := by
      decide +kernel
    have hqueries : (twofoldSync.survey none none).queryEndpoints.map (·.path) = [] := by
      decide +kernel
    have hactions : (twofoldSync.survey none none).actionEndpoints.map (·.method) = [.post] := by
      decide +kernel
    intro hshows
    cases hshows with
    | operation hmem => simp [List.map_eq_nil_iff.1 hresources] at hmem
    | query hmem => simp [List.map_eq_nil_iff.1 hqueries] at hmem
    | action hmem _ hput =>
      have hmethod := List.mem_map_of_mem (f := ActionEndpoint.method) hmem
      rw [hactions, List.mem_singleton, hput] at hmethod
      cases hmethod

end ApiKinds
