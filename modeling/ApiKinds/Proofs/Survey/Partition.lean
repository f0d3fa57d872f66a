/-
  The four outputs of a survey agree: every path has one row, and what is listed as a
  query, an action or a resource is what the rows say.

  * `Survey.Agrees`: the agreement, clause by clause.
  * `survey_agrees`: every survey agrees.
-/
import ApiKinds.Proofs.Survey.Drafts
import ApiKinds.Proofs.Survey.Findings

namespace ApiKinds

open Api

/-! ## Rows of findings -/

section
variable {doc : Document} {filter : Option PathFilter} {rootKind : Option String}

theorem mem_contributions {name : String} {view : PathView} :
    (name, view) ∈ (findings doc filter rootKind).filterMap Finding.contribution? ↔
      view ∈ (keptViews doc filter).values ∧
        ∃ outcome, foundIn doc filter rootKind view = .resource view outcome name := by
  rw [filterMap_findings (fun _ _ _ => rfl), List.mem_filterMap]
  constructor
  · rintro ⟨kept, hkept, h⟩
    have hfound := foundIn_foundAt doc filter rootKind kept
    rw [Function.comp_apply] at h
    cases hfinding : foundIn doc filter rootKind kept with
    | resource found outcome found' =>
      rw [hfinding] at h hfound
      cases hfound
      cases h
      exact ⟨hkept, outcome, hfinding⟩
    | _ => rw [hfinding] at h; cases h
  · rintro ⟨hkept, outcome, h⟩
    exact ⟨view, hkept, by rw [Function.comp_apply, h]; rfl⟩

/-- Endpoints of one sort, and the rows that show them, come from the same findings. -/
theorem map_filterMap_eq_rows {α β : Type} {collect : Finding → Option α} {outcome : Outcome}
    {ofEndpoint : α → β} {ofRow : Row → β} {found : List Finding}
    (h : ∀ finding ∈ found, (collect finding).map ofEndpoint =
      if finding.row.outcome = outcome then some (ofRow finding.row) else none) :
    (found.filterMap collect).map ofEndpoint =
      ((found.map Finding.row).filter (·.outcome = outcome)).map ofRow := by
  induction found with
  | nil => rfl
  | cons finding rest ih =>
    have hrest := ih fun other hother => h other (List.mem_cons_of_mem _ hother)
    have hfinding := h finding List.mem_cons_self
    rw [List.filterMap_cons, List.map_cons, List.filter_cons]
    by_cases houtcome : finding.row.outcome = outcome
    · rw [if_pos houtcome, Option.map_eq_some_iff] at hfinding
      obtain ⟨endpoint, hendpoint, hrow⟩ := hfinding
      simp only [hendpoint, houtcome, decide_true, if_true, List.map_cons, hrest, hrow]
    · rw [if_neg houtcome, Option.map_eq_none_iff] at hfinding
      simp only [hfinding, houtcome, decide_false, Bool.false_eq_true, if_false, hrest]

/-- A finding is that of a filtered path, or what can be found at a view. -/
theorem filtered_or_foundAt {finding : Finding} (h : finding ∈ findings doc filter rootKind) :
    (∃ path reason methods, finding = .filtered path reason methods) ∨
      ∃ view, FoundAt doc rootKind view finding := by
  rcases mem_findings_iff.1 h with ⟨path, -, reason, methods, -, -, rfl⟩ | ⟨view, -, rfl⟩
  · exact .inl ⟨path, reason, methods, rfl⟩
  · exact .inr ⟨view, foundIn_foundAt doc filter rootKind view⟩

theorem query?_eq_row {finding : Finding} (h : finding ∈ findings doc filter rootKind) :
    finding.query?.map (fun endpoint => (endpoint.path, some endpoint.name)) =
      if finding.row.outcome = .queryEndpoint then some (finding.row.path, finding.row.kind)
      else none := by
  obtain ⟨path, reason, methods, rfl⟩ | ⟨view, hfound⟩ := filtered_or_foundAt h
  · simp [Finding.query?, Finding.row]
  cases hfound with
  | query hquery => simp [Finding.query?, Finding.row, path_of_queryEndpoint? hquery]
  | @resource outcome name _ houtcome _ =>
    have hne : outcome ≠ .queryEndpoint := by rintro rfl; cases houtcome
    simp [Finding.query?, Finding.row, hne]
  | _ => simp [Finding.query?, Finding.row]

theorem action?_eq_row {finding : Finding} (h : finding ∈ findings doc filter rootKind) :
    finding.action?.map
        (fun endpoint => (endpoint.path, some endpoint.name, endpoint.parentIdParam)) =
      if finding.row.outcome = .actionEndpoint then
        some (finding.row.path, finding.row.kind, finding.row.parentIdParam)
      else none := by
  obtain ⟨path, reason, methods, rfl⟩ | ⟨view, hfound⟩ := filtered_or_foundAt h
  · simp [Finding.action?, Finding.row]
  cases hfound with
  | action haction => simp [Finding.action?, Finding.row, path_of_actionEndpoint? haction]
  | @resource outcome name _ houtcome _ =>
    have hne : outcome ≠ .actionEndpoint := by rintro rfl; cases houtcome
    simp [Finding.action?, Finding.row, hne]
  | _ => simp [Finding.action?, Finding.row]

/-- The row of a resource is that of a path that contributes to it. -/
theorem isResource_row_iff {finding : Finding} (h : finding ∈ findings doc filter rootKind)
    {name : String} : finding.row.outcome.isResource ∧ finding.row.kind = some name ↔
      ∃ view, finding.contribution? = some (name, view) := by
  obtain ⟨path, reason, methods, rfl⟩ | ⟨view, hfound⟩ := filtered_or_foundAt h
  · simp [Finding.contribution?, Finding.row, Outcome.isResource]
  cases hfound with
  | resource _ houtcome _ => simp [Finding.contribution?, Finding.row, houtcome]
  | _ => simp [Finding.contribution?, Finding.row, Outcome.isResource]

end

/-! ## Rows of a survey -/

section
variable {doc : Document} {filter : Option PathFilter} {rootKind : Option String}

theorem mem_rows {row : Row} : row ∈ (doc.survey filter rootKind).report.rows ↔
    ∃ finding ∈ findings doc filter (namedKind? rootKind), finding.row = row :=
  List.mem_map

theorem paths_rows (doc : Document) (filter : Option PathFilter) (rootKind : Option String) :
    (doc.survey filter rootKind).report.rows.map (·.path) = doc.pathItems.keys :=
  (List.map_map ..).trans (paths_findings ..)

/-- No path has two rows. -/
theorem eq_of_path_eq {a b : Row} (ha : a ∈ (doc.survey filter rootKind).report.rows)
    (hb : b ∈ (doc.survey filter rootKind).report.rows) (h : a.path = b.path) : a = b := by
  obtain ⟨found, hfound, rfl⟩ := mem_rows.1 ha
  obtain ⟨other, hother, rfl⟩ := mem_rows.1 hb
  rw [eq_of_row_path hfound hother h]

/-- The row that is found for a path has this path. -/
theorem path_of_row? {report : Report} {path : String} {row : Row}
    (h : report.row? path = some row) : row.path = path := by
  rw [Report.row?] at h
  simpa using List.find?_some h

/-- The row of a path is the only one with this path. -/
theorem row?_eq_some_iff {path : String} {row : Row} :
    (doc.survey filter rootKind).report.row? path = some row ↔
      row ∈ (doc.survey filter rootKind).report.rows ∧ row.path = path := by
  constructor
  · intro h
    exact ⟨List.mem_of_find?_eq_some h, path_of_row? h⟩
  · rintro ⟨hrow, rfl⟩
    obtain ⟨other, hother⟩ : ∃ other,
        (doc.survey filter rootKind).report.row? row.path = some other :=
      Option.isSome_iff_exists.1 (List.find?_isSome.2 ⟨row, hrow, beq_self_eq_true _⟩)
    rw [hother, eq_of_path_eq (List.mem_of_find?_eq_some hother) hrow (path_of_row? hother)]

/-- The row of a kept path is that of its finding. -/
theorem row?_of_keptViews {path : String} {view : PathView}
    (h : (keptViews doc filter).get? path = some view) :
    (doc.survey filter rootKind).report.row? path =
      some (foundIn doc filter (namedKind? rootKind) view).row := by
  obtain rfl := path_of_get?_keptViews h
  refine row?_eq_some_iff.2 ⟨mem_rows.2 ⟨_, foundIn_mem_findings (mem_keptViews.2 h), rfl⟩, ?_⟩
  exact row_path_of_foundAt (foundIn_foundAt doc filter (namedKind? rootKind) view)

/-- What is collected from the finding at a path. -/
theorem filter_filterMap_findings {α : Type} {collect : Finding → Option α} {pathOf : α → String}
    (h : ∀ finding ∈ findings doc filter rootKind, ∀ a, collect finding = some a →
      pathOf a = finding.row.path) (path : String) :
    ((findings doc filter rootKind).filterMap collect).filter (pathOf · = path) =
      ((findingAt? doc filter rootKind path).bind collect).toList := by
  have hpaths : ((findings doc filter rootKind).filterMap collect).filter (pathOf · = path) =
      ((findings doc filter rootKind).filter (·.row.path = path)).filterMap collect := by
    rw [List.filter_filterMap, List.filterMap_filter]
    refine List.filterMap_congr fun finding hfinding => ?_
    cases hcollect : collect finding with
    | none => simp
    | some a => simp [Option.filter_some, h finding hfinding a hcollect]
  rw [hpaths, filter_findings]
  cases findingAt? doc filter rootKind path with
  | none => rfl
  | some finding => cases hcollect : collect finding <;> simp [hcollect]

/-- The row of a path is that of its finding. -/
theorem row?_eq_findingAt? {path : String} : (doc.survey filter rootKind).report.row? path =
    (findingAt? doc filter (namedKind? rootKind) path).map Finding.row := by
  rw [Report.row?, Document.survey, Survey.ofFindings, List.find?_map, ← List.head?_filter]
  have hpaths := filter_findings doc filter (namedKind? rootKind) path
  simp only [Function.comp_def, beq_eq_decide]
  rw [hpaths]
  cases findingAt? doc filter (namedKind? rootKind) path <;> rfl

theorem queries_at {path : String} :
    (doc.survey filter rootKind).queryEndpoints.filter (·.path = path) =
      ((findingAt? doc filter (namedKind? rootKind) path).bind Finding.query?).toList := by
  refine filter_filterMap_findings (fun finding hfinding endpoint hendpoint => ?_) path
  have hrow := query?_eq_row hfinding
  rw [hendpoint] at hrow
  split at hrow
  · exact congrArg Prod.fst (Option.some.inj hrow)
  · cases hrow

theorem actions_at {path : String} :
    (doc.survey filter rootKind).actionEndpoints.filter (·.path = path) =
      ((findingAt? doc filter (namedKind? rootKind) path).bind Finding.action?).toList := by
  refine filter_filterMap_findings (fun finding hfinding endpoint hendpoint => ?_) path
  have hrow := action?_eq_row hfinding
  rw [hendpoint] at hrow
  split at hrow
  · exact congrArg Prod.fst (Option.some.inj hrow)
  · cases hrow

/-- The row of a resource is that of a finding at a kept path. -/
theorem exists_found_of_isResource {row : Row}
    (h : row ∈ (doc.survey filter rootKind).report.rows) (hrow : row.outcome.isResource) :
    ∃ view name, (keptViews doc filter).get? row.path = some view ∧ row.kind = some name ∧
      foundIn doc filter (namedKind? rootKind) view = .resource view row.outcome name := by
  obtain ⟨_, hmem, rfl⟩ := mem_rows.1 h
  rcases mem_findings_iff.1 hmem with ⟨path, -, reason, methods, -, -, rfl⟩ | ⟨view, hview, rfl⟩
  · simp [Finding.row, Outcome.isResource] at hrow
  have hfound := foundIn_foundAt doc filter (namedKind? rootKind) view
  generalize hfinding : foundIn doc filter (namedKind? rootKind) view = finding at hfound hrow ⊢
  cases hfound with
  | @resource outcome name _ _ _ => exact ⟨view, name, mem_keptViews.1 hview, rfl, hfinding⟩
  | _ => simp [Finding.row, Outcome.isResource] at hrow

/-- A path that is left out has no name. -/
theorem kind_eq_none_of_left {row : Row} (h : row ∈ (doc.survey filter rootKind).report.rows)
    (hleft : row.outcome.isFiltered ∨ row.outcome = .skipped ∨ row.outcome = .dropped) :
    row.kind = none := by
  obtain ⟨finding, hfinding, rfl⟩ := mem_rows.1 h
  obtain ⟨path, reason, methods, rfl⟩ | ⟨view, hfound⟩ := filtered_or_foundAt hfinding
  · rfl
  cases hfound with
  | @resource outcome _ _ houtcome _ =>
    exfalso
    rw [Finding.row] at hleft
    cases outcome <;> simp [Outcome.isResource, Outcome.isFiltered] at houtcome hleft
  | skipped | dropped => rfl
  | _ => simp [Finding.row, Outcome.isFiltered] at hleft

/-- The filtered rows are those of the paths that the filter drops. -/
theorem length_filtered (doc : Document) (filter : Option PathFilter) (rootKind : Option String) :
    ((decisions doc filter).values.filter fun decision => decision.view?.isNone).length =
      ((doc.survey filter rootKind).report.rows.filter (·.outcome.isFiltered)).length := by
  have hrows : (doc.survey filter rootKind).report.rows = _ :=
    congrArg (List.map Finding.row) (findings_eq_map doc filter (namedKind? rootKind))
  rw [hrows, Dict.values, List.map_map, List.filter_map, List.filter_map, List.length_map,
    List.length_map]
  congr 1
  apply List.filter_congr
  rintro ⟨path, decision⟩ -
  cases decision with
  | drop reason methods => rfl
  | keep view =>
    have hfound := foundIn_foundAt doc filter (namedKind? rootKind) view
    have hrow : (foundIn doc filter (namedKind? rootKind) view).row.outcome.isFiltered = false := by
      generalize foundIn doc filter (namedKind? rootKind) view = finding at hfound
      cases hfound with
      | @resource outcome _ _ houtcome _ => cases outcome <;> first | rfl | cases houtcome
      | _ => rfl
    exact hrow.symm

/-- The view behind the row of a resource. -/
theorem exists_view_of_isResource {row : Row} {name : String}
    (h : row ∈ (doc.survey filter rootKind).report.rows) (houtcome : row.outcome.isResource)
    (hkind : row.kind = some name) :
    ∃ view, (name, view) ∈ (findings doc filter (namedKind? rootKind)).filterMap
      Finding.contribution? ∧ view.path = row.path := by
  obtain ⟨finding, hfinding, rfl⟩ := mem_rows.1 h
  obtain ⟨view, hview⟩ := (isResource_row_iff hfinding).1 ⟨houtcome, hkind⟩
  refine ⟨view, List.mem_filterMap.2 ⟨finding, hfinding, hview⟩, ?_⟩
  cases finding <;> cases hview
  rfl

/-- The row of a path that contributes to a resource. -/
theorem exists_row_of_mem_contributions {name : String} {view : PathView}
    (h : (name, view) ∈ (findings doc filter (namedKind? rootKind)).filterMap
      Finding.contribution?) :
    ∃ row ∈ (doc.survey filter rootKind).report.rows,
      row.outcome.isResource ∧ row.kind = some name ∧ row.path = view.path := by
  obtain ⟨hkept, outcome, hfound⟩ := mem_contributions.1 h
  have hmem : foundIn doc filter (namedKind? rootKind) view ∈
      findings doc filter (namedKind? rootKind) := foundIn_mem_findings hkept
  have hsort := foundIn_foundAt doc filter (namedKind? rootKind) view
  rw [hfound] at hmem hsort
  cases hsort with
  | resource _ houtcome _ =>
    exact ⟨_, mem_rows.2 ⟨_, hmem, rfl⟩, houtcome, rfl, rfl⟩

/-- The view that is found to be an action. -/
theorem exists_found_of_action {endpoint : ActionEndpoint}
    (h : endpoint ∈ (doc.survey filter rootKind).actionEndpoints) :
    ∃ view ∈ (keptViews doc filter).values,
      foundIn doc filter (namedKind? rootKind) view = .action view endpoint ∧
        actionEndpoint? doc (namedKind? rootKind) view = some endpoint := by
  obtain ⟨view, hview, hendpoint⟩ := exists_view_of_mem_filterMap (fun _ _ _ => rfl) h
  have hfound := foundIn_foundAt doc filter (namedKind? rootKind) view
  generalize hfinding : foundIn doc filter (namedKind? rootKind) view = finding at hfound hendpoint
  cases hfound with
  | action haction =>
    cases hendpoint
    exact ⟨view, hview, hfinding, haction⟩
  | _ => cases hendpoint

/-- The view that an action comes from. -/
theorem exists_view_of_action {endpoint : ActionEndpoint}
    (h : endpoint ∈ (doc.survey filter rootKind).actionEndpoints) :
    ∃ view ∈ (keptViews doc filter).values,
      actionEndpoint? doc (namedKind? rootKind) view = some endpoint := by
  obtain ⟨view, hview, -, haction⟩ := exists_found_of_action h
  exact ⟨view, hview, haction⟩

/-- The view that a query comes from. -/
theorem exists_view_of_query {endpoint : QueryEndpoint}
    (h : endpoint ∈ (doc.survey filter rootKind).queryEndpoints) :
    ∃ view ∈ (keptViews doc filter).values,
      queryEndpoint? doc (namedKind? rootKind) view = some endpoint := by
  obtain ⟨view, hview, hendpoint⟩ := exists_view_of_mem_filterMap (fun _ _ _ => rfl) h
  have hfound := foundIn_foundAt doc filter (namedKind? rootKind) view
  generalize foundIn doc filter (namedKind? rootKind) view = finding at hfound hendpoint
  cases hfound with
  | query hquery =>
    cases hendpoint
    exact ⟨view, hview, hquery⟩
  | _ => cases hendpoint

/-- The view that an operation of a resource comes from. -/
theorem exists_view_of_operation {resource : Resource} {operation : ResourceOperation}
    (hresource : resource ∈ (doc.survey filter rootKind).resources)
    (hoperation : operation ∈ resource.operations) :
    ∃ view, (resource.name, view) ∈ (findings doc filter (namedKind? rootKind)).filterMap
      Finding.contribution? ∧ view.has operation.method ∧ operation.path = view.path := by
  obtain ⟨draft, hholds, hdraft⟩ := exists_draft_of_mem_gather hresource
  rw [hdraft] at hoperation
  obtain ⟨view, raw, hsource, -, heq⟩ := hholds.mem_operations hoperation
  obtain ⟨hmem, hhas⟩ := sourceFor?_mem hsource
  exact ⟨view, mem_viewsOf.1 hmem, hhas, by rw [heq]; rfl⟩

theorem queries_eq_rows (doc : Document) (filter : Option PathFilter) (rootKind : Option String) :
    (doc.survey filter rootKind).queryEndpoints.map
        (fun endpoint => (endpoint.path, some endpoint.name)) =
      ((doc.survey filter rootKind).report.rows.filter (·.outcome = .queryEndpoint)).map
        fun row => (row.path, row.kind) :=
  map_filterMap_eq_rows fun _ => query?_eq_row

theorem actions_eq_rows (doc : Document) (filter : Option PathFilter) (rootKind : Option String) :
    (doc.survey filter rootKind).actionEndpoints.map
        (fun endpoint => (endpoint.path, some endpoint.name, endpoint.parentIdParam)) =
      ((doc.survey filter rootKind).report.rows.filter (·.outcome = .actionEndpoint)).map
        fun row => (row.path, row.kind, row.parentIdParam) :=
  map_filterMap_eq_rows fun _ => action?_eq_row

theorem exists_row_of_query {endpoint : QueryEndpoint}
    (h : endpoint ∈ (doc.survey filter rootKind).queryEndpoints) :
    ∃ row ∈ (doc.survey filter rootKind).report.rows,
      row.path = endpoint.path ∧ row.outcome = .queryEndpoint := by
  have hmem := List.mem_map_of_mem (f := fun endpoint => (endpoint.path, some endpoint.name)) h
  rw [queries_eq_rows] at hmem
  obtain ⟨row, hrow, heq⟩ := List.mem_map.1 hmem
  obtain ⟨hrow, houtcome⟩ := List.mem_filter.1 hrow
  exact ⟨row, hrow, (Prod.mk.inj heq).1, of_decide_eq_true houtcome⟩

theorem exists_row_of_action {endpoint : ActionEndpoint}
    (h : endpoint ∈ (doc.survey filter rootKind).actionEndpoints) :
    ∃ row ∈ (doc.survey filter rootKind).report.rows,
      row.path = endpoint.path ∧ row.outcome = .actionEndpoint := by
  have hmem := List.mem_map_of_mem
    (f := fun endpoint => (endpoint.path, some endpoint.name, endpoint.parentIdParam)) h
  rw [actions_eq_rows] at hmem
  obtain ⟨row, hrow, heq⟩ := List.mem_map.1 hmem
  obtain ⟨hrow, houtcome⟩ := List.mem_filter.1 hrow
  exact ⟨row, hrow, (Prod.mk.inj heq).1, of_decide_eq_true houtcome⟩

/-- The row of the path of an endpoint has its outcome. -/
theorem path_ne_of_query {row : Row} (hrow : row ∈ (doc.survey filter rootKind).report.rows)
    (hne : row.outcome ≠ .queryEndpoint) :
    ∀ endpoint ∈ (doc.survey filter rootKind).queryEndpoints, endpoint.path ≠ row.path := by
  intro endpoint hmem hpath
  obtain ⟨other, hother, hotherPath, houtcome⟩ := exists_row_of_query hmem
  exact hne (eq_of_path_eq hother hrow (hotherPath.trans hpath) ▸ houtcome)

theorem path_ne_of_action {row : Row} (hrow : row ∈ (doc.survey filter rootKind).report.rows)
    (hne : row.outcome ≠ .actionEndpoint) :
    ∀ endpoint ∈ (doc.survey filter rootKind).actionEndpoints, endpoint.path ≠ row.path := by
  intro endpoint hmem hpath
  obtain ⟨other, hother, hotherPath, houtcome⟩ := exists_row_of_action hmem
  exact hne (eq_of_path_eq hother hrow (hotherPath.trans hpath) ▸ houtcome)

/-- The row of the path of an operation is that of a resource. -/
theorem path_ne_of_operation {row : Row} (hrow : row ∈ (doc.survey filter rootKind).report.rows)
    (hne : ¬ row.outcome.isResource) : ∀ resource ∈ (doc.survey filter rootKind).resources,
      ∀ operation ∈ resource.operations, operation.path ≠ row.path := by
  intro resource hresource operation hoperation hpath
  obtain ⟨view, hview, -, hviewPath⟩ := exists_view_of_operation hresource hoperation
  obtain ⟨other, hother, houtcome, -, hotherPath⟩ := exists_row_of_mem_contributions hview
  have hsame : other.path = row.path := hotherPath.trans (hviewPath.symm.trans hpath)
  exact hne (eq_of_path_eq hother hrow hsame ▸ houtcome)

end

/-! ## Agreement -/

/-- The four outputs of a survey agree. -/
structure Survey.Agrees (doc : Document) (filter : Option PathFilter) (survey : Survey)
    (notices : List Notice) : Prop where
  /-- Every path has one row, in path order. -/
  rows : survey.report.rows.map (·.path) = doc.pathItems.keys
  /-- The queries are those of the query rows, in order. -/
  queries : survey.queryEndpoints.map (fun endpoint => (endpoint.path, some endpoint.name)) =
    (survey.report.rows.filter (·.outcome = .queryEndpoint)).map fun row => (row.path, row.kind)
  /-- The actions are those of the action rows, in order. -/
  actions : survey.actionEndpoints.map
      (fun endpoint => (endpoint.path, some endpoint.name, endpoint.parentIdParam)) =
    (survey.report.rows.filter (·.outcome = .actionEndpoint)).map
      fun row => (row.path, row.kind, row.parentIdParam)
  /-- The resources are those that resource rows name. -/
  resources : ∀ name, name ∈ survey.resources.map (·.name) ↔
    ∃ row ∈ survey.report.rows, row.outcome.isResource ∧ row.kind = some name
  /-- An operation of a resource comes from the path of such a row, where it survives. -/
  operations : ∀ resource ∈ survey.resources, ∀ operation ∈ resource.operations,
    (∃ row ∈ survey.report.rows, row.outcome.isResource ∧ row.kind = some resource.name ∧
      row.path = operation.path) ∧ Survives doc filter operation.path operation.method
  /-- A path that is filtered, skipped or dropped has no name and is nowhere else. -/
  left : ∀ row ∈ survey.report.rows,
    row.outcome.isFiltered ∨ row.outcome = .skipped ∨ row.outcome = .dropped →
      row.kind = none ∧ (∀ endpoint ∈ survey.queryEndpoints, endpoint.path ≠ row.path) ∧
      (∀ endpoint ∈ survey.actionEndpoints, endpoint.path ≠ row.path) ∧
      ∀ resource ∈ survey.resources, ∀ operation ∈ resource.operations, operation.path ≠ row.path
  /-- An observer is first told how many rows there are, and how many of them are filtered. -/
  counts : notices.head? = some (.opening survey.report.rows.length
    (survey.report.rows.filter (·.outcome.isFiltered)).length)

/-- An observer is told of the report. -/
theorem notices_eq (doc : Document) (filter : Option PathFilter) (rootKind : Option String) :
    doc.notices filter rootKind = (doc.survey filter rootKind).report.notices := by
  have hsize : (decisions doc filter).size = (doc.survey filter rootKind).report.rows.length := by
    rw [← List.length_map (f := Row.path), paths_rows, ← keys_decisions doc filter, Dict.keys,
      List.length_map, Dict.size]
  rw [Document.notices, Report.notices, Report.filteredCount, hsize,
    ← length_filtered doc filter rootKind]
  simp [Document.survey, Survey.ofFindings]

/-- **Every path has one outcome, and all outputs of a survey agree on it.** -/
theorem survey_agrees (doc : Document) (filter : Option PathFilter) (rootKind : Option String) :
    (doc.survey filter rootKind).Agrees doc filter (doc.notices filter rootKind) where
  rows := paths_rows doc filter rootKind
  queries := queries_eq_rows doc filter rootKind
  actions := actions_eq_rows doc filter rootKind
  resources name := by
    rw [show (doc.survey filter rootKind).resources = gather doc _ from rfl, mem_names_gather]
    constructor
    · rintro ⟨view, hview⟩
      obtain ⟨row, hrow, houtcome, hkind, -⟩ := exists_row_of_mem_contributions hview
      exact ⟨row, hrow, houtcome, hkind⟩
    · rintro ⟨row, hrow, houtcome, hkind⟩
      obtain ⟨view, hview, -⟩ := exists_view_of_isResource hrow houtcome hkind
      exact ⟨view, hview⟩
  operations resource hresource operation hoperation := by
    obtain ⟨view, hview, hhas, hpath⟩ := exists_view_of_operation hresource hoperation
    obtain ⟨row, hrow, houtcome, hkind, hrowPath⟩ := exists_row_of_mem_contributions hview
    refine ⟨⟨row, hrow, houtcome, hkind, hrowPath.trans hpath.symm⟩, view, ?_, hhas⟩
    rw [hpath]
    exact mem_keptViews.1 (mem_contributions.1 hview).1
  left row hrow hleft := by
    have hquery : row.outcome ≠ .queryEndpoint := by
      intro h; simp [h, Outcome.isFiltered] at hleft
    have haction : row.outcome ≠ .actionEndpoint := by
      intro h; simp [h, Outcome.isFiltered] at hleft
    have hresource : ¬ row.outcome.isResource := by
      intro h
      cases houtcome : row.outcome <;>
        simp [houtcome, Outcome.isResource, Outcome.isFiltered] at h hleft
    exact ⟨kind_eq_none_of_left hrow hleft, path_ne_of_query hrow hquery,
      path_ne_of_action hrow haction, path_ne_of_operation hrow hresource⟩
  counts := by rw [notices_eq]; rfl

end ApiKinds
