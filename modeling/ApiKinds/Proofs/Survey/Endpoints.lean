/-
  Paths with the shape of an action or a query, and the endpoints that they have.

  * `PathView.Acts`: an action is only written to, or only read under a name that says that
    something is done; `acts_of_isActionShape`.
  * `endpoint_of_shape`: a view with such a shape has its endpoint, unless it is the root path
    and no root Kind names it; so no other path with such a shape is skipped.
  * `survey_dropsRoot`: the root path is dropped just if it has no name and such a shape; with
    other methods it is skipped.
-/
import ApiKinds.Proofs.Survey.Methods

namespace ApiKinds

open Api

/-! ## Shapes -/

/-- What makes a view an action. -/
inductive PathView.Acts (view : PathView) : Prop
  /-- It is written to, and nothing else is left on it. -/
  | writes : (view.has .post ∨ view.has .put) →
      (∀ method, view.has method → method = .post ∨ method = .put) → Acts view
  /-- It is only read, and its last segment says that something is done. -/
  | reads {last : String} : (∀ method, view.has method ↔ method = .get) →
      (Path.segments view.path).getLast? = some last → Word.isStrongAction last → Acts view

section
variable {view : PathView}

/-- A path has a last segment. -/
theorem getLast?_segments (path : String) :
    (Path.segments path).getLast? = some ((Path.segments path).getLast?.getD "") := by
  rw [List.getLast?_eq_some_getLast (Path.segments_ne_nil path), Option.getD_some]

theorem acts_of_isActionShape (h : isActionShape view) : view.Acts := by
  by_cases hwritten : view.has .post ∨ view.has .put
  · rcases methods_of_isActionShape h with hmethods | hmethods
    · exact .writes hwritten hmethods
    · rcases hwritten with hpost | hput
      · cases hmethods .post hpost
      · cases hmethods .put hput
  · obtain ⟨hpost, hput⟩ := not_or.1 hwritten
    obtain ⟨⟨hdelete, hpatch⟩, ⟨hget, -⟩, hstrong⟩ := by simpa [isActionShape, hpost, hput] using h
    have hquery : isQueryShape view := by
      simp [isQueryShape, hget, hpost, hput, hpatch, hdelete]
    exact .reads ((isQueryShape_iff view).1 hquery) (getLast?_segments view.path) hstrong

/-- The root path has no name that says that something is done, so that it is an action just if
    it is only written to. -/
theorem isActionShape_of_isRoot (hroot : Path.isRoot view.path) :
    isActionShape view ↔ (view.has .post ∨ view.has .put) ∧
      ∀ method, view.has method → method = .post ∨ method = .put := by
  constructor
  · intro h
    cases acts_of_isActionShape h with
    | writes hwritten hmethods => exact ⟨hwritten, hmethods⟩
    | reads _ hlast hstrong =>
      rw [Path.segments_of_isRoot hroot, List.getLast?_singleton, Option.some.injEq] at hlast
      rw [← hlast] at hstrong
      exact absurd hstrong (by decide)
  · rintro ⟨hwritten, hmethods⟩
    have hlacks : ∀ method, method ≠ .post → method ≠ .put → view.has method = false := by
      intro method hpost hput
      rw [Bool.eq_false_iff]
      intro hhas
      rcases hmethods method hhas with heq | heq
      · exact hpost heq
      · exact hput heq
    have hget := hlacks .get (by decide) (by decide)
    have hpatch := hlacks .patch (by decide) (by decide)
    have hdelete := hlacks .delete (by decide) (by decide)
    have hparam : Path.isParam "" = false := by decide
    simpa [isActionShape, Path.segments_of_isRoot hroot, hasInnerParam, hget, hpatch, hdelete,
      hparam, ← not_or] using hwritten

end

/-! ## Endpoints of shapes -/

/-- An action is done by a method that is left on its view, and by reading only if nothing else
    is left and the last segment says that something is done. -/
structure ActionEndpoint.IsDoneBy (endpoint : ActionEndpoint) (view : PathView) : Prop where
  has : view.has endpoint.method
  reads : endpoint.method = .get → (∀ method, view.has method ↔ method = .get) ∧
    ∃ last, (Path.segments view.path).getLast? = some last ∧ Word.isStrongAction last

section
variable {doc : Document} {rootKind : Option String} {view : PathView}

theorem isSome_actionOperation?_iff {action : String} :
    (actionOperation? view action).isSome ↔
      view.has .post ∨ view.has .put ∨ Word.isStrongAction action ∧ view.has .get := by
  simp only [← PathView.operation?_isSome, actionOperation?]
  cases Word.isStrongAction action <;> simp

theorem exists_actionEndpoint (doc : Document) (h : isActionShape view)
    (hname : ¬ Path.IsNameless rootKind view.path) :
    ∃ endpoint, actionEndpoint? doc rootKind view = some endpoint := by
  obtain ⟨names, hnames⟩ := Option.ne_none_iff_exists'.1 (mt actionNames?_eq_none_iff.1 hname)
  have hoperation : (actionOperation? view names.action).isSome := by
    rw [isSome_actionOperation?_iff]
    cases acts_of_isActionShape h with
    | writes hwritten _ =>
      rcases hwritten with hpost | hput
      · exact .inl hpost
      · exact .inr (.inl hput)
    | @reads last hmethods hlast hstrong =>
      -- the root path is no action here, so that the last segment is tested once more
      have hroot : Path.isRoot view.path = false := by
        rw [Bool.eq_false_iff]
        intro hroot
        rcases ((isActionShape_of_isRoot hroot).1 h).1 with hpost | hput
        · cases (hmethods .post).1 hpost
        · cases (hmethods .put).1 hput
      rw [(of_actionNames? hnames hroot).1, hlast, Option.getD_some]
      exact .inr (.inr ⟨hstrong, (hmethods .get).2 rfl⟩)
  obtain ⟨entry, hentry⟩ := Option.isSome_iff_exists.1 hoperation
  simp [actionEndpoint?, hnames, hentry]

theorem isDoneBy_of_shape (h : isActionShape view) {endpoint : ActionEndpoint}
    (haction : actionEndpoint? doc rootKind view = some endpoint) : endpoint.IsDoneBy view := by
  have hhas := (method_of_actionEndpoint? haction).1
  refine ⟨hhas, fun hget => ?_⟩
  rw [hget] at hhas
  cases acts_of_isActionShape h with
  | writes _ hmethods => rcases hmethods .get hhas with heq | heq <;> cases heq
  | @reads last hmethods hlast hstrong => exact ⟨hmethods, last, hlast, hstrong⟩

section
variable (h : Path.IsNameless rootKind view.path)
include h

theorem actionEndpoint?_of_nameless : actionEndpoint? doc rootKind view = none := by
  rw [actionEndpoint?, actionNames?_eq_none_iff.2 h]
  rfl

theorem queryEndpoint?_of_nameless : queryEndpoint? doc rootKind view = none := by
  rw [queryEndpoint?, querySegments?_eq_none_iff.2 h]
  cases view.operation? .get <;> rfl

end

end

/-! ## Findings of shapes -/

section
variable {doc : Document} {rootKind : Option String} {paired : Dict String} {view found : PathView}

theorem outcome_singleFinding_of_shape (h : isActionShape view ∨ isQueryShape view)
    (hname : ¬ Path.IsNameless rootKind view.path) :
    (view.singleFinding doc rootKind paired).row.outcome =
      if isActionShape view then .actionEndpoint else .queryEndpoint := by
  rw [PathView.singleFinding]
  split
  · next haction =>
    obtain ⟨endpoint, hendpoint⟩ := exists_actionEndpoint doc haction hname
    rw [hendpoint]
    rfl
  · next haction =>
    have hquery := h.resolve_left haction
    obtain ⟨endpoint, hendpoint⟩ := exists_queryEndpoint doc hquery hname
    rw [if_pos hquery, hendpoint]
    rfl

theorem unnamed_eq_dropped_iff :
    unnamed rootKind view = .dropped found ↔ Path.IsNameless rootKind view.path ∧ view = found := by
  rw [unnamed, Path.IsNameless, ← Option.isNone_iff_eq_none, ← Bool.and_eq_true]
  split
  · next h => simp [h]
  · next h => simp [h]

/-- Without a name the root path is dropped if it is an action or a query, and else skipped. -/
theorem singleFinding_of_nameless (h : Path.IsNameless rootKind view.path) :
    view.singleFinding doc rootKind paired =
      if isActionShape view ∨ isQueryShape view then .dropped view else .skipped view := by
  have hunnamed : unnamed rootKind view = .dropped view := unnamed_eq_dropped_iff.2 ⟨h, rfl⟩
  have hname : Path.resourceName view.path rootKind = "" := by
    rw [Path.resourceName, if_pos h.1, h.2, Option.getD_none]
  rw [PathView.singleFinding, actionEndpoint?_of_nameless h, queryEndpoint?_of_nameless h, hunnamed,
    hname]
  by_cases haction : isActionShape view
  · simp [haction]
  · by_cases hquery : isQueryShape view <;> simp [haction, hquery, contribution]

/-- Nothing but the root path without a name is dropped. -/
theorem of_finding_eq_dropped (h : view.finding doc rootKind paired = .dropped found) :
    view.operations ≠ [] ∧ Path.IsNameless rootKind view.path := by
  have hcontribution : ∀ outcome name, contribution view outcome name ≠ .dropped found := by
    intro outcome name
    rw [contribution]
    split <;> exact Finding.noConfusion
  rw [PathView.finding] at h
  split at h
  · cases h
  next hops =>
  refine ⟨by simpa using hops, ?_⟩
  split at h
  · exact absurd h (hcontribution _ _)
  rw [PathView.singleFinding] at h
  split at h
  · split at h
    · cases h
    · exact (unnamed_eq_dropped_iff.1 h).1
  split at h
  · split at h
    · cases h
    · exact (unnamed_eq_dropped_iff.1 h).1
  · exact absurd h (hcontribution _ _)

end

/-! ## Shapes and their endpoints -/

/-- The shape of a view is answered by its endpoint. -/
structure PathView.IsAnswered (doc : Document) (rootKind : Option String) (view : PathView) :
    Prop where
  action : isActionShape view → ¬ Path.IsNameless rootKind view.path →
    ∃ endpoint, actionEndpoint? doc rootKind view = some endpoint ∧ endpoint.IsDoneBy view
  query : isQueryShape view → ¬ Path.IsNameless rootKind view.path →
    ∃ endpoint, queryEndpoint? doc rootKind view = some endpoint
  /-- The root path without a root Kind has no endpoint. -/
  nameless : Path.IsNameless rootKind view.path →
    actionEndpoint? doc rootKind view = none ∧ queryEndpoint? doc rootKind view = none
  /-- Another path that is kept, and not folded into an item, is listed as such an endpoint. -/
  listed : ∀ filter, view ∈ (keptViews doc filter).values → Path.isRoot view.path = false →
    isActionShape view ∨ isQueryShape view → (¬ ∃ item, Folds doc filter view.path item) →
      (doc.survey filter rootKind).report.outcome? view.path =
        some (if isActionShape view then .actionEndpoint else .queryEndpoint)

theorem operations_ne_nil_of_shape {view : PathView} (h : isActionShape view ∨ isQueryShape view) :
    view.operations ≠ [] := by
  rcases h with haction | hquery
  · cases acts_of_isActionShape haction with
    | writes hwritten _ =>
      rcases hwritten with hhas | hhas <;> exact PathView.operations_ne_nil_of_has hhas
    | reads hmethods =>
      exact PathView.operations_ne_nil_of_has ((hmethods .get).2 rfl)
  · exact PathView.operations_ne_nil_of_has (((isQueryShape_iff view).1 hquery .get).2 rfl)

/-- **A view with the shape of an action or a query has its endpoint**, unless it is the root path
    without a root Kind. -/
theorem endpoint_of_shape (doc : Document) (rootKind : Option String) (view : PathView) :
    view.IsAnswered doc rootKind where
  action haction hname := by
    obtain ⟨endpoint, hendpoint⟩ := exists_actionEndpoint doc haction hname
    exact ⟨endpoint, hendpoint, isDoneBy_of_shape haction hendpoint⟩
  query := exists_queryEndpoint doc
  nameless hname := ⟨actionEndpoint?_of_nameless hname, queryEndpoint?_of_nameless hname⟩
  listed filter hview hroot hshape hfolds := by
    have hname : ¬ Path.IsNameless (namedKind? rootKind) view.path :=
      Path.not_isNameless _ hroot
    rw [Report.outcome?, row?_of_keptViews (mem_keptViews.1 hview), Option.map_some,
      foundIn_of_not_folds (operations_ne_nil_of_shape hshape) hfolds,
      outcome_singleFinding_of_shape hshape hname]

/-! ## The root path -/

/-- Writing by POST or by PUT is all that is left of a path. -/
def OnlyWritten (doc : Document) (filter : Option PathFilter) (path : String) : Prop :=
  (Survives doc filter path .post ∨ Survives doc filter path .put) ∧
    ∀ method, Survives doc filter path method → method = .post ∨ method = .put

/-- The root path is dropped where it would be an endpoint without a name. -/
structure Survey.DropsRoot (doc : Document) (filter : Option PathFilter)
    (rootKind : Option String) (survey : Survey) : Prop where
  dropped : ∀ path, survey.report.outcome? path = some .dropped ↔
    Path.IsNameless (namedKind? rootKind) path ∧
      (OnlyRead doc filter path ∨ OnlyWritten doc filter path)
  /-- With other methods it would be a resource, which is skipped without a name. -/
  skipped : ∀ path method, Path.IsNameless (namedKind? rootKind) path →
    Survives doc filter path method → ¬ OnlyRead doc filter path → ¬ OnlyWritten doc filter path →
      survey.report.outcome? path = some .skipped
  /-- With a root Kind nothing is dropped. -/
  named : namedKind? rootKind ≠ none → ∀ row ∈ survey.report.rows, row.outcome ≠ .dropped

section
variable {doc : Document} {filter : Option PathFilter} {rootKind : Option String}
  {view : PathView} {path : String}

theorem not_folds_of_isRoot (h : Path.isRoot path) : ¬ ∃ item, Folds doc filter path item := by
  rintro ⟨item, hfolds⟩
  rw [Path.not_isRoot_of_collectionOf? hfolds.collectionOf?] at h
  cases h

/-- What is left of the root path says whether it is an action or a query. -/
theorem shape_of_isRoot (hview : (keptViews doc filter).get? path = some view)
    (hroot : Path.isRoot path) : isActionShape view ∨ isQueryShape view ↔
      OnlyRead doc filter path ∨ OnlyWritten doc filter path := by
  have hpath := path_of_get?_keptViews hview
  rw [← hpath] at hroot
  simp only [OnlyRead, OnlyWritten, survives_iff hview, isQueryShape_iff,
    isActionShape_of_isRoot hroot, or_comm]

/-- The outcome of the root path without a root Kind. -/
theorem outcome?_of_nameless (hname : Path.IsNameless (namedKind? rootKind) path)
    (hview : (keptViews doc filter).get? path = some view) (hops : view.operations ≠ []) :
    (doc.survey filter rootKind).report.outcome? path =
      some (if isActionShape view ∨ isQueryShape view then .dropped else .skipped) := by
  obtain rfl := path_of_get?_keptViews hview
  rw [Report.outcome?, row?_of_keptViews hview, Option.map_some,
    foundIn_of_not_folds hops (not_folds_of_isRoot hname.1), singleFinding_of_nameless hname]
  split <;> rfl

/-- A path that is dropped is the root path without a root Kind, and something is left of it. -/
theorem exists_nameless_of_dropped {row : Row}
    (hrow : row ∈ (doc.survey filter rootKind).report.rows) (h : row.outcome = .dropped) :
    ∃ view, (keptViews doc filter).get? row.path = some view ∧ view.operations ≠ [] ∧
      Path.IsNameless (namedKind? rootKind) row.path := by
  obtain ⟨_, hmem, rfl⟩ := mem_rows.1 hrow
  rcases mem_findings_iff.1 hmem with ⟨path, -, reason, methods, -, -, rfl⟩ | ⟨view, hview, rfl⟩
  · cases h
  have hfound := foundIn_foundAt doc filter (namedKind? rootKind) view
  generalize hfinding : foundIn doc filter (namedKind? rootKind) view = finding at hfound h ⊢
  cases hfound with
  | dropped => exact ⟨view, mem_keptViews.1 hview, of_finding_eq_dropped hfinding⟩
  | @resource outcome _ _ houtcome _ =>
    obtain rfl : outcome = .dropped := h
    cases houtcome
  | _ => cases h

end

/-- **The root path is dropped just if no root Kind names it and it would be an endpoint**: reading
    alone is left of it, or writing by POST or PUT alone. -/
theorem survey_dropsRoot (doc : Document) (filter : Option PathFilter) (rootKind : Option String) :
    (doc.survey filter rootKind).DropsRoot doc filter rootKind where
  dropped path := by
    constructor
    · intro h
      obtain ⟨row, hrow, houtcome⟩ := Option.map_eq_some_iff.1 h
      obtain ⟨hmem, rfl⟩ := row?_eq_some_iff.1 hrow
      obtain ⟨view, hview, hops, hname⟩ := exists_nameless_of_dropped hmem houtcome
      rw [outcome?_of_nameless hname hview hops, Option.some.injEq] at h
      refine ⟨hname, (shape_of_isRoot hview hname.1).1 ?_⟩
      by_contra hshape
      rw [if_neg hshape] at h
      cases h
    · rintro ⟨hname, hleft⟩
      obtain ⟨method, view, hview, hhas⟩ : ∃ method, Survives doc filter path method := by
        rcases hleft with hread | ⟨hpost | hput, -⟩
        · exact ⟨.get, (hread .get).2 rfl⟩
        · exact ⟨.post, hpost⟩
        · exact ⟨.put, hput⟩
      rw [outcome?_of_nameless hname hview (PathView.operations_ne_nil_of_has hhas),
        if_pos ((shape_of_isRoot hview hname.1).2 hleft)]
  skipped path method hname hsurvives hread hwritten := by
    obtain ⟨view, hview, hhas⟩ := hsurvives
    have hshape : ¬ (isActionShape view ∨ isQueryShape view) := by
      rw [shape_of_isRoot hview hname.1, not_or]
      exact ⟨hread, hwritten⟩
    rw [outcome?_of_nameless hname hview (PathView.operations_ne_nil_of_has hhas), if_neg hshape]
  named hkind row hrow houtcome := by
    obtain ⟨view, -, -, hname⟩ := exists_nameless_of_dropped hrow houtcome
    exact hkind hname.2

/-- A document whose root path is read and written to. -/
def readAndWritten : Document where
  paths := some <| .ofList [
    ("/", { get := some { operationId := some "getRoot" }
            post := some { operationId := some "echo" } })]

/-- Without a root Kind it is skipped and not dropped. -/
theorem root_skipped_of_readAndWritten : Path.isRoot "/" ∧ namedKind? none = none ∧
    Survives readAndWritten none "/" .get ∧
      (readAndWritten.survey none none).report.outcome? "/" = some .skipped := by
  decide +kernel

end ApiKinds
