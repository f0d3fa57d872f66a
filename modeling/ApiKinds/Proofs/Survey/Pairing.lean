/-
  Collections that are folded into an item: which they are, and what the rows of the
  collection and of its item say.

  * `Folds`: the collection and its first item, with the methods that make them a pair.
  * `get?_pairs`: these are the pairs that a survey starts from.
  * `exists_queryEndpoint`: a path that is only read is a query, unless it has no name.
  * `contributesAs_of_foundIn`: what a path contributes as follows from the pairs alone.
  * `survey_pairs`: collection and item belong to one resource, unless the item is only
    read or is itself folded into another.
-/
import ApiKinds.Proofs.Path
import ApiKinds.Proofs.Survey.Partition

namespace ApiKinds

open Api

/-! ## Pairs -/

/-- The first of the kept paths that address an entity of a collection. -/
def firstItem? (doc : Document) (filter : Option PathFilter) (collection : String) :
    Option String :=
  (keptViews doc filter).keys.find? fun path => Path.collectionOf? path = some collection

/-- A collection is folded into an item: it is written to, and the item, its first one, can be
    read, replaced or deleted. -/
structure Folds (doc : Document) (filter : Option PathFilter) (collection item : String) :
    Prop where
  post : Survives doc filter collection .post
  first : firstItem? doc filter collection = some item
  item : Survives doc filter item .get ∨ Survives doc filter item .put ∨
    Survives doc filter item .delete

section
variable {doc : Document} {filter : Option PathFilter} {rootKind : Option String}
  {collection item : String} {view : PathView}

theorem survives_iff (h : (keptViews doc filter).get? item = some view) (method : Method) :
    Survives doc filter item method ↔ view.has method := by
  constructor
  · rintro ⟨other, hother, hhas⟩
    rwa [Option.some.inj (h.symm.trans hother)]
  · intro hhas
    exact ⟨view, h, hhas⟩

/-- What is looked up by its collection is the first view with this collection. -/
theorem get?_itemsByCollection (collection : String) (kept : List PathView) :
    Entries.get? collection (itemsByCollection kept) =
      kept.find? fun view => Path.collectionOf? view.path = some collection := by
  induction kept with
  | nil => rfl
  | cons view rest ih =>
    rw [itemsByCollection] at ih ⊢
    rw [List.filterMap_cons, List.find?_cons]
    cases hview : Path.collectionOf? view.path with
    | none => simpa using ih
    | some other =>
      rw [Option.map_some, Entries.get?]
      by_cases hsame : collection = other
      · simp [hsame]
      · simpa [hsame, Ne.symm hsame] using ih

theorem firstItem?_eq_map (doc : Document) (filter : Option PathFilter) (collection : String) :
    firstItem? doc filter collection =
      (Entries.get? collection (itemsByCollection (keptViews doc filter).values)).map (·.path) := by
  simp only [firstItem?, ← paths_keptViews, List.find?_map, get?_itemsByCollection,
    Function.comp_def]

theorem pairedItem?_eq_some_iff {items : List (String × PathView)} :
    pairedItem? items view = some item ↔ view.has .post ∧
      ∃ found, Entries.get? view.path items = some found ∧
        (found.has .get ∨ found.has .put ∨ found.has .delete) ∧ found.path = item := by
  rw [pairedItem?]
  cases Entries.get? view.path items with
  | none => simp
  | some found => simp [or_assoc]

/-- The pairs of a survey are the collections that are folded into an item. -/
theorem get?_pairs :
    (pairs (keptViews doc filter)).get? collection = some item ↔
      Folds doc filter collection item := by
  have hmem : ∀ {found}, Entries.get? collection (itemsByCollection (keptViews doc filter).values) =
      some found → (keptViews doc filter).get? found.path = some found := by
    intro found h
    rw [get?_itemsByCollection] at h
    exact mem_keptViews.1 (List.mem_of_find?_eq_some h)
  simp only [pairs, Dict.get?_filterMap_eq_some_iff, pairedItem?_eq_some_iff]
  constructor
  · rintro ⟨view, hview, hpost, found, hfound, hhas, rfl⟩
    rw [path_of_get?_keptViews hview] at hfound
    exact ⟨⟨view, hview, hpost⟩, by rw [firstItem?_eq_map, hfound]; rfl, by
      simpa only [survives_iff (hmem hfound)] using hhas⟩
  · rintro ⟨⟨view, hview, hpost⟩, hfirst, hitem⟩
    rw [firstItem?_eq_map, Option.map_eq_some_iff] at hfirst
    obtain ⟨found, hfound, rfl⟩ := hfirst
    refine ⟨view, hview, hpost, found, by rwa [path_of_get?_keptViews hview], ?_, rfl⟩
    simpa only [survives_iff (hmem hfound)] using hitem

/-- The item of a collection addresses an entity of it. -/
theorem Folds.collectionOf? (h : Folds doc filter collection item) :
    Path.collectionOf? item = some collection := by
  have hfirst := h.first
  rw [firstItem?] at hfirst
  simpa using List.find?_some hfirst

theorem Folds.exists_view (h : Folds doc filter collection item) :
    ∃ view, (keptViews doc filter).get? item = some view := by
  have hfirst := h.first
  rw [firstItem?] at hfirst
  exact Dict.mem_keys.1 (List.mem_of_find?_eq_some hfirst)

end

/-! ## Names of endpoints -/

section
variable {rootKind : Option String} {path : String}

theorem actionNames?_eq_none_iff :
    actionNames? rootKind path = none ↔ Path.IsNameless rootKind path := by
  rw [actionNames?, Path.IsNameless]
  split
  · next hroot => simp [hroot]
  · next hroot => simp [hroot]

theorem querySegments?_eq_none_iff :
    querySegments? rootKind path = none ↔ Path.IsNameless rootKind path := by
  rw [querySegments?, Path.IsNameless]
  split
  · next hroot => simp [hroot]
  · next hroot => simp [hroot]

/-- The action of a path other than the root is its last segment, and its parent is one of
    the path. -/
theorem of_actionNames? {names : ActionNames} (h : actionNames? rootKind path = some names)
    (hroot : Path.isRoot path = false) :
    names.action = (Path.segments path).getLast?.getD "" ∧
      names.parent = parentOf? (Path.segments path) := by
  rw [actionNames?, hroot, if_neg Bool.false_ne_true, Option.some.injEq] at h
  simp only [← h, and_self]

end

/-! ## Findings of pairs -/

section
variable {doc : Document} {rootKind : Option String} {paired : Dict String} {view found : PathView}
  {outcome outcome' : Outcome} {name name' : String}

theorem contribution_eq_resource_iff :
    contribution view outcome name = .resource found outcome' name' ↔
      name ≠ "" ∧ view = found ∧ outcome = outcome' ∧ name = name' := by
  rw [contribution]
  by_cases hname : name = ""
  · simp [hname]
  · simp [hname]

theorem finding_of_paired {item : String} (hops : view.operations ≠ [])
    (h : paired.get? view.path = some item) : view.finding doc rootKind paired =
      contribution view .resourceCollection (Path.resourceName item rootKind) := by
  rw [PathView.finding, if_neg (by simpa using hops), h]

theorem finding_of_unpaired (hops : view.operations ≠ []) (h : paired.get? view.path = none) :
    view.finding doc rootKind paired = view.singleFinding doc rootKind paired := by
  rw [PathView.finding, if_neg (by simpa using hops), h]

/-- Only a path that is neither an action nor a query contributes to a resource on its own. -/
theorem of_singleFinding_eq_resource
    (h : view.singleFinding doc rootKind paired = .resource found outcome name) :
    contribution view (if isItemOf paired view.path then .resourceItem else .resource)
      (Path.resourceName view.path rootKind) = .resource found outcome name := by
  have hunnamed : unnamed rootKind view ≠ .resource found outcome name := by
    rw [unnamed]
    split <;> exact Finding.noConfusion
  rw [PathView.singleFinding] at h
  split at h
  · split at h
    · cases h
    · exact absurd h hunnamed
  split at h
  · split at h
    · cases h
    · exact absurd h hunnamed
  · exact h

/-- A path that ends in a parameter is no action. -/
theorem isActionShape_of_isParam {last : String}
    (h : (Path.segments view.path).getLast? = some last) (hlast : Path.isParam last) :
    isActionShape view = false := by
  simp only [isActionShape, h, Option.getD_some, hlast]
  split
  · rfl
  split <;> simp

theorem isActionShape_of_endsIn {before : List String} {owner param : String}
    (h : Path.EndsIn view.path before owner param) : isActionShape view = false :=
  isActionShape_of_isParam (by simp [h.segments]) h.isParam

theorem isQueryShape_iff (view : PathView) :
    isQueryShape view ↔ ∀ method, view.has method ↔ method = .get := by
  simp only [isQueryShape, Bool.and_eq_true, Bool.not_eq_true']
  constructor
  · rintro ⟨⟨⟨⟨hget, hpost⟩, hput⟩, hpatch⟩, hdelete⟩ method
    cases method <;> simp [hget, hpost, hput, hpatch, hdelete]
  · intro h
    simp [(h .get).2 rfl, ← Bool.not_eq_true, h]

/-- A path that is only read is a query, unless it has no name. -/
theorem exists_queryEndpoint (doc : Document) (h : isQueryShape view)
    (hname : ¬ Path.IsNameless rootKind view.path) :
    ∃ endpoint, queryEndpoint? doc rootKind view = some endpoint := by
  obtain ⟨operation, hoperation⟩ :=
    PathView.exists_of_has (((isQueryShape_iff view).1 h .get).2 rfl)
  obtain ⟨parts, hparts⟩ := Option.ne_none_iff_exists'.1 (mt querySegments?_eq_none_iff.1 hname)
  simp [queryEndpoint?, hoperation, hparts]

section
variable {before : List String} {owner param : String}
  (hends : Path.EndsIn view.path before owner param)
include hends

/-- An item that is only read is a query. -/
theorem singleFinding_of_isQueryShape (hquery : isQueryShape view) :
    ∃ endpoint, view.singleFinding doc rootKind paired = .query view endpoint := by
  obtain ⟨endpoint, hendpoint⟩ := exists_queryEndpoint doc hquery
    (Path.not_isNameless rootKind (Path.not_isRoot_of_endsIn hends))
  refine ⟨endpoint, ?_⟩
  rw [PathView.singleFinding, isActionShape_of_endsIn hends, if_neg Bool.false_ne_true,
    if_pos hquery, hendpoint]

/-- Any other item belongs to the resource that it names. -/
theorem singleFinding_of_isItemOf (hquery : ¬ isQueryShape view)
    (hitem : isItemOf paired view.path) (hname : Path.resourceName view.path rootKind ≠ "") :
    view.singleFinding doc rootKind paired =
      .resource view .resourceItem (Path.resourceName view.path rootKind) := by
  rw [PathView.singleFinding, isActionShape_of_endsIn hends, if_neg Bool.false_ne_true,
    if_neg hquery, if_pos hitem]
  exact contribution_eq_resource_iff.2 ⟨hname, rfl, rfl, rfl⟩

end

end

/-! ## What a path contributes to -/

/-- What a kept path contributes to a resource as. -/
inductive ContributesAs (doc : Document) (filter : Option PathFilter) (rootKind : Option String)
    (path : String) : Outcome → String → Prop
  | collection {item} : Folds doc filter path item → Path.resourceName item rootKind ≠ "" →
      ContributesAs doc filter rootKind path .resourceCollection (Path.resourceName item rootKind)
  | item : isItemOf (pairs (keptViews doc filter)) path → Path.resourceName path rootKind ≠ "" →
      ContributesAs doc filter rootKind path .resourceItem (Path.resourceName path rootKind)
  | plain : ContributesAs doc filter rootKind path .resource (Path.resourceName path rootKind)

section
variable {doc : Document} {filter : Option PathFilter} {rootKind : Option String}
  {view found : PathView} {outcome : Outcome} {name other : String}

theorem foundIn_of_folds (hops : view.operations ≠ []) (h : Folds doc filter view.path other) :
    foundIn doc filter rootKind view =
      contribution view .resourceCollection (Path.resourceName other rootKind) :=
  finding_of_paired hops (get?_pairs.2 h)

theorem foundIn_of_not_folds (hops : view.operations ≠ [])
    (h : ¬ ∃ other, Folds doc filter view.path other) : foundIn doc filter rootKind view =
      view.singleFinding doc rootKind (pairs (keptViews doc filter)) := by
  refine finding_of_unpaired hops (Option.eq_none_iff_forall_ne_some.2 fun item hitem => ?_)
  exact h ⟨item, get?_pairs.1 hitem⟩

theorem contributesAs_of_foundIn
    (h : foundIn doc filter rootKind view = .resource found outcome name) :
    ContributesAs doc filter rootKind view.path outcome name := by
  have hsort := foundIn_foundAt doc filter rootKind view
  rw [h] at hsort
  cases hsort with
  | resource hops _ _ =>
    by_cases hfolds : ∃ item, Folds doc filter view.path item
    · obtain ⟨item, hfolds⟩ := hfolds
      rw [foundIn_of_folds hops hfolds] at h
      obtain ⟨hname, -, rfl, rfl⟩ := contribution_eq_resource_iff.1 h
      exact .collection hfolds hname
    · rw [foundIn_of_not_folds hops hfolds] at h
      obtain ⟨hname, -, rfl, rfl⟩ :=
        contribution_eq_resource_iff.1 (of_singleFinding_eq_resource h)
      split
      · next hitem => exact .item hitem hname
      · exact .plain

end

/-! ## Rows of pairs -/

/-- Reading is all that is left of a path. -/
def OnlyRead (doc : Document) (filter : Option PathFilter) (path : String) : Prop :=
  ∀ method, Survives doc filter path method ↔ method = .get

/-- What the row of an item says, if its collection belongs to a resource of the given Kind. -/
structure ItemRow (doc : Document) (filter : Option PathFilter) (item : String)
    (kind : Option String) (row : Row) : Prop where
  /-- An item that is only read is a query. -/
  onlyRead : OnlyRead doc filter item → row.outcome = .queryEndpoint
  /-- An item that is itself folded into another one has no name. -/
  nested : (∃ other, Folds doc filter item other) → row.outcome = .skipped
  /-- Any other item belongs to the resource of its collection. -/
  item : ¬ OnlyRead doc filter item → (¬ ∃ other, Folds doc filter item other) →
    row.outcome = .resourceItem ∧ row.kind = kind

section
variable {doc : Document} {filter : Option PathFilter} {rootKind : Option String}
  {collection item : String}

/-- The row of a collection that is folded into an item. -/
theorem Folds.row? (h : Folds doc filter collection item) (rootKind : Option String) : ∃ view,
    (doc.survey filter rootKind).report.row? collection =
      some (contribution view .resourceCollection (Path.resourceName item rootKind)).row := by
  obtain ⟨view, hview, hpost⟩ := h.post
  obtain rfl := path_of_get?_keptViews hview
  refine ⟨view, ?_⟩
  rw [row?_of_keptViews hview, foundIn_of_folds (PathView.operations_ne_nil_of_has hpost) h,
    Path.resourceName_of_collectionOf? h.collectionOf? (namedKind? rootKind) rootKind]

/-- A row says that its path is a collection just if the path is folded into an item that
    has a name. -/
theorem outcome?_eq_collection_iff :
    (doc.survey filter rootKind).report.outcome? collection = some .resourceCollection ↔
      ∃ item, Folds doc filter collection item ∧ Path.resourceName item rootKind ≠ "" := by
  rw [Report.outcome?, Option.map_eq_some_iff]
  constructor
  · rintro ⟨row, hrow, houtcome⟩
    obtain ⟨hmem, rfl⟩ := row?_eq_some_iff.1 hrow
    obtain ⟨view, name, hview, -, hfound⟩ := exists_found_of_isResource hmem (by rw [houtcome]; rfl)
    have hsort := contributesAs_of_foundIn hfound
    rw [houtcome, path_of_get?_keptViews hview] at hsort
    cases hsort with
    | @collection item hfolds hname =>
      rw [Path.resourceName_of_collectionOf? hfolds.collectionOf? _ rootKind] at hname
      exact ⟨item, hfolds, hname⟩
  · rintro ⟨item, hfolds, hname⟩
    obtain ⟨view, hrow⟩ := hfolds.row? rootKind
    refine ⟨_, hrow, ?_⟩
    rw [contribution_eq_resource_iff.2 ⟨hname, rfl, rfl, rfl⟩]
    rfl

theorem Folds.isItemOf (h : Folds doc filter collection item) :
    isItemOf (pairs (keptViews doc filter)) item := by
  rw [ApiKinds.isItemOf, h.collectionOf?]
  simp [Dict.contains, get?_pairs.2 h]

/-- An item that is itself a collection is folded into a path without a name. -/
theorem Folds.resourceName_eq_empty {other : String} (h : Folds doc filter collection item)
    (hnested : Folds doc filter item other) : Path.resourceName other rootKind = "" := by
  exact Path.resourceName_eq_empty_of_nested hnested.collectionOf?
    (Path.isIdPath_of_collectionOf? h.collectionOf?) _

/-- The row of the item that a collection is folded into. -/
theorem Folds.itemRow (h : Folds doc filter collection item)
    (hname : Path.resourceName item rootKind ≠ "") :
    ∃ row, (doc.survey filter rootKind).report.row? item = some row ∧
      ItemRow doc filter item (some (Path.resourceName item rootKind)) row := by
  obtain ⟨view, hview⟩ := h.exists_view
  obtain rfl := path_of_get?_keptViews hview
  obtain ⟨before, owner, param, hends, -⟩ := Path.collectionOf?_eq_some_iff.1 h.collectionOf?
  have hsame : Path.resourceName view.path (namedKind? rootKind) =
      Path.resourceName view.path rootKind := Path.resourceName_of_collectionOf? h.collectionOf? ..
  have hops : view.operations ≠ [] := by
    rcases h.item with hhas | hhas | hhas <;>
      exact PathView.operations_ne_nil_of_has ((survives_iff hview _).1 hhas)
  have hread : OnlyRead doc filter view.path ↔ isQueryShape view := by
    simp only [OnlyRead, survives_iff hview, isQueryShape_iff]
  refine ⟨_, row?_of_keptViews hview, ?_⟩
  by_cases hnested : ∃ other, Folds doc filter view.path other
  · obtain ⟨other, hfolds⟩ := hnested
    rw [foundIn_of_folds hops hfolds, h.resourceName_eq_empty hfolds]
    refine ⟨fun honly => ?_, fun _ => rfl, fun _ hnot => absurd ⟨other, hfolds⟩ hnot⟩
    -- a collection is written to, so it is not only read
    cases (honly .post).1 hfolds.post
  rw [foundIn_of_not_folds hops hnested]
  by_cases hquery : isQueryShape view
  · obtain ⟨endpoint, hfinding⟩ := singleFinding_of_isQueryShape hends hquery
    rw [hfinding]
    exact ⟨fun _ => rfl, fun h => absurd h hnested, fun honly => absurd (hread.2 hquery) honly⟩
  · rw [singleFinding_of_isItemOf hends hquery h.isItemOf (by rw [hsame]; exact hname), hsame]
    exact ⟨fun honly => absurd (hread.1 honly) hquery, fun h => absurd h hnested,
      fun _ _ => ⟨rfl, rfl⟩⟩

/-- The collection of a path that counts as an item. -/
theorem exists_folds_of_isItemOf {path : String}
    (h : isItemOf (pairs (keptViews doc filter)) path) : ∃ collection item,
      Path.collectionOf? path = some collection ∧ Folds doc filter collection item := by
  rw [isItemOf, Option.any_eq_true] at h
  obtain ⟨collection, hcollection, hcontains⟩ := h
  obtain ⟨item, hitem⟩ := Option.isSome_iff_exists.1 hcontains
  exact ⟨collection, item, hcollection, get?_pairs.1 hitem⟩

/-- A path whose row says that it is an item shares the resource of its collection. -/
theorem exists_collection_of_item {row : Row}
    (hmem : row ∈ (doc.survey filter rootKind).report.rows) (houtcome : row.outcome = .resourceItem) :
    ∃ collection other, Path.collectionOf? row.path = some collection ∧
      (doc.survey filter rootKind).report.row? collection = some other ∧
      other.outcome = .resourceCollection ∧ other.kind = row.kind := by
  obtain ⟨view, name, hview, hkind, hfound⟩ := exists_found_of_isResource hmem (by rw [houtcome]; rfl)
  have hsort := contributesAs_of_foundIn hfound
  rw [houtcome, path_of_get?_keptViews hview] at hsort
  cases hsort with
  | item hitem hname =>
    obtain ⟨collection, item, hcollection, hfolds⟩ := exists_folds_of_isItemOf hitem
    have hitemName : Path.resourceName item rootKind =
        Path.resourceName row.path (namedKind? rootKind) := calc
      Path.resourceName item rootKind
      _ = Path.resourceName row.path rootKind :=
        Path.resourceName_eq_of_collectionOf? hfolds.collectionOf? hcollection rootKind
      _ = Path.resourceName row.path (namedKind? rootKind) :=
        Path.resourceName_of_collectionOf? hcollection ..
    obtain ⟨other, hother⟩ := hfolds.row? rootKind
    rw [hitemName, contribution_eq_resource_iff.2 ⟨hname, rfl, rfl, rfl⟩] at hother
    exact ⟨collection, _, hcollection, hother, rfl, hkind.symm⟩

end

/-! ## The law of pairs -/

/-- Collections and items agree. -/
structure Survey.PairsUp (doc : Document) (filter : Option PathFilter) (rootKind : Option String)
    (survey : Survey) : Prop where
  /-- The collections are the paths that are folded into an item that has a name. -/
  collection : ∀ path, survey.report.outcome? path = some .resourceCollection ↔
    ∃ item, Folds doc filter path item ∧ Path.resourceName item rootKind ≠ ""
  /-- A collection is neither an action nor a query. It has the name of its item, whose row
      says so unless it is only read or nested. -/
  folded : ∀ path item row, Folds doc filter path item → survey.report.row? path = some row →
    row.outcome = .resourceCollection →
      (∀ endpoint ∈ survey.actionEndpoints, endpoint.path ≠ path) ∧
      (∀ endpoint ∈ survey.queryEndpoints, endpoint.path ≠ path) ∧
      row.kind = some (Path.resourceName item rootKind) ∧
      ∃ itemRow, survey.report.row? item = some itemRow ∧ ItemRow doc filter item row.kind itemRow
  /-- An item lies in a collection that has its name. -/
  item : ∀ row ∈ survey.report.rows, row.outcome = .resourceItem →
    ∃ path other, Path.collectionOf? row.path = some path ∧
      survey.report.row? path = some other ∧ other.outcome = .resourceCollection ∧
      other.kind = row.kind

/-- **A collection and the item that it is folded into belong to one resource.** -/
theorem survey_pairs (doc : Document) (filter : Option PathFilter) (rootKind : Option String) :
    (doc.survey filter rootKind).PairsUp doc filter rootKind where
  collection _ := outcome?_eq_collection_iff
  folded path item row hfolds hrow houtcome := by
    obtain ⟨hmem, rfl⟩ := row?_eq_some_iff.1 hrow
    obtain ⟨view, hview⟩ := hfolds.row? rootKind
    obtain rfl := Option.some.inj (hview.symm.trans hrow)
    have hname : Path.resourceName item rootKind ≠ "" := by
      intro hempty
      rw [hempty] at houtcome
      cases houtcome
    have hfound : contribution view .resourceCollection (Path.resourceName item rootKind) = _ :=
      contribution_eq_resource_iff.2 ⟨hname, rfl, rfl, rfl⟩
    refine ⟨path_ne_of_action hmem (by rw [houtcome]; decide),
      path_ne_of_query hmem (by rw [houtcome]; decide), ?_⟩
    rw [hfound]
    exact ⟨rfl, hfolds.itemRow hname⟩
  item _ := exists_collection_of_item

/-- A document with an item path whose slash at the end makes it the collection of another. -/
def slashedItems : Document where
  paths := some <| .ofList [
    ("/a", { post := some { operationId := some "add" } }),
    ("/a/\x7baId\x7d/", {
      get := some { operationId := some "read" }
      post := some { operationId := some "change" } }),
    ("/a/\x7baId\x7d//\x7bid\x7d", { get := some { operationId := some "part" } })]

/-- The item of a collection may be skipped: here it is folded into a path without a name. -/
theorem item_skipped_of_slashedItems :
    (slashedItems.survey none none).report.outcome? "/a" = some .resourceCollection ∧
      Folds slashedItems none "/a" "/a/\x7baId\x7d/" ∧
      Path.resourceName "/a/\x7baId\x7d/" none ≠ "" ∧
      ¬ OnlyRead slashedItems none "/a/\x7baId\x7d/" ∧
      (slashedItems.survey none none).report.outcome? "/a/\x7baId\x7d/" = some .skipped := by
  have hfolds : Folds slashedItems none "/a" "/a/\x7baId\x7d/" :=
    get?_pairs.1 (by decide +kernel)
  have hnested : Folds slashedItems none "/a/\x7baId\x7d/" "/a/\x7baId\x7d//\x7bid\x7d" :=
    get?_pairs.1 (by decide +kernel)
  refine ⟨by decide +kernel, hfolds, by decide +kernel, ?_, by decide +kernel⟩
  intro honly
  cases (honly .post).1 hnested.post

end ApiKinds
