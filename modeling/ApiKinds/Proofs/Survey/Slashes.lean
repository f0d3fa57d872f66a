/-
  Slashes at the ends of paths, and what they change of a report.

  * `Path.slashed`, `Document.slashed`: a slash behind a path, and behind every path of a
    document but the root path.
  * `Row.verdict`: what a row says of a path.
  * `verdict_finding_slashed`: on its own a path is the same with a slash.
  * `resourceName_of_folds_slashed`: with slashes no collection is paired with an item that has
    a name.
  * `survey_slashed`: so the slashes matter just to the paths in pairs.
-/
import ApiKinds.Proofs.Survey.Pairing

namespace ApiKinds

open Api

/-! ## Paths -/

namespace Path

/-- A slash behind a path, unless it is the root path. -/
@[irreducible] def slashed (path : String) : String :=
  if isRoot path then path else path ++ "/"

theorem trimChar_slashed (path : String) :
    Text.trimChar '/' (slashed path) = Text.trimChar '/' path := by
  rw [slashed]
  split
  · rfl
  · rw [Text.trimChar, Text.trimChar, String.toList_append, toList_slash,
      Text.trimEnds_concat (by rfl)]

@[simp] theorem segments_slashed (path : String) : segments (slashed path) = segments path := by
  rw [segments, segments, trimChar_slashed]

@[simp] theorem isRoot_slashed (path : String) : isRoot (slashed path) = isRoot path := by
  rw [isRoot, isRoot, trimChar_slashed]

@[simp] theorem resourceName_slashed (path : String) :
    resourceName (slashed path) = resourceName path := by
  funext rootKind
  simp only [resourceName, isRoot_slashed, segments_slashed]

theorem slashed_injective : Function.Injective slashed := by
  intro path other h
  have hroot : isRoot path = isRoot other := by rw [← isRoot_slashed path, h, isRoot_slashed]
  rw [slashed, slashed, hroot] at h
  split at h
  · exact h
  · exact (String.append_left_inj "/").1 h

/-- A collection is no path with a slash, unless its last segment is empty. -/
theorem owner_eq_empty_of_slashed {path item : String} {before : List String}
    {owner param : String} (hends : EndsIn item before owner param)
    (h : ofSegments (before ++ [owner]) = slashed path) : owner = "" := by
  by_contra hne
  rw [slashed] at h
  split at h
  · next hroot =>
    -- the segments of the collection would be those of the root path, of which one is empty
    have hsegments := segments_of_collection hends hne
    rw [h, segments_of_isRoot hroot] at hsegments
    have hlast := congrArg List.getLast? hsegments
    rw [List.getLast?_concat, List.getLast?_singleton, Option.some.injEq] at hlast
    exact hne hlast.symm
  · -- the slash would be the last character of the owner
    obtain ⟨front, hfront⟩ := Text.toList_join_concat "/" before owner
    obtain ⟨chars, c, hchars⟩ := (List.eq_nil_or_concat' owner.toList).resolve_left
      (mt String.toList_eq_nil_iff.1 hne)
    have hlist := congrArg (List.getLast? ∘ String.toList) h
    simp only [Function.comp_apply, toList_ofSegments, hfront, hchars, String.toList_append,
      toList_slash, ← List.append_assoc, ← List.cons_append, List.getLast?_concat,
      Option.some.injEq] at hlist
    refine slash_free_of_endsIn hends owner (by simp) ?_
    rw [hchars, hlist]
    exact List.mem_append_right _ List.mem_cons_self

end Path

/-! ## Documents -/

/-- The document with a slash behind every path but the root path. -/
def Api.Document.slashed (doc : Document) : Document :=
  { doc with paths := doc.paths.map (.mapKeys Path.slashed) }

section
variable (doc : Document)

theorem pathItems_slashed : doc.slashed.pathItems = doc.pathItems.mapKeys Path.slashed := by
  rw [Document.pathItems, Document.pathItems, Document.slashed]
  cases doc.paths <;> rfl

theorem get?_pathItems_slashed (path : String) :
    doc.slashed.pathItems.get? (Path.slashed path) = doc.pathItems.get? path := by
  rw [pathItems_slashed, Dict.get?_mapKeys Path.slashed_injective]

/-- Without a filter every path is kept as it is. -/
theorem get?_keptViews_none {path : String} {item : PathItem}
    (h : doc.pathItems.get? path = some item) :
    (keptViews doc none).get? path = some (.whole path item) :=
  get?_keptViews.2 ⟨item, h, rfl⟩

end

/-! ## Rows -/

/-- What a row says of its path. -/
def Row.verdict (row : Row) : Outcome × Option String × Option String :=
  (row.outcome, row.kind, row.parentIdParam)

/-- The view of the path with a slash. -/
def PathView.slashed (view : PathView) : PathView :=
  { view with path := Path.slashed view.path }

section
variable {doc other : Document} {rootKind : Option String} {view : PathView}

theorem isActionShape_slashed (view : PathView) :
    isActionShape view.slashed = isActionShape view := by
  rw [isActionShape, isActionShape, PathView.slashed, Path.segments_slashed]
  rfl

theorem actionEndpoint?_slashed (doc other : Document) (rootKind : Option String)
    (view : PathView) :
    Option.Rel (fun a b => a.name = b.name ∧ a.parentIdParam = b.parentIdParam)
      (actionEndpoint? doc rootKind view) (actionEndpoint? other rootKind view.slashed) := by
  have hnames : actionNames? rootKind view.slashed.path = actionNames? rootKind view.path := by
    rw [actionNames?, actionNames?, PathView.slashed, Path.isRoot_slashed, Path.segments_slashed]
  rw [actionEndpoint?, actionEndpoint?, hnames]
  refine rel_bind (rel_eq_iff.2 rfl) ?_
  rintro names _ rfl
  refine rel_bind (rel_eq_iff.2 rfl) ?_
  rintro operation _ rfl
  exact .some ⟨rfl, rfl⟩

theorem queryEndpoint?_slashed (doc other : Document) (rootKind : Option String)
    (view : PathView) : Option.Rel (fun a b => a.name = b.name)
      (queryEndpoint? doc rootKind view) (queryEndpoint? other rootKind view.slashed) := by
  have hparts : querySegments? rootKind view.slashed.path = querySegments? rootKind view.path := by
    rw [querySegments?, querySegments?, PathView.slashed, Path.isRoot_slashed,
      Path.segments_slashed]
  rw [queryEndpoint?, queryEndpoint?, hparts]
  refine rel_bind (rel_eq_iff.2 rfl) ?_
  rintro operation _ rfl
  refine rel_bind (rel_eq_iff.2 rfl) ?_
  rintro parts _ rfl
  exact .some rfl

theorem verdict_unnamed_slashed :
    (unnamed rootKind view.slashed).row.verdict = (unnamed rootKind view).row.verdict := by
  rw [unnamed, unnamed, PathView.slashed, Path.isRoot_slashed]
  split <;> rfl

theorem verdict_contribution_slashed (outcome : Outcome) (name : String) :
    (contribution view.slashed outcome name).row.verdict =
      (contribution view outcome name).row.verdict := by
  rw [contribution, contribution]
  split <;> rfl

/-- Without a name it does not matter as what a path would contribute. -/
theorem contribution_congr {outcome outcome' : Outcome} {name : String}
    (h : name ≠ "" → outcome = outcome') :
    contribution view outcome name = contribution view outcome' name := by
  by_cases hname : name = ""
  · rw [hname]
    rfl
  · rw [h hname]

theorem isItemOf_empty (path : String) : isItemOf .empty path = false := by
  rw [isItemOf]
  cases Path.collectionOf? path <;> rfl

/-- What a path is depends on the pairs only if it contributes to a resource with a name. -/
theorem singleFinding_eq_empty {paired : Dict String}
    (h : ¬ isActionShape view → ¬ isQueryShape view →
      Path.resourceName view.path rootKind ≠ "" → isItemOf paired view.path = false) :
    view.singleFinding doc rootKind paired = view.singleFinding doc rootKind .empty := by
  rw [PathView.singleFinding, PathView.singleFinding, isItemOf_empty]
  by_cases haction : isActionShape view
  · rw [if_pos haction, if_pos haction]
  by_cases hquery : isQueryShape view
  · rw [if_neg haction, if_neg haction, if_pos hquery, if_pos hquery]
  · rw [if_neg haction, if_neg haction, if_neg hquery, if_neg hquery]
    exact contribution_congr fun hne => by rw [h haction hquery hne]

/-- An item with a name is found to be one, unless it is an action or a query. -/
theorem singleFinding_of_item {paired : Dict String} (haction : ¬ isActionShape view)
    (hquery : ¬ isQueryShape view) (hname : Path.resourceName view.path rootKind ≠ "")
    (hitem : isItemOf paired view.path) :
    (view.singleFinding doc rootKind paired).row.outcome = .resourceItem := by
  rw [PathView.singleFinding, if_neg haction, if_neg hquery, if_pos hitem,
    contribution_eq_resource_iff.2 ⟨hname, rfl, rfl, rfl⟩]
  rfl

/-- A path that is neither a collection nor an item is what it is on its own. -/
theorem finding_eq_empty {paired : Dict String} (hnone : paired.get? view.path = none)
    (hitem : (view.finding doc rootKind paired).row.outcome ≠ .resourceItem) :
    view.finding doc rootKind paired = view.finding doc rootKind .empty := by
  by_cases hops : view.operations = []
  · simp [PathView.finding, hops]
  · rw [finding_of_unpaired hops hnone] at hitem ⊢
    rw [finding_of_unpaired hops rfl]
    refine singleFinding_eq_empty fun haction hquery hname => ?_
    by_contra hpaired
    exact hitem (singleFinding_of_item haction hquery hname (by simpa using hpaired))

/-- On its own a path is the same with a slash. -/
theorem verdict_finding_slashed (doc other : Document) (rootKind : Option String)
    (view : PathView) : (view.slashed.finding other rootKind .empty).row.verdict =
      (view.finding doc rootKind .empty).row.verdict := by
  have haction := actionEndpoint?_slashed doc other rootKind view
  have hquery := queryEndpoint?_slashed doc other rootKind view
  have hquerying : isQueryShape view.slashed = isQueryShape view := rfl
  have hops : view.slashed.operations = view.operations := rfl
  have hname : Path.resourceName view.slashed.path = Path.resourceName view.path :=
    Path.resourceName_slashed view.path
  simp only [PathView.finding, PathView.singleFinding, Dict.get?_empty, isActionShape_slashed,
    hquerying, hops, hname, isItemOf_empty]
  split
  · rfl
  split
  · generalize actionEndpoint? doc rootKind view = found at haction
    generalize actionEndpoint? other rootKind view.slashed = found' at haction
    cases haction with
    | none => exact verdict_unnamed_slashed
    | some hsame => simp only [Row.verdict, Finding.row, hsame]
  split
  · generalize queryEndpoint? doc rootKind view = found at hquery
    generalize queryEndpoint? other rootKind view.slashed = found' at hquery
    cases hquery with
    | none => exact verdict_unnamed_slashed
    | some hsame => simp only [Row.verdict, Finding.row, hsame]
  · exact verdict_contribution_slashed _ _

/-- A row of a path that is skipped says nothing else. -/
theorem verdict_of_skipped {finding : Finding} (h : FoundAt doc rootKind view finding)
    (hskipped : finding.row.outcome = .skipped) : finding.row.verdict = (.skipped, none, none) := by
  cases h with
  | @resource outcome _ _ houtcome _ =>
    rw [show outcome = .skipped from hskipped] at houtcome
    cases houtcome
  | skipped => rfl
  | _ => cases hskipped

end

/-! ## Pairs -/

section
variable {doc : Document} {filter : Option PathFilter} {rootKind : Option String}
  {view : PathView} {path item : String}

theorem outcome_foundIn_of_folds (rootKind : Option String)
    (hview : (keptViews doc filter).get? path = some view)
    (h : Folds doc filter path item) :
    (foundIn doc filter rootKind view).row.outcome = .skipped ∨
      (foundIn doc filter rootKind view).row.outcome = .resourceCollection := by
  obtain rfl := path_of_get?_keptViews hview
  have hops := PathView.operations_ne_nil_of_has ((survives_iff hview .post).1 h.post)
  rw [foundIn_of_folds hops h, contribution]
  split
  · exact .inl rfl
  · exact .inr rfl

/-- A path in no pair is what it is on its own. -/
theorem foundIn_eq_empty (view : PathView) (hfolds : ¬ ∃ item, Folds doc filter view.path item)
    (hitem : (foundIn doc filter rootKind view).row.outcome ≠ .resourceItem) :
    foundIn doc filter rootKind view = view.finding doc rootKind .empty :=
  finding_eq_empty (Option.eq_none_iff_forall_ne_some.2 fun item hget =>
    hfolds ⟨item, get?_pairs.1 hget⟩) hitem

end

section
variable {doc : Document} {rootKind : Option String} {collection item path : String}

/-- With slashes only items without a name are paired. -/
theorem resourceName_of_folds_slashed (h : Folds doc.slashed none collection item) :
    Path.resourceName item rootKind = "" := by
  obtain ⟨before, owner, param, hends, rfl⟩ := Path.collectionOf?_eq_some_iff.1 h.collectionOf?
  obtain ⟨view, hview, -⟩ := h.post
  obtain ⟨found, hfound, -⟩ := get?_keptViews.1 hview
  have hkey : Path.ofSegments (before ++ [owner]) ∈ doc.slashed.pathItems.keys :=
    Dict.mem_keys.2 ⟨found, hfound⟩
  rw [pathItems_slashed, Dict.mem_keys_mapKeys Path.slashed_injective] at hkey
  obtain ⟨path, -, hpath⟩ := hkey
  rw [Path.resourceName_of_endsIn hends, Path.owner_eq_empty_of_slashed hends hpath.symm]
  rfl

theorem resourceName_of_isItemOf_slashed
    (h : isItemOf (pairs (keptViews doc.slashed none)) path) :
    Path.resourceName path rootKind = "" := by
  rw [isItemOf, Option.any_eq_true] at h
  obtain ⟨collection, hcollection, hpaired⟩ := h
  obtain ⟨item, hitem⟩ := Option.isSome_iff_exists.1 hpaired
  have hfolds := get?_pairs.1 hitem
  rw [Path.resourceName_eq_of_collectionOf? hcollection hfolds.collectionOf? rootKind]
  exact resourceName_of_folds_slashed hfolds

theorem outcome_foundIn_slashed (doc : Document) (rootKind : Option String) (view : PathView) :
    (foundIn doc.slashed none rootKind view).row.outcome ≠ .resourceCollection ∧
      (foundIn doc.slashed none rootKind view).row.outcome ≠ .resourceItem := by
  have hfound := foundIn_foundAt doc.slashed none rootKind view
  generalize hfinding : foundIn doc.slashed none rootKind view = finding at hfound
  cases hfound with
  | resource _ _ _ =>
    cases contributesAs_of_foundIn hfinding with
    | collection hfolds hname => exact absurd (resourceName_of_folds_slashed hfolds) hname
    | item hitem hname => exact absurd (resourceName_of_isItemOf_slashed hitem) hname
    | plain => simp [Finding.row]
  | _ => simp [Finding.row]

/-- How the row of a path and that of the path with a slash are related. -/
structure SlashedRow (doc : Document) (path : String) (row row' : Row) : Prop where
  /-- With slashes there are neither collections nor items. -/
  unpaired : row'.outcome ≠ .resourceCollection ∧ row'.outcome ≠ .resourceItem
  /-- The rows say the same just if both are left out, or if the path is in no pair. -/
  same_iff : row'.verdict = row.verdict ↔
    row.outcome = .skipped ∧ row'.outcome = .skipped ∨
      row.outcome ≠ .resourceItem ∧ (¬ ∃ item, Folds doc none path item) ∧
        ¬ ∃ item, Folds doc.slashed none (Path.slashed path) item

/-- **A slash behind every path changes what a report says of the paths in pairs, and of no
    others.** -/
theorem survey_slashed {item : PathItem} (h : doc.pathItems.get? path = some item) :
    ∃ row row', (doc.survey none rootKind).report.row? path = some row ∧
      (doc.slashed.survey none rootKind).report.row? (Path.slashed path) = some row' ∧
      SlashedRow doc path row row' := by
  have hkept := get?_keptViews_none doc h
  have hkept' := get?_keptViews_none doc.slashed ((get?_pathItems_slashed doc path).trans h)
  have hunpaired := outcome_foundIn_slashed doc (namedKind? rootKind)
    (.whole (Path.slashed path) item)
  refine ⟨_, _, row?_of_keptViews hkept, row?_of_keptViews hkept', hunpaired, ?_, ?_⟩
  · intro hsame
    have houtcome := congrArg Prod.fst hsame
    by_cases hfolds : ∃ item, Folds doc none path item
    · obtain ⟨item, hfolds⟩ := hfolds
      have hskipped := (outcome_foundIn_of_folds (namedKind? rootKind) hkept
        hfolds).resolve_right fun heq => hunpaired.1 (houtcome.trans heq)
      exact .inl ⟨hskipped, houtcome.trans hskipped⟩
    by_cases hfolds' : ∃ item, Folds doc.slashed none (Path.slashed path) item
    · obtain ⟨item, hfolds'⟩ := hfolds'
      have hskipped := (outcome_foundIn_of_folds (namedKind? rootKind) hkept'
        hfolds').resolve_right hunpaired.1
      exact .inl ⟨houtcome.symm.trans hskipped, hskipped⟩
    · exact .inr ⟨fun heq => hunpaired.2 (houtcome.trans heq), hfolds, hfolds'⟩
  · rintro (⟨hskipped, hskipped'⟩ | ⟨hitem, hfolds, hfolds'⟩)
    · rw [verdict_of_skipped (foundIn_foundAt ..) hskipped,
        verdict_of_skipped (foundIn_foundAt ..) hskipped']
    · rw [foundIn_eq_empty (.whole path item) hfolds hitem,
        foundIn_eq_empty (.whole (Path.slashed path) item) hfolds' hunpaired.2]
      exact verdict_finding_slashed doc doc.slashed _ (.whole path item)

end

/-- A collection and its item. -/
def keptPets : Document where
  paths := some <| .ofList [
    ("/pets", { post := some {} }),
    ("/pets/\x7bpetId\x7d", { get := some {}, put := some {} })]

/-- The row of the collection and that of the collection with a slash. -/
theorem survey_slashed_keptPets : ∃ row row',
    (keptPets.survey none none).report.row? "/pets" = some row ∧
      (keptPets.slashed.survey none none).report.row? (Path.slashed "/pets") = some row' ∧
      SlashedRow keptPets "/pets" row row' :=
  survey_slashed rfl

/-- They are in a pair, and with slashes on their own. -/
theorem verdicts_of_keptPets :
    (∀ path ∈ keptPets.pathItems.keys, Text.hasSuffix "/" path = false) ∧
    (keptPets.survey none none).report.rows.map (fun row => (row.path, row.verdict)) =
      [("/pets", .resourceCollection, some "Pet", none),
        ("/pets/\x7bpetId\x7d", .resourceItem, some "Pet", none)] ∧
    (keptPets.slashed.survey none none).report.rows.map (fun row => (row.path, row.verdict)) =
      [("/pets/", .actionEndpoint, some "PetsAction", none),
        ("/pets/\x7bpetId\x7d/", .resource, some "Pet", none)] := by
  decide +kernel

end ApiKinds
