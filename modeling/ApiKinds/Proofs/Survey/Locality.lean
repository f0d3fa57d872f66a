/-
  Adding a path to a document is local. The collection that the new path lies in may be folded
  into another item or into none, and paths of the same collection, or of the one that the new
  path is, may start or cease to count as items. At all other paths the same is found.

  * `get?_pairs_addPath`: other collections are folded into the same items.
  * `finding_eq_or_switches`: pairs that agree on a path decide no more about it than whether
    it counts as an item.
  * `survey_addPath`: what a survey says of the paths that were there before.
-/
import ApiKinds.Proofs.Survey.Frame
import ApiKinds.Proofs.Survey.Pairing

namespace ApiKinds

open Api

/-- The document with one more path. -/
def Api.Document.addPath (doc : Document) (path : String) (item : PathItem) : Document :=
  doc.withPaths (some (doc.pathItems.insert path item))

/-- A path addresses an entity of the collection that another path is or lies in. -/
def Path.SharesCollection (added path : String) : Prop :=
  ∃ collection, collectionOf? path = some collection ∧
    (collection = added ∨ collectionOf? added = some collection)

/-! ## Pairs -/

section
variable {doc : Document} {filter : Option PathFilter} {item : PathItem}
  {added path collection : String}

theorem get?_decisions_addPath (hne : path ≠ added) :
    (decisions (doc.addPath added item) filter).get? path = (decisions doc filter).get? path := by
  have hitems : (doc.addPath added item).pathItems = doc.pathItems.insert added item := rfl
  rw [get?_decisions, get?_decisions, hitems, Dict.get?_insert, if_neg hne]

theorem get?_keptViews_addPath (hne : path ≠ added) :
    (keptViews (doc.addPath added item) filter).get? path = (keptViews doc filter).get? path := by
  rw [keptViews, keptViews, Dict.get?_filterMap, Dict.get?_filterMap, get?_decisions_addPath hne]

theorem survives_addPath (hne : path ≠ added) (method : Method) :
    Survives (doc.addPath added item) filter path method ↔ Survives doc filter path method := by
  rw [Survives, Survives, get?_keptViews_addPath hne]

/-- The items of a collection stay in order. -/
theorem firstItem?_addPath (hbase : Path.collectionOf? added ≠ some collection) :
    firstItem? (doc.addPath added item) filter collection = firstItem? doc filter collection := by
  -- The first item is the head of all items in path order, and the new path is none of them.
  have hitems : (keptViews (doc.addPath added item) filter).keys.filter
      (Path.collectionOf? · = some collection) =
        (keptViews doc filter).keys.filter (Path.collectionOf? · = some collection) := by
    refine Dict.eq_of_pairwise_lt ((Dict.pairwise_keys _).filter _)
      ((Dict.pairwise_keys _).filter _) fun path => ?_
    simp only [List.mem_filter, decide_eq_true_eq, Dict.mem_keys]
    refine and_congr_left fun hcollection => ?_
    rw [get?_keptViews_addPath]
    rintro rfl
    exact hbase hcollection
  rw [firstItem?, firstItem?, ← List.head?_filter, ← List.head?_filter, hitems]

section
variable (hne : collection ≠ added) (hbase : Path.collectionOf? added ≠ some collection)
include hne hbase

theorem folds_addPath {first : String} :
    Folds (doc.addPath added item) filter collection first ↔
      Folds doc filter collection first := by
  -- In either document the first item lies in the collection, so it is not the new path.
  have hfirst : ∀ {other : Document}, Folds other filter collection first → first ≠ added := by
    rintro other h rfl
    exact hbase h.collectionOf?
  constructor
  · intro h
    exact {
      post := (survives_addPath hne _).1 h.post
      first := firstItem?_addPath hbase ▸ h.first
      item := by simpa only [survives_addPath (hfirst h)] using h.item }
  · intro h
    exact {
      post := (survives_addPath hne _).2 h.post
      first := (firstItem?_addPath hbase).trans h.first
      item := by simpa only [survives_addPath (hfirst h)] using h.item }

/-- Other collections are folded into the same items. -/
theorem get?_pairs_addPath : (pairs (keptViews (doc.addPath added item) filter)).get? collection =
    (pairs (keptViews doc filter)).get? collection := by
  ext first
  rw [get?_pairs, get?_pairs, folds_addPath hne hbase]

end

theorem isItemOf_addPath (h : ¬ Path.SharesCollection added path) :
    isItemOf (pairs (keptViews (doc.addPath added item) filter)) path =
      isItemOf (pairs (keptViews doc filter)) path := by
  rw [isItemOf, isItemOf]
  cases hcollection : Path.collectionOf? path with
  | none => rfl
  | some collection =>
    have hne : collection ≠ added := fun heq => h ⟨collection, hcollection, .inl heq⟩
    have hbase : Path.collectionOf? added ≠ some collection :=
      fun heq => h ⟨collection, hcollection, .inr heq⟩
    simp only [Option.any_some, Dict.contains, get?_pairs_addPath hne hbase]

end

/-! ## Findings -/

/-- Two findings differ only in whether their path counts as an item. -/
inductive Finding.Switches : Finding → Finding → Prop
  | resource {view outcome outcome' name} :
      (outcome = .resource ∨ outcome = .resourceItem) →
      (outcome' = .resource ∨ outcome' = .resourceItem) →
      Switches (.resource view outcome name) (.resource view outcome' name)

/-- Endpoints are not concerned. -/
theorem Finding.Switches.endpoints {old new : Finding} (h : old.Switches new) :
    new.query? = old.query? ∧ new.action? = old.action? := by
  cases h
  exact ⟨rfl, rfl⟩

section
variable {doc : Document} {rootKind : Option String} {view : PathView}

theorem singleFinding_eq_or_switches (paired paired' : Dict String) :
    view.singleFinding doc rootKind paired' = view.singleFinding doc rootKind paired ∨
      isItemOf paired' view.path ≠ isItemOf paired view.path ∧
        (view.singleFinding doc rootKind paired).Switches
          (view.singleFinding doc rootKind paired') := by
  by_cases hitem : isItemOf paired' view.path = isItemOf paired view.path
  · rw [PathView.singleFinding, PathView.singleFinding, hitem]
    exact .inl rfl
  rw [PathView.singleFinding, PathView.singleFinding]
  split
  · exact .inl rfl
  split
  · exact .inl rfl
  · rw [contribution, contribution]
    split
    · exact .inl rfl
    · exact .inr ⟨hitem, .resource (ite_eq_or_eq ..).symm (ite_eq_or_eq ..).symm⟩

/-- Pairs that agree on a path decide no more about it than whether it counts as an item. -/
theorem finding_eq_or_switches {paired paired' : Dict String}
    (hpair : paired'.get? view.path = paired.get? view.path) :
    view.finding doc rootKind paired' = view.finding doc rootKind paired ∨
      isItemOf paired' view.path ≠ isItemOf paired view.path ∧
        (view.finding doc rootKind paired).Switches (view.finding doc rootKind paired') := by
  rw [PathView.finding, PathView.finding, hpair]
  split
  · exact .inl rfl
  split
  · exact .inl rfl
  · exact singleFinding_eq_or_switches paired paired'

end

/-- What is found at a path that was there before. -/
theorem findingAt?_addPath {doc : Document} {added path : String} (filter : Option PathFilter)
    (rootKind : Option String) (item : PathItem) (hpath : path ∈ doc.pathItems.keys)
    (hne : path ≠ added) (hbase : Path.collectionOf? added ≠ some path) : ∃ old new,
      findingAt? doc filter rootKind path = some old ∧
      findingAt? (doc.addPath added item) filter rootKind path = some new ∧
      (new = old ∨ Path.SharesCollection added path ∧ old.Switches new) := by
  obtain ⟨decision, hdecision⟩ : ∃ decision, (decisions doc filter).get? path = some decision := by
    rwa [← Dict.mem_keys, keys_decisions]
  rw [findingAt?, findingAt?, get?_decisions_addPath hne, hdecision]
  refine ⟨_, _, rfl, rfl, ?_⟩
  cases decision with
  | drop reason methods => exact .inl rfl
  | keep view =>
    obtain ⟨item', -, hkept⟩ :=
      Option.map_eq_some_iff.1 (get?_decisions doc filter path ▸ hdecision)
    obtain rfl := path_of_decidePath hkept
    -- The view is the same, so the two findings differ at most by the pairs they start from.
    have hdoc : ∀ paired, view.finding (doc.addPath added item) rootKind paired =
        view.finding doc rootKind paired := fun paired => finding_withPaths_self doc _ view ..
    simp only [Decision.finding, hdoc]
    refine (finding_eq_or_switches (get?_pairs_addPath hne hbase)).imp_right ?_
    rintro ⟨hitem, hswitches⟩
    exact ⟨not_imp_comm.1 isItemOf_addPath hitem, hswitches⟩

/-! ## Surveys -/

/-- Two rows differ only in whether their path counts as an item. -/
structure Row.Switches (old new : Row) : Prop where
  before : old.outcome = .resource ∨ old.outcome = .resourceItem
  after : new.outcome = .resource ∨ new.outcome = .resourceItem
  rest : new = { old with outcome := new.outcome }

/-- What two surveys say of a path, before and after another one is added: its row may only
    switch, and its endpoints are the same. -/
structure Survey.SameBeside (added path : String) (old new : Survey) : Prop where
  row : ∃ row row', old.report.row? path = some row ∧ new.report.row? path = some row' ∧
    (row' = row ∨ Path.SharesCollection added path ∧ row.Switches row')
  queryEndpoints : new.queryEndpoints.filter (·.path = path) =
    old.queryEndpoints.filter (·.path = path)
  actionEndpoints : new.actionEndpoints.filter (·.path = path) =
    old.actionEndpoints.filter (·.path = path)

/-- **Adding a path leaves the others as they are**, but for the collection that it lies in and
    for whether others count as items. -/
theorem survey_addPath {doc : Document} {added : String} (hnew : doc.pathItems.get? added = none)
    (item : PathItem) (filter : Option PathFilter) (rootKind : Option String) :
    ∀ path ∈ doc.pathItems.keys, Path.collectionOf? added ≠ some path →
      (doc.survey filter rootKind).SameBeside added path
        ((doc.addPath added item).survey filter rootKind) := by
  intro path hpath hbase
  have hne : path ≠ added := by
    rintro rfl
    obtain ⟨item', hitem'⟩ := Dict.mem_keys.1 hpath
    rw [hnew] at hitem'
    cases hitem'
  obtain ⟨old, new, hold, hnew, hsame⟩ :=
    findingAt?_addPath filter (namedKind? rootKind) item hpath hne hbase
  have hendpoints : new.query? = old.query? ∧ new.action? = old.action? := by
    obtain rfl | ⟨-, hswitches⟩ := hsame
    · exact ⟨rfl, rfl⟩
    · exact hswitches.endpoints
  constructor
  case row =>
    rw [row?_eq_findingAt?, row?_eq_findingAt?, hold, hnew]
    refine ⟨_, _, rfl, rfl, ?_⟩
    obtain rfl | ⟨hshares, hswitches⟩ := hsame
    · exact .inl rfl
    · cases hswitches with
      | resource hbefore hafter => exact .inr ⟨hshares, hbefore, hafter, rfl⟩
  case queryEndpoints =>
    rw [queries_at, queries_at, hold, hnew, Option.bind_some, hendpoints.1]
    rfl
  case actionEndpoints =>
    rw [actions_at, actions_at, hold, hnew, Option.bind_some, hendpoints.2]
    rfl

/-- A document in which a collection is folded into its only item. -/
def itemPets : Document where
  paths := some <| .ofList [
    ("/pets", { post := some { operationId := some "addPet" } }),
    ("/pets/\x7bpetId\x7d", {
      get := some { operationId := some "getPet" }
      put := some { operationId := some "changePet" } })]

/-- A new first item of the collection, which can only be patched. -/
def patchedPet : PathItem where
  patch := some { operationId := some "patchPet" }

/-- With the new item first the collection is no longer folded, and the old one ceases to count
    as an item. -/
theorem sameBeside_itemPets :
    (itemPets.survey none none).SameBeside "/pets/\x7bid\x7d" "/pets/\x7bpetId\x7d"
      ((itemPets.addPath "/pets/\x7bid\x7d" patchedPet).survey none none) ∧
    (itemPets.survey none none).report.outcome? "/pets/\x7bpetId\x7d" = some .resourceItem ∧
    ((itemPets.addPath "/pets/\x7bid\x7d" patchedPet).survey none none).report.outcome?
      "/pets/\x7bpetId\x7d" = some .resource :=
  ⟨survey_addPath (by decide +kernel) patchedPet none none _ (by decide +kernel)
    (by decide +kernel), by decide +kernel, by decide +kernel⟩

end ApiKinds
