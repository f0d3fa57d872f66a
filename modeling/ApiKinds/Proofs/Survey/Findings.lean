/-
  What can be found at a path, and what the row of a finding shows.

  * `FoundAt`: the sorts of findings at a view. `finding_foundAt` is the only place where
    the decisions of the classifier are opened; later proofs are by cases on it.
  * `mem_findings_iff`: the findings are those of the filtered paths and of the kept views.
  * `filterMap_findings`: what is collected from findings, but not from filtered ones, is
    collected from the kept views in order.
-/
import ApiKinds.Proofs.Survey.Kept
import Mathlib.Data.List.Nodup

namespace ApiKinds

open Api

/-! ## Sorts of findings -/

/-- What can be found at a view. -/
inductive FoundAt (doc : Document) (rootKind : Option String) (view : PathView) : Finding → Prop
  | skipped : FoundAt doc rootKind view (.skipped view)
  | dropped : FoundAt doc rootKind view (.dropped view)
  | action {endpoint} : actionEndpoint? doc rootKind view = some endpoint →
      FoundAt doc rootKind view (.action view endpoint)
  | query {endpoint} : queryEndpoint? doc rootKind view = some endpoint →
      FoundAt doc rootKind view (.query view endpoint)
  | resource {outcome name} : view.operations ≠ [] → outcome.isResource → name ≠ "" →
      FoundAt doc rootKind view (.resource view outcome name)

section
variable {doc : Document} {rootKind : Option String} {view : PathView}

theorem unnamed_foundAt : FoundAt doc rootKind view (unnamed rootKind view) := by
  unfold unnamed
  split
  · exact .dropped
  · exact .skipped

theorem contribution_foundAt (hops : view.operations ≠ []) {outcome : Outcome}
    (houtcome : outcome.isResource) (name : String) :
    FoundAt doc rootKind view (contribution view outcome name) := by
  unfold contribution
  split
  · exact .skipped
  · next hname => exact .resource hops houtcome (by simpa using hname)

theorem singleFinding_foundAt (hops : view.operations ≠ []) (paired : Dict String) :
    FoundAt doc rootKind view (view.singleFinding doc rootKind paired) := by
  unfold PathView.singleFinding
  split
  · split
    · next h => exact .action h
    · exact unnamed_foundAt
  split
  · split
    · next h => exact .query h
    · exact unnamed_foundAt
  · refine contribution_foundAt hops ?_ _
    split <;> rfl

/-- A view is found to be one of these, whatever is paired. -/
theorem finding_foundAt (doc : Document) (rootKind : Option String) (paired : Dict String)
    (view : PathView) : FoundAt doc rootKind view (view.finding doc rootKind paired) := by
  unfold PathView.finding
  split
  · exact .skipped
  · next hops =>
    have hops : view.operations ≠ [] := by simpa using hops
    split
    · exact contribution_foundAt hops rfl _
    · exact singleFinding_foundAt hops paired

end

/-! ## Endpoints -/

theorem path_of_actionEndpoint? {doc : Document} {rootKind : Option String} {view : PathView}
    {endpoint : ActionEndpoint} (h : actionEndpoint? doc rootKind view = some endpoint) :
    endpoint.path = view.path := by
  simp only [actionEndpoint?, bind, Option.bind_eq_some_iff] at h
  obtain ⟨names, -, ⟨method, operation⟩, -, h⟩ := h
  cases h; rfl

theorem path_of_queryEndpoint? {doc : Document} {rootKind : Option String} {view : PathView}
    {endpoint : QueryEndpoint} (h : queryEndpoint? doc rootKind view = some endpoint) :
    endpoint.path = view.path := by
  simp only [queryEndpoint?, bind, Option.bind_eq_some_iff] at h
  obtain ⟨operation, -, parts, -, h⟩ := h
  cases h; rfl

/-- The operation of an action is that of the view for its method, and none comes before it. -/
theorem method_of_actionOperation? {view : PathView} {action : String} {method : Method}
    {operation : Operation}
    (h : actionOperation? view action = some (method, operation)) :
    view.operation? method = some operation ∧ (view.has .post → method = .post) ∧
      (view.has .put → method = .post ∨ method = .put) := by
  have hmap : ∀ {m}, (view.operation? m).map (m, ·) = some (method, operation) →
      m = method ∧ view.operation? method = some operation := by
    intro m hm
    obtain ⟨_, hfound, heq⟩ := Option.map_eq_some_iff.1 hm
    cases heq
    exact ⟨rfl, hfound⟩
  have hlacks : ∀ {m}, (view.operation? m).map (m, ·) = none → ¬ view.has m := by
    intro m hm
    rw [← PathView.operation?_isSome, Option.map_eq_none_iff.1 hm]
    exact Bool.false_ne_true
  simp only [actionOperation?, Option.orElse_eq_orElse, Option.orElse_eq_or,
    Option.or_eq_some_iff] at h
  rcases h with hpost | ⟨hpost, hput | ⟨hput, hget⟩⟩
  · obtain ⟨rfl, hfound⟩ := hmap hpost
    exact ⟨hfound, fun _ => rfl, fun _ => .inl rfl⟩
  · obtain ⟨rfl, hfound⟩ := hmap hput
    exact ⟨hfound, fun hhas => absurd hhas (hlacks hpost), fun _ => .inr rfl⟩
  · split at hget
    · obtain ⟨rfl, hfound⟩ := hmap hget
      exact ⟨hfound, fun hhas => absurd hhas (hlacks hpost), fun hhas => absurd hhas (hlacks hput)⟩
    · cases hget

/-! ## All findings -/

section
variable {doc : Document} {filter : Option PathFilter} {rootKind : Option String}

/-- What is found at a kept path. -/
def foundIn (doc : Document) (filter : Option PathFilter) (rootKind : Option String)
    (view : PathView) : Finding :=
  view.finding doc rootKind (pairs (keptViews doc filter))

theorem foundIn_foundAt (doc : Document) (filter : Option PathFilter) (rootKind : Option String)
    (view : PathView) : FoundAt doc rootKind view (foundIn doc filter rootKind view) :=
  finding_foundAt ..

theorem findings_eq_map (doc : Document) (filter : Option PathFilter)
    (rootKind : Option String) : findings doc filter rootKind =
      (decisions doc filter).entries.map fun entry =>
        entry.2.finding doc rootKind (pairs (keptViews doc filter)) entry.1 :=
  Dict.values_map ..

theorem row_path_of_foundAt {view : PathView} {finding : Finding}
    (h : FoundAt doc rootKind view finding) : finding.row.path = view.path := by
  cases h <;> rfl

/-- The findings are those of the filtered paths and of the kept ones. -/
theorem mem_findings_iff {finding : Finding} : finding ∈ findings doc filter rootKind ↔
    (∃ path item reason methods, doc.pathItems.get? path = some item ∧
      decidePath filter path item = .drop reason methods ∧
      finding = .filtered path reason methods) ∨
    ∃ view ∈ (keptViews doc filter).values, finding = foundIn doc filter rootKind view := by
  simp only [findings_eq_map, List.mem_map, Prod.exists, ← Dict.get?_eq_some_iff, get?_decisions,
    Option.map_eq_some_iff, mem_keptViews]
  constructor
  · rintro ⟨path, decision, ⟨item, hitem, hdecision⟩, rfl⟩
    cases decision with
    | keep view =>
      obtain rfl := path_of_decidePath hdecision
      exact .inr ⟨view, get?_keptViews.2 ⟨item, hitem, hdecision⟩, rfl⟩
    | drop reason methods => exact .inl ⟨path, item, reason, methods, hitem, hdecision, rfl⟩
  · rintro (⟨path, item, reason, methods, hitem, hdecision, rfl⟩ | ⟨view, hview, rfl⟩)
    · exact ⟨path, _, ⟨item, hitem, hdecision⟩, rfl⟩
    · obtain ⟨item, hitem, hdecision⟩ := get?_keptViews.1 hview
      exact ⟨view.path, _, ⟨item, hitem, hdecision⟩, rfl⟩

theorem foundIn_mem_findings {view : PathView} (h : view ∈ (keptViews doc filter).values) :
    foundIn doc filter rootKind view ∈ findings doc filter rootKind :=
  mem_findings_iff.2 (.inr ⟨view, h, rfl⟩)

/-- What is collected from findings that are not filtered comes from the kept paths. -/
theorem filterMap_findings {α : Type} {collect : Finding → Option α}
    (hcollect : ∀ path reason methods, collect (.filtered path reason methods) = none) :
    (findings doc filter rootKind).filterMap collect =
      (keptViews doc filter).values.filterMap (collect ∘ foundIn doc filter rootKind) := by
  rw [findings_eq_map, keptViews, Dict.values_filterMap, List.filterMap_map,
    List.filterMap_filterMap]
  congr 1
  funext entry
  obtain ⟨path, decision⟩ := entry
  cases decision with
  | keep view => rfl
  | drop reason methods => exact hcollect path reason methods

/-- What is collected from findings is collected at a kept path. -/
theorem exists_view_of_mem_filterMap {α : Type} {collect : Finding → Option α}
    (hcollect : ∀ path reason methods, collect (.filtered path reason methods) = none) {a : α}
    (h : a ∈ (findings doc filter rootKind).filterMap collect) :
    ∃ view ∈ (keptViews doc filter).values, collect (foundIn doc filter rootKind view) = some a := by
  rw [filterMap_findings hcollect] at h
  exact List.mem_filterMap.1 h

/-- What is found behind the decision for a path is found at this path. -/
theorem row_path_of_decision {path : String} {decision : Decision}
    (h : (decisions doc filter).get? path = some decision) (paired : Dict String) :
    (decision.finding doc rootKind paired path).row.path = path := by
  cases decision with
  | keep view =>
    rw [get?_decisions, Option.map_eq_some_iff] at h
    obtain ⟨item, -, h⟩ := h
    rw [← path_of_decidePath h]
    exact row_path_of_foundAt (finding_foundAt doc rootKind paired view)
  | drop reason methods => rfl

/-- Every path has one finding, in path order. -/
theorem paths_findings (doc : Document) (filter : Option PathFilter) (rootKind : Option String) :
    (findings doc filter rootKind).map (·.row.path) = doc.pathItems.keys := by
  rw [← keys_decisions doc filter, findings_eq_map, Dict.keys, List.map_map]
  exact List.map_congr_left fun entry hentry =>
    row_path_of_decision (Dict.get?_eq_some_iff.2 hentry) _

/-- What is found at a path, if there is such a path. -/
def findingAt? (doc : Document) (filter : Option PathFilter) (rootKind : Option String)
    (path : String) : Option Finding :=
  ((decisions doc filter).get? path).map fun decision =>
    decision.finding doc rootKind (pairs (keptViews doc filter)) path

/-- It is all that is found there. -/
theorem filter_findings (doc : Document) (filter : Option PathFilter) (rootKind : Option String)
    (path : String) : (findings doc filter rootKind).filter (·.row.path = path) =
      (findingAt? doc filter rootKind path).toList := by
  have hpaths : (decisions doc filter).entries.filter (fun entry => (entry.2.finding doc rootKind
      (pairs (keptViews doc filter)) entry.1).row.path = path) =
        (decisions doc filter).entries.filter (·.1 = path) :=
    List.filter_congr fun entry hentry => by
      rw [row_path_of_decision (Dict.get?_eq_some_iff.2 hentry)]
  rw [findings_eq_map, List.filter_map, findingAt?]
  simp only [Function.comp_def]
  rw [hpaths, Dict.filter_entries]
  cases (decisions doc filter).get? path <;> rfl

/-- Two findings at the same path are the same. -/
theorem eq_of_row_path {a b : Finding} (ha : a ∈ findings doc filter rootKind)
    (hb : b ∈ findings doc filter rootKind) (h : a.row.path = b.row.path) : a = b := by
  have hnodup : ((findings doc filter rootKind).map (·.row.path)).Nodup := by
    rw [paths_findings]; exact Dict.nodup_keys _
  exact List.inj_on_of_nodup_map hnodup ha hb h

end

end ApiKinds
