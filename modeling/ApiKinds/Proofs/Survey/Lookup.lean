/-
  What a catalog finds under the name of an entry.

  * `find?_eq_some_iff_first`: of the elements with a name the first in the order of their keys
    is found.
  * `queryName?`, `name_of_actionEndpoint?`: the name of a query or action is that of its path.
  * `catalog_lookup`: every resource is found under its name; a query or action is, unless an
    earlier path gives the same name.
-/
import ApiKinds.Proofs.Survey.Partition

namespace ApiKinds

open Api

/-! ## Elements in order -/

/-- Of the elements with a name the one with the smallest key is found. -/
theorem find?_eq_some_iff_first {α : Type} {name key : α → String} {l : List α}
    (hsorted : l.Pairwise fun a b => key a < key b) {a : α} (ha : a ∈ l) :
    l.find? (name · == name a) = some a ↔ ∀ b ∈ l, name b = name a → key a ≤ key b := by
  induction l with
  | nil => simp at ha
  | cons first rest ih =>
    obtain ⟨hfirst, hrest⟩ := List.pairwise_cons.1 hsorted
    rw [List.find?_cons, List.forall_mem_cons]
    by_cases hname : name first = name a
    · rw [beq_iff_eq.2 hname]
      constructor
      · rintro ⟨⟩
        exact ⟨fun _ => String.le_refl _,
          fun b hb _ => String.not_lt.1 (String.lt_asymm (hfirst b hb))⟩
      · rintro ⟨hle, -⟩
        rcases List.mem_cons.1 ha with rfl | hmem
        · rfl
        · exact absurd (hfirst a hmem) (String.not_lt.2 (hle hname))
    · have hmem : a ∈ rest := (List.mem_cons.1 ha).resolve_left (by rintro rfl; exact hname rfl)
      rw [beq_eq_false_iff_ne.2 hname, ih hrest hmem]
      exact ⟨fun h => ⟨fun heq => absurd heq hname, h⟩, And.right⟩

/-- So it is if the names are read off from the keys. -/
theorem find?_eq_some_iff_first_named {α : Type} {name key : α → String} {l : List α}
    (hsorted : l.Pairwise fun a b => key a < key b) {named : String → Option String}
    (hnamed : ∀ a ∈ l, named (key a) = some (name a)) {a : α} (ha : a ∈ l) :
    l.find? (name · == name a) = some a ↔
      ∀ b ∈ l, named (key b) = named (key a) → key a ≤ key b := by
  rw [find?_eq_some_iff_first hsorted ha]
  refine forall₂_congr fun b hb => ?_
  rw [hnamed a ha, hnamed b hb, Option.some.injEq]

section
variable (doc : Document) (filter : Option PathFilter) (rootKind : Option String)

/-- Resources stand in the order of their names. -/
theorem pairwise_resources :
    (doc.survey filter rootKind).resources.Pairwise fun a b => a.name < b.name := by
  rw [← List.pairwise_map, Document.survey, Survey.ofFindings, names_gather]
  exact Dict.pairwise_keys _

/-- What is collected from findings stands in path order. -/
theorem pairwise_filterMap {α : Type} {collect : Finding → Option α} {path : α → String}
    (hpath : ∀ finding ∈ findings doc filter rootKind, ∀ a, collect finding = some a →
      path a = finding.row.path) :
    ((findings doc filter rootKind).filterMap collect).Pairwise fun a b => path a < path b := by
  have hfindings : (findings doc filter rootKind).Pairwise fun x y => x.row.path < y.row.path := by
    rw [← List.pairwise_map, paths_findings]
    exact Dict.pairwise_keys _
  refine List.pairwise_filterMap.2 (hfindings.imp_of_mem fun {x y} hx hy hlt a ha b hb => ?_)
  rw [hpath x hx a ha, hpath y hy b hb]
  exact hlt

theorem pairwise_queryEndpoints :
    (doc.survey filter rootKind).queryEndpoints.Pairwise fun a b => a.path < b.path := by
  refine pairwise_filterMap doc filter (namedKind? rootKind) ?_
  intro finding hfinding endpoint hendpoint
  have hrow := query?_eq_row hfinding
  rw [hendpoint, Option.map_some] at hrow
  split at hrow
  · exact congrArg Prod.fst (Option.some.inj hrow)
  · cases hrow

theorem pairwise_actionEndpoints :
    (doc.survey filter rootKind).actionEndpoints.Pairwise fun a b => a.path < b.path := by
  refine pairwise_filterMap doc filter (namedKind? rootKind) ?_
  intro finding hfinding endpoint hendpoint
  have hrow := action?_eq_row hfinding
  rw [hendpoint, Option.map_some] at hrow
  split at hrow
  · exact congrArg Prod.fst (Option.some.inj hrow)
  · cases hrow

end

/-! ## Names of paths -/

/-- The name of the query at a path: its segments without parameters, each with a capital
    letter. The root path has that of the root Kind. -/
def queryName? (rootKind : Option String) (path : String) : Option String :=
  (querySegments? rootKind path).map fun parts =>
    Text.join "" ((parts.filter (!Path.isParam ·)).map Word.upperCamelCase) ++ "Query"

/-- The name of the action at a path. -/
def actionName? (rootKind : Option String) (path : String) : Option String :=
  (actionNames? rootKind path).map (·.name)

section
variable {doc : Document} {rootKind : Option String} {view : PathView}

theorem name_of_queryEndpoint? {endpoint : QueryEndpoint}
    (h : queryEndpoint? doc rootKind view = some endpoint) :
    queryName? rootKind endpoint.path = some endpoint.name := by
  simp only [queryEndpoint?, bind, Option.bind_eq_some_iff] at h
  obtain ⟨operation, -, parts, hparts, h⟩ := h
  cases h
  rw [queryName?, hparts, Option.map_some]

theorem name_of_actionEndpoint? {endpoint : ActionEndpoint}
    (h : actionEndpoint? doc rootKind view = some endpoint) :
    actionName? rootKind endpoint.path = some endpoint.name := by
  simp only [actionEndpoint?, bind, Option.bind_eq_some_iff] at h
  obtain ⟨names, hnames, ⟨method, operation⟩, -, h⟩ := h
  cases h
  rw [actionName?, hnames, Option.map_some]

end

/-! ## Look-ups -/

section
variable {doc : Document} {filter : Option PathFilter} {rootKind : Option String}

/-- No two resources have the same name. -/
theorem resource?_name {resource : Resource}
    (h : resource ∈ (doc.catalog filter rootKind).1.resources) :
    (doc.catalog filter rootKind).1.resource? resource.name = some resource :=
  (find?_eq_some_iff_first (pairwise_resources doc filter rootKind) h).2 fun _ _ heq =>
    heq ▸ String.le_refl _

theorem queryEndpoint?_name_iff {endpoint : QueryEndpoint}
    (h : endpoint ∈ (doc.catalog filter rootKind).1.queryEndpoints) :
    (doc.catalog filter rootKind).1.queryEndpoint? endpoint.name = some endpoint ↔
      ∀ other ∈ (doc.catalog filter rootKind).1.queryEndpoints,
        queryName? (namedKind? rootKind) other.path =
            queryName? (namedKind? rootKind) endpoint.path → endpoint.path ≤ other.path := by
  refine find?_eq_some_iff_first_named (pairwise_queryEndpoints doc filter rootKind) ?_ h
  intro query hquery
  obtain ⟨view, -, hview⟩ := exists_view_of_query hquery
  exact name_of_queryEndpoint? hview

theorem actionEndpoint?_name_iff {endpoint : ActionEndpoint}
    (h : endpoint ∈ (doc.catalog filter rootKind).1.actionEndpoints) :
    (doc.catalog filter rootKind).1.actionEndpoint? endpoint.name = some endpoint ↔
      ∀ other ∈ (doc.catalog filter rootKind).1.actionEndpoints,
        actionName? (namedKind? rootKind) other.path =
            actionName? (namedKind? rootKind) endpoint.path → endpoint.path ≤ other.path := by
  refine find?_eq_some_iff_first_named (pairwise_actionEndpoints doc filter rootKind) ?_ h
  intro action haction
  obtain ⟨view, -, hview⟩ := exists_view_of_action haction
  exact name_of_actionEndpoint? hview

end

/-- **Every resource is found under its name, and a query or action is unless an earlier one has
    a path of the same name.** -/
theorem catalog_lookup (doc : Document) (filter : Option PathFilter) (rootKind : Option String) :
    (∀ resource ∈ (doc.catalog filter rootKind).1.resources,
      (doc.catalog filter rootKind).1.resource? resource.name = some resource) ∧
    (∀ query ∈ (doc.catalog filter rootKind).1.queryEndpoints,
      ((doc.catalog filter rootKind).1.queryEndpoint? query.name = some query ↔
        ∀ other ∈ (doc.catalog filter rootKind).1.queryEndpoints,
          queryName? (namedKind? rootKind) other.path =
            queryName? (namedKind? rootKind) query.path → query.path ≤ other.path)) ∧
    ∀ action ∈ (doc.catalog filter rootKind).1.actionEndpoints,
      ((doc.catalog filter rootKind).1.actionEndpoint? action.name = some action ↔
        ∀ other ∈ (doc.catalog filter rootKind).1.actionEndpoints,
          actionName? (namedKind? rootKind) other.path =
            actionName? (namedKind? rootKind) action.path → action.path ≤ other.path) :=
  ⟨fun _ => resource?_name, fun _ => queryEndpoint?_name_iff, fun _ => actionEndpoint?_name_iff⟩

/-- A document with two queries and two actions whose paths differ in a parameter or in a
    separator. -/
def homonymous : Document where
  paths := some <| .ofList [
    ("/pets/find", { get := some {} }),
    ("/pets/\x7bpetId\x7d/find", { get := some {} }),
    ("/user-login", { post := some {} }),
    ("/user_login", { post := some {} })]

/-- Only one query and one action of each name are found. -/
theorem unfound_of_homonymous :
    (∃ query ∈ (homonymous.catalog none none).1.queryEndpoints,
      (homonymous.catalog none none).1.queryEndpoint? query.name ≠ some query) ∧
    ∃ action ∈ (homonymous.catalog none none).1.actionEndpoints,
      (homonymous.catalog none none).1.actionEndpoint? action.name ≠ some action := by
  have hquery : ∃ query ∈ (homonymous.catalog none none).1.queryEndpoints,
      ((homonymous.catalog none none).1.queryEndpoint? query.name).map (·.path) ≠
        some query.path := by decide +kernel
  have haction : ∃ action ∈ (homonymous.catalog none none).1.actionEndpoints,
      ((homonymous.catalog none none).1.actionEndpoint? action.name).map (·.path) ≠
        some action.path := by decide +kernel
  obtain ⟨query, hmem, hne⟩ := hquery
  obtain ⟨action, hmem', hne'⟩ := haction
  exact ⟨⟨query, hmem, fun heq => hne (congrArg (Option.map (·.path)) heq)⟩,
    action, hmem', fun heq => hne' (congrArg (Option.map (·.path)) heq)⟩

end ApiKinds
