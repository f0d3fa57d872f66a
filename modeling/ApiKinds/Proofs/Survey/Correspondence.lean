/-
  Two surveys side by side: how a relation between the operations of two documents carries
  over to all that is decided and found.

  * `PathView.Corresponds R`: two views of one path have related operations for the same
    methods.
  * `decidePath_mirrors`: a filter decides alike on related paths, as long as their operations
    have the same ids and tags.
  * `pairs_congr`: pairs depend on paths and methods only.
  * `Finding.Matches`, `finding_matches`: the only place where the classifier is opened for two
    views at once; what is found matches if the endpoints do.
  * `Document.Mirrors.findings`: so it is for all paths of two documents.
-/
import ApiKinds.Proofs.Survey.Findings
import ApiKinds.Proofs.Verb

namespace ApiKinds

open Api

/-! ## Views -/

section
variable {R S : Operation → Operation → Prop} {a b : PathView}

/-- Two views of one path with related operations for the same methods. -/
structure PathView.Corresponds (R : Operation → Operation → Prop) (a b : PathView) : Prop where
  path : a.path = b.path
  operations : List.Forall₂ (fun x y => x.1 = y.1 ∧ R x.2 y.2) a.operations b.operations

namespace PathView.Corresponds

theorem mono (h : a.Corresponds R b) (hRS : ∀ x y, R x y → S x y) : a.Corresponds S b where
  path := h.path
  operations := h.operations.imp fun _ _ hxy => ⟨hxy.1, hRS _ _ hxy.2⟩

variable (h : a.Corresponds R b)
include h

theorem methods : a.operations.map (·.1) = b.operations.map (·.1) := by
  rw [← List.forall₂_eq_eq_eq, List.forall₂_map_left_iff, List.forall₂_map_right_iff]
  exact h.operations.imp fun _ _ hxy => hxy.1

theorem has (method : Method) : a.has method = b.has method := by
  have hmethods := congrArg (List.any · (· = method)) h.methods
  simpa only [PathView.has, List.any_map, Function.comp_def] using hmethods

theorem isEmpty : a.operations.isEmpty = b.operations.isEmpty := by
  have hmethods := congrArg List.isEmpty h.methods
  simpa only [List.isEmpty_map] using hmethods

theorem operation? (method : Method) :
    Option.Rel R (a.operation? method) (b.operation? method) := by
  rw [PathView.operation?, PathView.operation?]
  have hoperations := h.operations
  generalize a.operations = as at hoperations
  generalize b.operations = bs at hoperations
  induction hoperations with
  | nil => exact .none
  | cons hxy _ ih =>
    rw [List.find?_cons, List.find?_cons, hxy.1]
    split
    · exact .some hxy.2
    · exact ih

theorem isActionShape : isActionShape a = isActionShape b := by
  simp only [ApiKinds.isActionShape, h.path, h.has]

theorem isQueryShape : isQueryShape a = isQueryShape b := by
  simp only [ApiKinds.isQueryShape, h.has]

theorem actionOperation? (action : String) :
    Option.Rel (fun x y => x.1 = y.1 ∧ R x.2 y.2) (actionOperation? a action)
      (actionOperation? b action) := by
  have hoption : ∀ method, Option.Rel (fun x y => x.1 = y.1 ∧ R x.2 y.2)
      ((a.operation? method).map (method, ·)) ((b.operation? method).map (method, ·)) :=
    fun method => rel_map (h.operation? method) fun _ _ hxy => ⟨rfl, hxy⟩
  rw [ApiKinds.actionOperation?, ApiKinds.actionOperation?]
  refine rel_orElse (hoption .post) (rel_orElse (hoption .put) ?_)
  split
  · exact hoption .get
  · exact .none

end PathView.Corresponds

end

/-! ## Decisions -/

/-- Two operations have the same id and tags, which are all that a filter looks at. -/
structure Api.Operation.SameLabels (a b : Operation) : Prop where
  operationId : a.operationId = b.operationId
  tags : a.tags = b.tags

/-- Two paths have related operations under the same verbs, HEAD and OPTIONS included. -/
def Api.PathItem.Corresponds (R : Operation → Operation → Prop) (item other : PathItem) : Prop :=
  ∀ verb, Option.Rel R (item.at? verb) (other.at? verb)

/-- Views that correspond, of related paths, and with the same operations filtered. -/
structure PathView.Mirrors (Q : PathItem → PathItem → Prop) (R : Operation → Operation → Prop)
    (a b : PathView) : Prop extends a.Corresponds R b where
  item : Q a.item b.item
  excluded : a.excluded = b.excluded

/-- The same decision about two paths. -/
inductive Decision.Mirrors (Q : PathItem → PathItem → Prop) (R : Operation → Operation → Prop) :
    Decision → Decision → Prop
  | keep {a b : PathView} : a.Mirrors Q R b → Mirrors Q R (.keep a) (.keep b)
  | drop {reason methods} : Mirrors Q R (.drop reason methods) (.drop reason methods)

section
variable {Q : PathItem → PathItem → Prop} {R : Operation → Operation → Prop}

theorem rel_operation? {item other : PathItem} (h : item.Corresponds R other) (method : Method) :
    Option.Rel R (item.operation? method) (other.operation? method) := by
  cases method with
  | get => exact h .get
  | post => exact h .post
  | put => exact h .put
  | patch => exact h .patch
  | delete => exact h .delete

theorem whole_mirrors {item other : PathItem} (hitem : Q item other) (h : item.Corresponds R other)
    (path : String) : (PathView.whole path item).Mirrors Q R (.whole path other) where
  path := rfl
  item := hitem
  excluded := rfl
  operations := by
    refine List.rel_filterMap ?_ (List.forall₂_same.2 fun method _ => Eq.refl method)
    rintro method _ rfl
    exact rel_map (rel_operation? h method) fun _ _ hxy => ⟨rfl, hxy⟩

theorem PathView.Mirrors.methodsLabel {a b : PathView} (h : a.Mirrors Q R b) :
    a.methodsLabel = b.methodsLabel := by
  have hnames : a.operations.map (·.1.name) = b.operations.map (·.1.name) := by
    have hmethods := congrArg (List.map Method.name) h.methods
    simpa only [List.map_map, Function.comp_def] using hmethods
  rw [PathView.methodsLabel, PathView.methodsLabel, hnames, h.excluded]

section
variable (hlabels : ∀ x y, R x y → x.SameLabels y)
include hlabels

theorem tags_congr {item other : PathItem} (h : item.Corresponds R other) :
    item.tags = other.tags := by
  have hoperations : List.Forall₂ R item.operations other.operations := by
    refine List.rel_filterMap (R := Option.Rel R) (fun _ _ hxy => hxy) ?_
    exact .cons (h .get) (.cons (h .post) (.cons (h .put) (.cons (h .delete) (.cons (h .patch)
      (.cons (h .head) (.cons (h .options) .nil))))))
  have htags : item.operations.map (·.tags) = other.operations.map (·.tags) :=
    map_eq_of_forall₂ hoperations fun _ _ hxy => (hlabels _ _ hxy).tags
  rw [PathItem.tags, PathItem.tags, List.flatMap_def, List.flatMap_def, htags]

/-- The same ids are admitted on both sides. -/
theorem PathView.Mirrors.restrict {a b : PathView} (h : a.Mirrors Q R b)
    (admits : String → Bool) : (a.restrict admits).Mirrors Q R (b.restrict admits) := by
  have hid : ∀ x y, R x y → x.idText = y.idText := fun x y hxy => by
    rw [Operation.idText, Operation.idText, (hlabels x y hxy).operationId]
  have hfilter : ∀ keeps : String → Bool,
      List.Forall₂ (fun x y => x.1 = y.1 ∧ R x.2 y.2)
        (a.operations.filter fun entry => keeps entry.2.idText)
        (b.operations.filter fun entry => keeps entry.2.idText) :=
    fun keeps => List.rel_filter (fun x y hxy => by simp only [hid _ _ hxy.2]) h.operations
  exact {
    path := h.path
    operations := hfilter admits
    item := h.item
    excluded := map_eq_of_forall₂ (hfilter (!admits ·)) fun x y hxy => by
      rw [excludedLabel, excludedLabel, hxy.1, hid _ _ hxy.2] }

theorem decide_mirrors {item other : PathItem} (hitem : Q item other)
    (h : item.Corresponds R other) (filter : PathFilter) (path : String) :
    (filter.decide path item).Mirrors Q R (filter.decide path other) := by
  have hwhole := whole_mirrors hitem h path
  have hleft := hwhole.restrict hlabels filter.admitsOperation
  -- Path, tags and ids are all that is asked, and all are the same, so both take one branch.
  simp only [PathFilter.decide, tags_congr hlabels h, hwhole.methodsLabel, hleft.methodsLabel,
    hleft.isEmpty, hleft.excluded]
  split
  · exact .drop
  split
  · exact .drop
  split
  · exact .keep hwhole
  split
  · exact .drop
  · exact .keep hleft

/-- A filter decides the same about related paths. -/
theorem decidePath_mirrors {item other : PathItem} (hitem : Q item other)
    (h : item.Corresponds R other) (filter : Option PathFilter) (path : String) :
    (decidePath filter path item).Mirrors Q R (decidePath filter path other) := by
  have hwhole := Decision.Mirrors.keep (whole_mirrors hitem h path)
  cases filter with
  | none => exact hwhole
  | some filter =>
    rw [decidePath, decidePath]
    split
    · exact decide_mirrors hlabels hitem h filter path
    · exact hwhole

end

end

/-! ## Pairs -/

section
variable {R : Operation → Operation → Prop}

theorem pairedItem?_congr {as bs : List PathView}
    (h : List.Forall₂ (PathView.Corresponds R) as bs) {a b : PathView} (hab : a.Corresponds R b) :
    pairedItem? (itemsByCollection as) a = pairedItem? (itemsByCollection bs) b := by
  have hitems : List.Forall₂ (fun x y => x.1 = y.1 ∧ x.2.Corresponds R y.2)
      (itemsByCollection as) (itemsByCollection bs) := by
    refine List.rel_filterMap (fun x y hxy => ?_) h
    rw [hxy.path]
    cases Path.collectionOf? y.path with
    | none => exact .none
    | some collection => exact .some ⟨rfl, hxy⟩
  have hget := Entries.get?_rel (R := fun _ => PathView.Corresponds R) hitems b.path
  simp only [pairedItem?, hab.has, hab.path]
  generalize Entries.get? b.path (itemsByCollection as) = found at hget
  generalize Entries.get? b.path (itemsByCollection bs) = other at hget
  cases hget with
  | none => rfl
  | some hitem => simp only [hitem.has, hitem.path]

/-- What is paired depends on paths and methods only. -/
theorem pairs_congr {as bs : Dict PathView}
    (h : List.Forall₂ (fun x y => x.1 = y.1 ∧ x.2.Corresponds R y.2) as.entries bs.entries) :
    pairs as = pairs bs := by
  have hvalues : List.Forall₂ (PathView.Corresponds R) as.values bs.values := by
    rw [Dict.values, Dict.values, List.forall₂_map_left_iff, List.forall₂_map_right_iff]
    exact h.imp fun _ _ hxy => hxy.2
  apply Dict.ext
  exact filterMap_eq_of_forall₂ h fun x y hxy => by
    simp only [hxy.1, pairedItem?_congr hvalues hxy.2]

end

/-! ## Findings -/

/-- The same sort of finding, with related views and endpoints. -/
inductive Finding.Matches (V : PathView → PathView → Prop)
    (A : ActionEndpoint → ActionEndpoint → Prop) (E : QueryEndpoint → QueryEndpoint → Prop) :
    Finding → Finding → Prop
  | filtered {path reason methods} :
      Matches V A E (.filtered path reason methods) (.filtered path reason methods)
  | skipped {a b} : V a b → Matches V A E (.skipped a) (.skipped b)
  | dropped {a b} : V a b → Matches V A E (.dropped a) (.dropped b)
  | action {a b endpoint endpoint'} : V a b → A endpoint endpoint' →
      Matches V A E (.action a endpoint) (.action b endpoint')
  | query {a b endpoint endpoint'} : V a b → E endpoint endpoint' →
      Matches V A E (.query a endpoint) (.query b endpoint')
  | resource {a b outcome name} : V a b →
      Matches V A E (.resource a outcome name) (.resource b outcome name)

namespace Finding.Matches

variable {V : PathView → PathView → Prop} {A : ActionEndpoint → ActionEndpoint → Prop}
  {E : QueryEndpoint → QueryEndpoint → Prop} {x y : Finding} (h : x.Matches V A E y)
include h

theorem action? : Option.Rel A x.action? y.action? := by
  cases h with
  | action _ hendpoint => exact .some hendpoint
  | _ => exact .none

theorem query? : Option.Rel E x.query? y.query? := by
  cases h with
  | query _ hendpoint => exact .some hendpoint
  | _ => exact .none

theorem contribution? :
    Option.Rel (fun c d => c.1 = d.1 ∧ V c.2 d.2) x.contribution? y.contribution? := by
  cases h with
  | resource hview => exact .some ⟨rfl, hview⟩
  | _ => exact .none

/-- Rows show the path and methods of a view, and the names of an endpoint. -/
theorem row (hV : ∀ a b, V a b → a.path = b.path ∧ a.methodsLabel = b.methodsLabel)
    (hA : ∀ a b, A a b → a.name = b.name ∧ a.parentIdParam = b.parentIdParam)
    (hE : ∀ a b, E a b → a.name = b.name) : x.row = y.row := by
  cases h with
  | filtered => rfl
  | skipped hview | dropped hview | resource hview =>
    obtain ⟨hpath, hmethods⟩ := hV _ _ hview
    rw [Finding.row, Finding.row, hpath, hmethods]
  | action hview hendpoint =>
    obtain ⟨hpath, hmethods⟩ := hV _ _ hview
    obtain ⟨hname, hparam⟩ := hA _ _ hendpoint
    rw [Finding.row, Finding.row, hpath, hmethods, hname, hparam]
  | query hview hendpoint =>
    obtain ⟨hpath, hmethods⟩ := hV _ _ hview
    rw [Finding.row, Finding.row, hpath, hmethods, hE _ _ hendpoint]

end Finding.Matches

theorem Finding.Matches.eq {x y : Finding} (h : x.Matches Eq Eq Eq y) : x = y := by
  cases h with
  | filtered => rfl
  | skipped hview | dropped hview | resource hview => rw [hview]
  | action hview hendpoint | query hview hendpoint => rw [hview, hendpoint]

section
variable {V : PathView → PathView → Prop} {A : ActionEndpoint → ActionEndpoint → Prop}
  {E : QueryEndpoint → QueryEndpoint → Prop} {R : Operation → Operation → Prop}
  {doc other : Document} {rootKind : Option String} {a b : PathView}

theorem unnamed_matches (hpath : a.path = b.path) (hview : V a b) :
    (unnamed rootKind a).Matches V A E (unnamed rootKind b) := by
  simp only [unnamed, hpath]
  split
  · exact .dropped hview
  · exact .skipped hview

theorem contribution_matches (hview : V a b) (outcome : Outcome) (name : String) :
    (contribution a outcome name).Matches V A E (contribution b outcome name) := by
  simp only [contribution]
  split
  · exact .skipped hview
  · exact .resource hview

variable (h : a.Corresponds R b) (hview : V a b)
  (haction : Option.Rel A (actionEndpoint? doc rootKind a) (actionEndpoint? other rootKind b))
  (hquery : Option.Rel E (queryEndpoint? doc rootKind a) (queryEndpoint? other rootKind b))
include h hview haction hquery

theorem singleFinding_matches (paired : Dict String) :
    (a.singleFinding doc rootKind paired).Matches V A E
      (b.singleFinding other rootKind paired) := by
  simp only [PathView.singleFinding, h.path, h.isActionShape, h.isQueryShape]
  split
  · generalize actionEndpoint? doc rootKind a = found at haction
    generalize actionEndpoint? other rootKind b = found' at haction
    cases haction with
    | none => exact unnamed_matches h.path hview
    | some hendpoint => exact .action hview hendpoint
  split
  · generalize queryEndpoint? doc rootKind a = found at hquery
    generalize queryEndpoint? other rootKind b = found' at hquery
    cases hquery with
    | none => exact unnamed_matches h.path hview
    | some hendpoint => exact .query hview hendpoint
  · exact contribution_matches hview _ _

/-- With the same pairs, what is found at corresponding views matches if the endpoints do. -/
theorem finding_matches (paired : Dict String) :
    (a.finding doc rootKind paired).Matches V A E (b.finding other rootKind paired) := by
  simp only [PathView.finding, h.path, h.isEmpty]
  split
  · exact .skipped hview
  split
  · exact contribution_matches hview _ _
  · exact singleFinding_matches h hview haction hquery paired

end

/-! ## All findings -/

section
variable {Q : PathItem → PathItem → Prop} {R : Operation → Operation → Prop}
  {V : PathView → PathView → Prop} {A : ActionEndpoint → ActionEndpoint → Prop}
  {E : QueryEndpoint → QueryEndpoint → Prop} {doc other : Document}

/-- Two documents have related paths, whose operations are related and labelled alike. -/
structure Api.Document.Mirrors (Q : PathItem → PathItem → Prop)
    (R : Operation → Operation → Prop) (doc other : Document) : Prop where
  items : ∀ path, Option.Rel Q (doc.pathItems.get? path) (other.pathItems.get? path)
  operations : ∀ item item', Q item item' → item.Corresponds R item'
  labels : ∀ x y, R x y → x.SameLabels y

namespace Api.Document.Mirrors

variable (h : doc.Mirrors Q R other) (filter : Option PathFilter)
include h

theorem decisions : List.Forall₂ (fun x y => x.1 = y.1 ∧ x.2.Mirrors Q R y.2)
    (decisions doc filter).entries (decisions other filter).entries := by
  refine Dict.forall₂_entries fun path => ?_
  rw [get?_decisions, get?_decisions]
  exact rel_map (h.items path) fun item item' hitem =>
    decidePath_mirrors h.labels hitem (h.operations item item' hitem) filter path

theorem keptViews : List.Forall₂ (fun x y => x.1 = y.1 ∧ x.2.Mirrors Q R y.2)
    (keptViews doc filter).entries (keptViews other filter).entries := by
  refine List.rel_filterMap ?_ (h.decisions filter)
  rintro ⟨path, decision⟩ ⟨_, decision'⟩ ⟨rfl, hdecision⟩
  cases hdecision with
  | keep hview => exact .some ⟨rfl, hview⟩
  | drop => exact .none

theorem pairs : pairs (ApiKinds.keptViews doc filter) =
    ApiKinds.pairs (ApiKinds.keptViews other filter) :=
  pairs_congr (R := R) ((h.keptViews filter).imp fun _ _ hxy => ⟨hxy.1, hxy.2.toCorresponds⟩)

/-- What is found in two documents matches if the endpoints of kept paths do. -/
theorem findings (rootKind : Option String) (hV : ∀ a b, a.Mirrors Q R b → V a b)
    (hA : ∀ a b, a.Mirrors Q R b →
      Option.Rel A (actionEndpoint? doc rootKind a) (actionEndpoint? other rootKind b))
    (hE : ∀ a b, a.Mirrors Q R b →
      Option.Rel E (queryEndpoint? doc rootKind a) (queryEndpoint? other rootKind b)) :
    List.Forall₂ (Finding.Matches V A E) (findings doc filter rootKind)
      (findings other filter rootKind) := by
  rw [findings_eq_map, findings_eq_map, List.forall₂_map_left_iff, List.forall₂_map_right_iff,
    h.pairs filter]
  refine (h.decisions filter).imp ?_
  rintro ⟨path, decision⟩ ⟨_, decision'⟩ ⟨rfl, hdecision⟩
  cases hdecision with
  | keep hview =>
    exact finding_matches hview.toCorresponds (hV _ _ hview) (hA _ _ hview) (hE _ _ hview) _
  | drop => exact .filtered

end Api.Document.Mirrors

end

end ApiKinds
