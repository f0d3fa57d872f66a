/-
  The outcomes of a survey depend on the outline of a document only: on its paths with their
  methods, operation ids and tags, and not on what is said of parameters, bodies and schemas.

  * `Document.SameOutline`: two documents have the same outline.
  * `actionEndpoint?_named`, `queryEndpoint?_named`: whether there is an endpoint at a path,
    and what it is called, is the same in both.
  * `survey_outline`: so are all outcomes.
-/
import ApiKinds.Proofs.Survey.Correspondence
import ApiKinds.Proofs.Survey.Partition

namespace ApiKinds

open Api

/-! ## Outlines -/

/-- Two documents have the same paths, with operations of the same ids and tags under the same
    verbs, HEAD and OPTIONS included. -/
def Api.Document.SameOutline (doc other : Document) : Prop :=
  ∀ path, Option.Rel (PathItem.Corresponds Operation.SameLabels) (doc.pathItems.get? path)
    (other.pathItems.get? path)

theorem Api.Document.SameOutline.mirrors {doc other : Document} (h : doc.SameOutline other) :
    doc.Mirrors (PathItem.Corresponds Operation.SameLabels) Operation.SameLabels other where
  items := h
  operations _ _ hitem := hitem
  labels _ _ hoperation := hoperation

/-- The outline of a document, which leaves out all else. -/
def Api.Document.outline (doc : Document) : Document where
  paths := doc.paths.map (·.map fun _ => outlined)
where
  label (operation : Operation) : Operation :=
    { operationId := operation.operationId, tags := operation.tags }
  outlined (item : PathItem) : PathItem :=
    { get := item.get.map label
      put := item.put.map label
      post := item.post.map label
      delete := item.delete.map label
      patch := item.patch.map label
      head := item.head.map label
      options := item.options.map label }

theorem sameOutline_outline (doc : Document) : doc.SameOutline doc.outline := by
  have hpaths : doc.outline.pathItems = doc.pathItems.map fun _ => Document.outline.outlined := by
    rw [Document.pathItems, Document.pathItems, Document.outline]
    cases doc.paths <;> rfl
  have hlabel : ∀ operation : Option Operation,
      Option.Rel Operation.SameLabels operation (operation.map Document.outline.label)
    | none => .none
    | some _ => .some ⟨rfl, rfl⟩
  intro path
  rw [hpaths, Dict.get?_map]
  cases doc.pathItems.get? path with
  | none => exact .none
  | some item => exact .some fun verb => by cases verb <;> exact hlabel _

/-! ## Names of endpoints -/

/-- Two actions are called the same. -/
structure ActionEndpoint.SameName (a b : ActionEndpoint) : Prop where
  name : a.name = b.name
  path : a.path = b.path
  parentIdParam : a.parentIdParam = b.parentIdParam

/-- Two queries are called the same. -/
structure QueryEndpoint.SameName (a b : QueryEndpoint) : Prop where
  name : a.name = b.name
  path : a.path = b.path

section
variable {doc other : Document} {R : Operation → Operation → Prop} {a b : PathView}
  (h : a.Corresponds R b) (rootKind : Option String)
include h

theorem actionEndpoint?_named : Option.Rel ActionEndpoint.SameName
    (actionEndpoint? doc rootKind a) (actionEndpoint? other rootKind b) := by
  rw [actionEndpoint?, actionEndpoint?, h.path]
  refine rel_bind (rel_eq_iff.2 (Eq.refl (actionNames? rootKind b.path))) ?_
  rintro names _ rfl
  exact rel_bind (h.actionOperation? names.action) fun _ _ _ => .some ⟨rfl, rfl, rfl⟩

theorem queryEndpoint?_named : Option.Rel QueryEndpoint.SameName
    (queryEndpoint? doc rootKind a) (queryEndpoint? other rootKind b) := by
  refine rel_bind (h.operation? .get) fun _ _ _ => ?_
  rw [h.path]
  refine rel_bind (rel_eq_iff.2 (Eq.refl (querySegments? rootKind b.path))) ?_
  rintro parts _ rfl
  exact .some ⟨rfl, rfl⟩

end

/-! ## Outcomes -/

/-- Two surveys have the same outcomes. -/
structure Survey.SameOutcomes (a b : Survey) : Prop where
  report : a.report = b.report
  resources : a.resources.map (·.name) = b.resources.map (·.name)
  queryEndpoints : List.Forall₂ QueryEndpoint.SameName a.queryEndpoints b.queryEndpoints
  actionEndpoints : List.Forall₂ ActionEndpoint.SameName a.actionEndpoints b.actionEndpoints

/-- The names of resources are those that are contributed to. -/
theorem names_gather_congr {doc other : Document} {as bs : List (String × PathView)}
    (h : as.map (·.1) = bs.map (·.1)) :
    (gather doc as).map (·.name) = (gather other bs).map (·.name) := by
  have hmem : ∀ (doc : Document) (cs : List (String × PathView)) (name : String),
      name ∈ (drafts doc cs).keys ↔ name ∈ cs.map (·.1) := by
    intro doc cs name
    rw [← names_gather, mem_names_gather, List.mem_map]
    constructor
    · rintro ⟨view, hview⟩
      exact ⟨_, hview, rfl⟩
    · rintro ⟨⟨_, view⟩, hview, rfl⟩
      exact ⟨view, hview⟩
  rw [names_gather, names_gather]
  exact Dict.keys_eq_of_mem_iff fun name => by rw [hmem, hmem, h]

/-- **Documents with the same outline have the same outcomes, whatever else they say.** -/
theorem survey_outline {doc other : Document} (h : doc.SameOutline other)
    (filter : Option PathFilter) (rootKind : Option String) :
    (doc.survey filter rootKind).SameOutcomes (other.survey filter rootKind) := by
  have hfindings := h.mirrors.findings filter (namedKind? rootKind)
    (V := fun a b => a.path = b.path ∧ a.methodsLabel = b.methodsLabel)
    (fun _ _ hview => ⟨hview.path, hview.methodsLabel⟩)
    (fun _ _ hview => actionEndpoint?_named hview.toCorresponds _)
    (fun _ _ hview => queryEndpoint?_named hview.toCorresponds _)
  constructor
  case report =>
    exact congrArg Report.mk <| map_eq_of_forall₂ hfindings fun _ _ hmatches =>
      hmatches.row (fun _ _ hview => hview) (fun _ _ hnames => ⟨hnames.name, hnames.parentIdParam⟩)
        fun _ _ hnames => hnames.name
  case resources =>
    have hcontributions := List.rel_filterMap
      (fun _ _ hmatches => Finding.Matches.contribution? hmatches) hfindings
    exact names_gather_congr (map_eq_of_forall₂ hcontributions fun _ _ hsame => hsame.1)
  case queryEndpoints => exact List.rel_filterMap (fun _ _ hmatches => hmatches.query?) hfindings
  case actionEndpoints => exact List.rel_filterMap (fun _ _ hmatches => hmatches.action?) hfindings

/-- A document that says something of its parameters, bodies and schemas. -/
def describedPets : Document where
  paths := some <| .ofList [
    ("/pets", {
      get := some {
        operationId := some "listPets"
        tags := ["pets"]
        parameters := [.inline { name := "limit", location := "query" }]
        responses := .ofList [("200", .inline { content := .ofList [
          ("application/json", { schema := some (.ref "#/components/schemas/Pet") })] })] }
      post := some {
        operationId := some "addPet"
        tags := ["pets"]
        requestBody := some (.inline { content := .ofList [
          ("application/json", { schema := some (.ref "#/components/schemas/Pet") })] }) }
      head := some { operationId := some "countPets", tags := ["counts"] } }),
    ("/pets/\x7bpetId\x7d", {
      get := some { operationId := some "getPet", description := some "One pet." }
      put := some { operationId := some "changePet" }
      parameters := [.inline { name := "petId", location := "path", required := true }] }),
    ("/pets/\x7bpetId\x7d/feed", { post := some { operationId := some "feedPet" } })]
  components := some { schemas := .ofList [("Pet", .inline { types := ["object"] })] }

/-- Without all this the outcomes stay the same. -/
theorem sameOutcomes_describedPets : describedPets.SameOutline describedPets.outline ∧
    (describedPets.survey none none).SameOutcomes (describedPets.outline.survey none none) :=
  ⟨sameOutline_outline _, survey_outline (sameOutline_outline _) none none⟩

end ApiKinds
