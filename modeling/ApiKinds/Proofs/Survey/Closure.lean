/-
  Catalogs are closed: the component names that they show are those of schemas that they have.

  * `Document.Spells`: a reference of the document to a schema spells a name.
  * `spells_of_shapes`: so it is with every name in the shape of a schema of the document.
  * `Catalog.Shows`: the places where a catalog shows a name, which are in the shapes that it
    displays (`spells_of_shows`).
  * `catalog_closed`: a catalog has the schemas whose names it shows, but for those at the start
    of a chain of references that is too long to be followed.
-/
import ApiKinds.Proofs.Api.Resolution
import ApiKinds.Proofs.Expansion.Origin
import ApiKinds.Proofs.Survey.Shapes

namespace ApiKinds

open Api

/-! ## Names that references spell -/

namespace Api.Document

/-- A reference of the document to a schema spells a name. -/
def Spells (doc : Document) (component : String) : Prop :=
  ∃ reference, doc.Mentions .schemas reference ∧ lastSegment reference = component

end Api.Document

section
variable {doc : Document} {operation : Operation} {schema : RefOr Schema} {component : String}

theorem mentions_of_uses (hschema : doc.Stands schema) {reference : String}
    (h : doc.Uses schema reference) : doc.Mentions .schemas reference := by
  rcases h with hmention | hmem
  · exact hschema.mentions hmention
  · rw [Document.schemaReferences] at hmem
    split at hmem
    · cases hmem
    · next components hcomponents =>
      obtain ⟨entry, hentry, hreference⟩ := List.mem_flatMap.1 hmem
      obtain ⟨name, hname⟩ := Dict.mem_values.1 hentry
      exact (Document.stands_component hcomponents hname).mentions
        ((mem_referencesOf_iff entry).1 hreference)

/-- The names in the shape of a schema of the document. -/
theorem spells_of_shapes {shape : Shape} (h : doc.Shapes shape) (hshows : shape.Shows component) :
    doc.Spells component := by
  obtain ⟨name, schema, hschema, hshape⟩ := h
  obtain ⟨reference, huses, hname⟩ := exists_uses_of_shows hshape hshows
  exact ⟨reference, mentions_of_uses hschema huses, hname⟩

/-- The component of a result is spelled by the schema of a response, or by that of the items
    of the list that it is. -/
theorem spells_of_queryResult (h : doc.Offers operation)
    (hcomponent : ((responseSchema? doc operation).map (queryResult doc)).bind (·.component) =
      some component) : doc.Spells component := by
  obtain ⟨result, hresult, hcomponent⟩ := Option.bind_eq_some_iff.1 hcomponent
  obtain ⟨schema, hschema, rfl⟩ := Option.map_eq_some_iff.1 hresult
  have hstands := stands_responseSchema? h hschema
  -- Unless the schema leads to a list, the name is that of the schema itself.
  have hself : schema.target?.map lastSegment = some component → doc.Spells component := by
    intro hself
    obtain ⟨reference, htarget, rfl⟩ := Option.map_eq_some_iff.1 hself
    cases schema with
    | ref target =>
      cases htarget
      exact ⟨_, hstands.mentions .here, rfl⟩
    | inline schema => cases htarget
  unfold queryResult at hcomponent
  split at hcomponent
  swap
  · exact hself hcomponent
  next target htarget =>
    split at hcomponent
    swap
    · exact hself hcomponent
    obtain ⟨reference, hitems, rfl⟩ := Option.map_eq_some_iff.1 hcomponent
    obtain ⟨items, hitems, hreference⟩ := Option.bind_eq_some_iff.1 hitems
    cases items with
    | inline schema => cases hreference
    | ref inner =>
      cases hreference
      have hmention : Schema.Mentions reference (.inline target) := .items hitems .here
      cases schema with
      | inline schema =>
        cases htarget
        exact ⟨_, hstands.mentions hmention, rfl⟩
      | ref outer =>
        exact ⟨_, mentions_of_uses hstands (.inr (mem_schemaReferences htarget hmention)), rfl⟩

end

/-! ## Names in catalogs -/

/-- A catalog shows the name of a component. -/
inductive Catalog.Shows (catalog : Catalog) (component : String) : Prop
  | schema {name shape} : catalog.schemas.get? name = some shape → shape.Shows component →
      Shows catalog component
  | resource {resource shape} : resource ∈ catalog.resources → resource.schema = some shape →
      shape.Shows component → Shows catalog component
  | requestBody {resource operation shape} : resource ∈ catalog.resources →
      operation ∈ resource.operations → operation.requestBody = some shape →
      shape.Shows component → Shows catalog component
  | responseBody {resource operation shape} : resource ∈ catalog.resources →
      operation ∈ resource.operations → operation.responseBody = some shape →
      shape.Shows component → Shows catalog component
  | actionRequest {endpoint shape} : endpoint ∈ catalog.actionEndpoints →
      endpoint.requestSchema = some shape → shape.Shows component → Shows catalog component
  | actionResponse {endpoint shape} : endpoint ∈ catalog.actionEndpoints →
      endpoint.responseSchema = some shape → shape.Shows component → Shows catalog component
  | queryResponse {endpoint shape} : endpoint ∈ catalog.queryEndpoints →
      endpoint.responseSchema = some shape → shape.Shows component → Shows catalog component
  | queryComponent {endpoint} : endpoint ∈ catalog.queryEndpoints →
      endpoint.responseComponent = some component → Shows catalog component

section
variable {doc : Document} {filter : Option PathFilter} {rootKind : Option String}
  {component : String}

/-- Every name that a catalog shows is spelled by a reference of its document. -/
theorem spells_of_shows (h : (doc.catalog filter rootKind).1.Shows component) :
    doc.Spells component := by
  have hshape {shape : Shape} (hdisplays : (doc.catalog filter rootKind).1.Displays shape) :
      shape.Shows component → doc.Spells component :=
    spells_of_shapes (shapes_of_displays hdisplays)
  cases h with
  | schema hget hshows => exact hshape (.schema hget) hshows
  | resource hresource hschema hshows => exact hshape (.resource hresource hschema) hshows
  | requestBody hresource hoperation hbody hshows =>
    exact hshape (.requestBody hresource hoperation hbody) hshows
  | responseBody hresource hoperation hbody hshows =>
    exact hshape (.responseBody hresource hoperation hbody) hshows
  | actionRequest hendpoint hbody hshows => exact hshape (.actionRequest hendpoint hbody) hshows
  | actionResponse hendpoint hbody hshows => exact hshape (.actionResponse hendpoint hbody) hshows
  | queryResponse hendpoint hbody hshows => exact hshape (.queryResponse hendpoint hbody) hshows
  | queryComponent hendpoint hcomponent =>
    obtain ⟨operation, hoperation, -, hresult⟩ := exists_offers_of_query hendpoint
    exact spells_of_queryResult hoperation (hresult ▸ hcomponent)

/-- A name that is spelled without an escape is that of a component schema. -/
theorem exists_schema_of_spells (hcheck : doc.check = .ok ()) (h : doc.Spells component)
    (hplain : unescapeName component.toList = component.toList) :
    ∃ components schema, doc.components = some components ∧
      components.schemas.get? component = some schema := by
  obtain ⟨reference, hmention, rfl⟩ := h
  obtain ⟨name, hname, hmem⟩ := names_of_check hcheck hmention
  rw [name_eq_unescape hname, hplain, String.ofList_toList, Dict.mem_keys] at hmem
  obtain ⟨schema, hschema⟩ := hmem
  rw [Document.entries] at hschema
  split at hschema
  · next components hcomponents => exact ⟨components, schema, hcomponents, hschema⟩
  · cases hschema

/-- A component schema is in the catalog unless it starts a chain of references that is too
    long. -/
theorem mem_keys_componentShapes (hcheck : doc.check = .ok ()) {components : Components}
    (hcomponents : doc.components = some components) {schema : RefOr Schema}
    (hschema : components.schemas.get? component = some schema) :
    component ∈ (componentShapes doc).keys ↔
      ∀ next, schema = .ref next → ¬ doc.AliasChain .schemas maxHops next := by
  rw [Dict.mem_keys, get?_componentShapes hcomponents hschema, ← Option.isSome_iff_exists,
    shape?_isSome]
  cases schema with
  | inline schema => simp [Document.schema?, resolveIn]
  | ref next =>
    have hresolves : (∃ target, doc.schema? (.ref next) = some target) ↔
        ¬ doc.AliasChain .schemas maxHops next :=
      resolve?_iff_of_check hcheck (.component hcomponents (.schema hschema .here))
    rw [Option.isSome_iff_exists, hresolves]
    simp

end

/-- **Catalogs of checked descriptions are closed**: a name that is shown anywhere, if it is
    spelled without an escape, is that of a component schema, and the catalog has it unless it
    is a reference at the start of a chain that is too long. -/
theorem catalog_closed {doc : Document} (hcheck : doc.check = .ok ())
    (filter : Option PathFilter) (rootKind : Option String) : ∀ component,
      (doc.catalog filter rootKind).1.Shows component →
      unescapeName component.toList = component.toList →
        ∃ components schema, doc.components = some components ∧
          components.schemas.get? component = some schema ∧
          (component ∈ (doc.catalog filter rootKind).1.schemas.keys ↔
            ∀ next, schema = .ref next → ¬ doc.AliasChain .schemas maxHops next) := by
  intro component hshows hplain
  obtain ⟨components, schema, hcomponents, hschema⟩ :=
    exists_schema_of_spells hcheck (spells_of_shows hshows) hplain
  exact ⟨components, schema, hcomponents, hschema,
    mem_keys_componentShapes hcheck hcomponents hschema⟩

/-- A description whose schemas form a chain of seventeen references, with queries for lists of
    its first and its second, and of a schema whose name has to be escaped. -/
def aliased : Document where
  openapi := some "3.0.0"
  info := { title := some "t", version := some "1" }
  paths := some <| .ofList [
    ("/escaped", { get := some (listing (entry "u~1v")) }),
    ("/first", { get := some (listing (entry "a")) }),
    ("/second", { get := some (listing (entry "b")) })]
  components := some {
    schemas := .ofList (("r", .inline {}) :: ("u/v", .inline {}) :: links.reverse) }
where
  names : List String := "abcdefghijklmnopqr".toList.map (String.ofList [·])
  entry (name : String) : String := referenceTo .schemas name
  links : List (String × RefOr Schema) :=
    (names.zip names.tail).map fun (name, next) => (name, .ref (entry next))
  listing (reference : String) : Operation :=
    { responses := .ofList [("200", .inline { content := .ofList [(jsonType, {
        schema := some (.inline { types := ["array"], items := some (.ref reference) }) })] })] }

theorem check_aliased : aliased.check = .ok () := by decide +kernel

theorem shows_aliased {component : String} (h : component ∈ ["u~1v", "a", "b"]) :
    (aliased.catalog none none).1.Shows component := by
  have hcomponents : (aliased.catalog none none).1.queryEndpoints.map (·.responseComponent) =
      ["u~1v", "a", "b"].map some := by decide +kernel
  have hmem : some component ∈
      (aliased.catalog none none).1.queryEndpoints.map (·.responseComponent) :=
    hcomponents ▸ List.mem_map_of_mem h
  obtain ⟨endpoint, hendpoint, hcomponent⟩ := List.mem_map.1 hmem
  exact .queryComponent hendpoint hcomponent

theorem mem_keys_aliased {component : String} (h : component ∈ ["u~1v", "a", "b"]) :
    component ∈ (aliased.catalog none none).1.schemas.keys ↔ component = "b" := by
  have hkeys : ["u~1v", "a", "b"].filter
      (· ∈ (aliased.catalog none none).1.schemas.keys) = ["b"] := by decide +kernel
  rw [← List.mem_singleton, ← hkeys, List.mem_filter, and_iff_right h, decide_eq_true_eq]

/-- The second schema of the chain is in the catalog, as the way from it is short enough. -/
theorem catalog_closed_aliased : aliased.check = .ok () ∧
    (aliased.catalog none none).1.Shows "b" ∧ unescapeName "b".toList = "b".toList ∧
      ¬ aliased.AliasChain .schemas maxHops (aliased.entry "c") := by
  have hshows : (aliased.catalog none none).1.Shows "b" := shows_aliased (by decide)
  obtain ⟨components, schema, hcomponents, hschema, hiff⟩ :=
    catalog_closed check_aliased none none "b" hshows (by decide)
  refine ⟨check_aliased, hshows, by decide, ?_⟩
  refine hiff.1 ((mem_keys_aliased (by decide)).2 rfl) _ ?_
  cases hcomponents
  exact Option.some.inj (hschema.symm.trans rfl)

/-- The first is not, nor is a schema under the name that a reference writes with an escape. -/
theorem unclosed_aliased : aliased.check = .ok () ∧
    (aliased.catalog none none).1.Shows "a" ∧
      "a" ∉ (aliased.catalog none none).1.schemas.keys ∧
    (aliased.catalog none none).1.Shows "u~1v" ∧
      "u~1v" ∉ (aliased.catalog none none).1.schemas.keys := by
  refine ⟨check_aliased, shows_aliased (by decide), ?_, shows_aliased (by decide), ?_⟩
  · rw [mem_keys_aliased (by decide)]
    decide
  · rw [mem_keys_aliased (by decide)]
    decide

end ApiKinds
