/-
  The shapes in a catalog, and the schemas that they are shapes of.

  * `Document.Offers`: the document has an operation; `exists_offers_of_operation` and its like:
    what a catalog lists comes from such operations.
  * `Document.Shapes`: a shape is that of a schema that stands in the document.
  * `Catalog.Displays`: the places of shapes in a catalog; `shapes_of_displays` goes through
    them.
-/
import ApiKinds.Proofs.Api.Place
import ApiKinds.Proofs.Api.Schema
import ApiKinds.Proofs.Survey.Partition

namespace ApiKinds

open Api

namespace Api.Document

/-- The document has an operation. -/
def Offers (doc : Document) (operation : Operation) : Prop :=
  ∃ path verb, doc.operationAt? path verb = some operation

/-- The shape of a schema that stands in the document, under some name. -/
def Shapes (doc : Document) (shape : Shape) : Prop :=
  ∃ name schema, doc.Stands schema ∧ doc.shape? name schema = some shape

end Api.Document

/-! ## Shapes of operations -/

section
variable {doc : Document} {operation : Operation} {schema : RefOr Schema} {shape : Shape}

theorem shapes_of_bind {o : Option (RefOr Schema)} {name : String}
    (hstands : ∀ schema, o = some schema → doc.Stands schema)
    (hshape : o.bind (doc.shape? name) = some shape) : doc.Shapes shape := by
  obtain ⟨schema, hschema, hshape⟩ := Option.bind_eq_some_iff.1 hshape
  exact ⟨name, schema, hstands schema hschema, hshape⟩

/-- The schema of a response stands in a response of the operation, and leads to a schema. -/
theorem exists_media_of_responseSchema? (h : responseSchema? doc operation = some schema) :
    ∃ code response object media, operation.responses.get? code = some response ∧
      doc.response? response = some object ∧ object.content.get? jsonType = some media ∧
      media.schema = some schema ∧ (doc.schema? schema).isSome := by
  obtain ⟨code, -, hcode⟩ := List.exists_of_findSome?_eq_some h
  simp only [responseSchemaFor?, bind, Option.bind_eq_some_iff] at hcode
  obtain ⟨response, hresponse, object, hobject, media, hmedia, found, hfound, hif⟩ := hcode
  split at hif
  · next hsome =>
    cases hif
    exact ⟨code, response, object, media, hresponse, hobject, hmedia, hfound, hsome⟩
  · cases hif

section
variable (h : doc.Offers operation)
include h

theorem stands_requestSchema? {mediaType : String}
    (hschema : requestSchema? doc operation mediaType = some schema) : doc.Stands schema := by
  obtain ⟨path, verb, hoperation⟩ := h
  simp only [requestSchema?, bind, Option.bind_eq_some_iff] at hschema
  obtain ⟨body, hbody, object, hobject, hcontent⟩ := hschema
  replace hcontent : contentSchema? object.content mediaType = some schema :=
    Option.bind_eq_some_iff.2 hcontent
  cases body with
  | inline value =>
    cases hobject
    refine ⟨.body path verb mediaType, ?_⟩
    simp only [Document.schemaAt?, hoperation, hbody, RefOr.inline?, Option.bind_eq_bind,
      Option.bind_some, hcontent]
  | ref target =>
    obtain ⟨components, name, hcomponents, hentry⟩ :=
      exists_component_of_resolve? .requestBodies hobject
    replace hentry : components.requestBodies.get? name = some (.inline object) := hentry
    refine ⟨.requestBody name mediaType, ?_⟩
    simp only [Document.schemaAt?, hcomponents, hentry, RefOr.inline?, Option.bind_eq_bind,
      Option.bind_some, hcontent]

theorem stands_responseSchema? (hschema : responseSchema? doc operation = some schema) :
    doc.Stands schema := by
  obtain ⟨path, verb, hoperation⟩ := h
  obtain ⟨code, response, object, media, hresponse, hobject, hmedia, hfound, -⟩ :=
    exists_media_of_responseSchema? hschema
  have hcontent : contentSchema? object.content jsonType = some schema :=
    Option.bind_eq_some_iff.2 ⟨media, hmedia, hfound⟩
  cases response with
  | inline value =>
    cases hobject
    refine ⟨.answer path verb code jsonType, ?_⟩
    simp only [Document.schemaAt?, hoperation, hresponse, RefOr.inline?, Option.bind_eq_bind,
      Option.bind_some, hcontent]
  | ref target =>
    obtain ⟨components, name, hcomponents, hentry⟩ :=
      exists_component_of_resolve? .responses hobject
    replace hentry : components.responses.get? name = some (.inline object) := hentry
    refine ⟨.response name jsonType, ?_⟩
    simp only [Document.schemaAt?, hcomponents, hentry, RefOr.inline?, Option.bind_eq_bind,
      Option.bind_some, hcontent]

theorem shapes_requestShape? {name : String}
    (hshape : requestShape? doc operation name = some shape) : doc.Shapes shape :=
  shapes_of_bind (fun _ hschema => stands_requestSchema? h hschema) hshape

theorem shapes_responseShape? {name : String}
    (hshape : responseShape? doc operation name = some shape) : doc.Shapes shape :=
  shapes_of_bind (fun _ hschema => stands_responseSchema? h hschema) hshape

theorem shapes_actionBody (hshape : (actionBody doc operation).schema = some shape) :
    doc.Shapes shape := by
  refine shapes_of_bind (fun schema hschema => ?_) hshape
  simp only [Option.orElse_eq_orElse, Option.orElse_eq_or, Option.or_eq_some_iff] at hschema
  rcases hschema with hbytes | ⟨-, hform | ⟨-, hjson⟩⟩
  · exact stands_requestSchema? h hbytes
  · exact stands_requestSchema? h hform
  · exact stands_requestSchema? h hjson

end

end

/-! ## Shapes at kept paths -/

section
variable {doc : Document} {filter : Option PathFilter} {rootKind : Option String}
  {view : PathView}

theorem offers_of_kept (hview : view ∈ (keptViews doc filter).values) {method : Method}
    {operation : Operation} (hoperation : view.operation? method = some operation) :
    doc.Offers operation := by
  have hverb : ∃ verb, view.item.at? verb = view.item.operation? method := by
    cases method with
    | get => exact ⟨.get, rfl⟩
    | post => exact ⟨.post, rfl⟩
    | put => exact ⟨.put, rfl⟩
    | patch => exact ⟨.patch, rfl⟩
    | delete => exact ⟨.delete, rfl⟩
  obtain ⟨verb, hverb⟩ := hverb
  refine ⟨view.path, verb, ?_⟩
  rw [Document.operationAt?, get?_pathItems_of_kept hview, Option.bind_some, hverb,
    operation?_item_of_kept hview hoperation]

theorem shapes_resourceShape? (hview : view ∈ (keptViews doc filter).values) {shape : Shape}
    (hshape : resourceShape? doc view = some shape) : doc.Shapes shape := by
  obtain ⟨method, -, hmethod⟩ := List.exists_of_findSome?_eq_some hshape
  simp only [bind, Option.bind_eq_some_iff] at hmethod
  obtain ⟨operation, hoperation, schema, hschema, hentity⟩ := hmethod
  have hstands := stands_requestSchema? (offers_of_kept hview hoperation) hschema
  cases schema with
  | ref reference => exact ⟨_, _, hstands, hentity⟩
  | inline schema => exact ⟨_, _, hstands, hentity⟩

/-- An action comes from an operation of a kept path. -/
theorem exists_offers_of_action {endpoint : ActionEndpoint}
    (h : endpoint ∈ (doc.survey filter rootKind).actionEndpoints) : ∃ operation,
      doc.Offers operation ∧ endpoint.requestSchema = (actionBody doc operation).schema ∧
        endpoint.responseSchema = responseShape? doc operation "Response" := by
  obtain ⟨view, hview, haction⟩ := exists_view_of_action h
  simp only [actionEndpoint?, bind, Option.bind_eq_some_iff] at haction
  obtain ⟨names, -, ⟨method, operation⟩, hoperation, heq⟩ := haction
  cases heq
  have hfound := (method_of_actionOperation? hoperation).1
  exact ⟨operation, offers_of_kept hview hfound, rfl, rfl⟩

/-- A query comes from the operation that reads a kept path. -/
theorem exists_get_of_query {endpoint : QueryEndpoint}
    (h : endpoint ∈ (doc.survey filter rootKind).queryEndpoints) :
    ∃ view ∈ (keptViews doc filter).values, ∃ operation,
      view.path = endpoint.path ∧ view.operation? .get = some operation ∧
        endpoint.responseSchema = responseShape? doc operation "Response" ∧
        endpoint.responseComponent =
          ((responseSchema? doc operation).map (queryResult doc)).bind (·.component) ∧
        endpoint.responseIsArray =
          ((responseSchema? doc operation).map (queryResult doc)).any (·.isArray) := by
  obtain ⟨view, hview, hquery⟩ := exists_view_of_query h
  simp only [queryEndpoint?, bind, Option.bind_eq_some_iff] at hquery
  obtain ⟨operation, hoperation, parts, -, heq⟩ := hquery
  cases heq
  exact ⟨view, hview, operation, rfl, hoperation, rfl, rfl, rfl⟩

theorem exists_offers_of_query {endpoint : QueryEndpoint}
    (h : endpoint ∈ (doc.survey filter rootKind).queryEndpoints) : ∃ operation,
      doc.Offers operation ∧ endpoint.responseSchema = responseShape? doc operation "Response" ∧
        endpoint.responseComponent =
          ((responseSchema? doc operation).map (queryResult doc)).bind (·.component) := by
  obtain ⟨view, hview, operation, -, hoperation, hresponse, hcomponent, -⟩ := exists_get_of_query h
  exact ⟨operation, offers_of_kept hview hoperation, hresponse, hcomponent⟩

/-- An operation of a resource comes from one of a kept path. -/
theorem exists_offers_of_operation {resource : Resource} {operation : ResourceOperation}
    (hresource : resource ∈ (doc.survey filter rootKind).resources)
    (hoperation : operation ∈ resource.operations) : ∃ raw, doc.Offers raw ∧
      operation.requestBody = requestShape? doc raw "RequestBody" ∧
        operation.responseBody = responseShape? doc raw "ResponseBody" := by
  obtain ⟨draft, hholds, hdraft⟩ := exists_draft_of_mem_gather hresource
  rw [hdraft] at hoperation
  obtain ⟨view, raw, hsource, hraw, heq⟩ := hholds.mem_operations hoperation
  obtain ⟨hmem, -⟩ := sourceFor?_mem hsource
  have hview := (mem_contributions.1 (mem_viewsOf.1 hmem)).1
  exact ⟨raw, offers_of_kept hview hraw, by rw [heq]; rfl, by rw [heq]; rfl⟩

/-- The schema of a resource comes from a kept path. -/
theorem shapes_of_resource {resource : Resource} {shape : Shape}
    (hresource : resource ∈ (doc.survey filter rootKind).resources)
    (hshape : resource.schema = some shape) : doc.Shapes shape := by
  obtain ⟨draft, hholds, rfl⟩ := exists_draft_of_mem_gather hresource
  have hschema : draft.schema = some shape := hshape
  rw [hholds.schema] at hschema
  obtain ⟨view, hmem, hview⟩ := List.exists_of_findSome?_eq_some hschema
  exact shapes_resourceShape? (mem_contributions.1 (mem_viewsOf.1 hmem)).1 hview

end

/-! ## Shapes in catalogs -/

/-- A catalog displays a shape. -/
inductive Catalog.Displays (catalog : Catalog) (shape : Shape) : Prop
  | schema {name} : catalog.schemas.get? name = some shape → Displays catalog shape
  | resource {resource} : resource ∈ catalog.resources → resource.schema = some shape →
      Displays catalog shape
  | requestBody {resource operation} : resource ∈ catalog.resources →
      operation ∈ resource.operations → operation.requestBody = some shape →
      Displays catalog shape
  | responseBody {resource operation} : resource ∈ catalog.resources →
      operation ∈ resource.operations → operation.responseBody = some shape →
      Displays catalog shape
  | actionRequest {endpoint} : endpoint ∈ catalog.actionEndpoints →
      endpoint.requestSchema = some shape → Displays catalog shape
  | actionResponse {endpoint} : endpoint ∈ catalog.actionEndpoints →
      endpoint.responseSchema = some shape → Displays catalog shape
  | queryResponse {endpoint} : endpoint ∈ catalog.queryEndpoints →
      endpoint.responseSchema = some shape → Displays catalog shape

/-- **Every shape in a catalog is that of a schema that stands in the document.** -/
theorem shapes_of_displays {doc : Document} {filter : Option PathFilter}
    {rootKind : Option String} {shape : Shape}
    (h : (doc.catalog filter rootKind).1.Displays shape) : doc.Shapes shape := by
  cases h with
  | schema hget =>
    cases hcomponents : doc.components with
    | none => simp [Document.catalog, componentShapes, hcomponents] at hget
    | some components =>
      simp only [Document.catalog, componentShapes, hcomponents,
        Dict.get?_filterMap_eq_some_iff] at hget
      obtain ⟨schema, hschema, hshape⟩ := hget
      exact ⟨_, schema, Document.stands_component hcomponents hschema, hshape⟩
  | resource hresource hshape => exact shapes_of_resource hresource hshape
  | requestBody hresource hoperation hshape =>
    obtain ⟨raw, hraw, hrequest, -⟩ := exists_offers_of_operation hresource hoperation
    exact shapes_requestShape? hraw (hrequest ▸ hshape)
  | responseBody hresource hoperation hshape =>
    obtain ⟨raw, hraw, -, hresponse⟩ := exists_offers_of_operation hresource hoperation
    exact shapes_responseShape? hraw (hresponse ▸ hshape)
  | actionRequest hendpoint hshape =>
    obtain ⟨operation, hoperation, hrequest, -⟩ := exists_offers_of_action hendpoint
    exact shapes_actionBody hoperation (hrequest ▸ hshape)
  | actionResponse hendpoint hshape =>
    obtain ⟨operation, hoperation, -, hresponse⟩ := exists_offers_of_action hendpoint
    exact shapes_responseShape? hoperation (hresponse ▸ hshape)
  | queryResponse hendpoint hshape =>
    obtain ⟨operation, hoperation, hresponse, -⟩ := exists_offers_of_query hendpoint
    exact shapes_responseShape? hoperation (hresponse ▸ hshape)

end ApiKinds
