/-
  References to parameters, request bodies and responses are transparent: copies of what they
  lead to, in their place, change nothing of the catalog or the report.

  * `Document.Inlined`: a document with some of these references replaced by copies.
  * `readAlike_of_copied`: an operation shows the same with copies as with references.
  * `catalog_inlined`: so does the document.
-/
import ApiKinds.Proofs.Api.Reference
import ApiKinds.Proofs.Survey.Frame

namespace ApiKinds

open Api

/-! ## Copies -/

namespace Api.Document

variable (doc : Document)

/-- The same, or a copy of the object that a reference leads to in place of it. -/
inductive Copied (kind : Section) : RefOr kind.Object → RefOr kind.Object → Prop
  | same {object} : Copied kind object object
  | copy {reference object} : doc.resolve? kind (.ref reference) = some object →
      Copied kind (.ref reference) (.inline object)

structure CopiedOperation (operation copy : Operation) : Prop where
  parameters : List.Forall₂ (doc.Copied .parameters) operation.parameters copy.parameters
  requestBody : Option.Rel (doc.Copied .requestBodies) operation.requestBody copy.requestBody
  responses : ∀ code, Option.Rel (doc.Copied .responses) (operation.responses.get? code)
    (copy.responses.get? code)
  rest : copy = { operation with
    parameters := copy.parameters
    requestBody := copy.requestBody
    responses := copy.responses }

structure CopiedPath (item copy : PathItem) : Prop where
  parameters : List.Forall₂ (doc.Copied .parameters) item.parameters copy.parameters
  operations : ∀ verb, Option.Rel doc.CopiedOperation (item.at? verb) (copy.at? verb)

/-- The document with copies in place of some references of its paths. -/
structure Inlined (copy : Document) : Prop where
  paths : ∀ path, Option.Rel doc.CopiedPath (doc.pathItems.get? path) (copy.pathItems.get? path)
  rest : copy = { doc with paths := copy.paths }

end Api.Document

/-! ## What is read of copies -/

section
variable {doc : Document} {item item' : PathItem} {operation copy : Operation}

theorem resolve?_of_copied {kind : Section} {object object' : RefOr kind.Object}
    (h : doc.Copied kind object object') :
    doc.resolve? kind object = doc.resolve? kind object' := by
  cases h with
  | same => rfl
  | copy hobject => exact hobject

/-- What is read of an object behind a reference is read of a copy. -/
theorem bind_resolve?_of_copied {kind : Section} {object object' : Option (RefOr kind.Object)}
    (h : Option.Rel (doc.Copied kind) object object') :
    object.bind (doc.resolve? kind) = object'.bind (doc.resolve? kind) :=
  rel_eq_iff.1 <| rel_bind h fun _ _ hcopied => rel_eq_iff.2 (resolve?_of_copied hcopied)

theorem effectiveParameters_of_copied
    (hitem : List.Forall₂ (doc.Copied .parameters) item.parameters item'.parameters)
    (h : doc.CopiedOperation operation copy) :
    effectiveParameters doc item operation = effectiveParameters doc item' copy := by
  have hresolved : ∀ {as bs : List (RefOr Parameter)},
      List.Forall₂ (doc.Copied .parameters) as bs →
        as.filterMap doc.parameter? = bs.filterMap doc.parameter? :=
    fun hcopied => filterMap_eq_of_forall₂ hcopied fun _ _ => resolve?_of_copied
  rw [effectiveParameters, effectiveParameters, hresolved hitem, hresolved h.parameters]

theorem requestSchema?_of_copied (h : doc.CopiedOperation operation copy) :
    requestSchema? doc operation = requestSchema? doc copy := by
  have hbody : operation.requestBody.bind doc.requestBody? =
      copy.requestBody.bind doc.requestBody? := bind_resolve?_of_copied h.requestBody
  funext mediaType
  simp only [requestSchema?, bind, ← Option.bind_assoc, hbody]

theorem responseSchema?_of_copied (h : doc.CopiedOperation operation copy) :
    responseSchema? doc operation = responseSchema? doc copy := by
  have hcode : responseSchemaFor? doc operation = responseSchemaFor? doc copy := by
    funext code
    have hresponse : (operation.responses.get? code).bind doc.response? =
        (copy.responses.get? code).bind doc.response? := bind_resolve?_of_copied (h.responses code)
    simp only [responseSchemaFor?, bind, ← Option.bind_assoc, hresponse]
  rw [responseSchema?, responseSchema?, hcode]

/-- An operation with copies shows the same as the one with references. -/
theorem readAlike_of_copied
    (hitem : List.Forall₂ (doc.Copied .parameters) item.parameters item'.parameters)
    (h : doc.CopiedOperation operation copy) : operation.ReadAlike doc doc item item' copy where
  operationId := by rw [h.rest]
  summary := by rw [h.rest]
  description := by rw [h.rest]
  params expandArrays := by
    rw [shownParams, shownParams, effectiveParameters_of_copied hitem h]
  actionBody := by rw [actionBody, actionBody, requestSchema?_of_copied h]
  entity := by rw [requestSchema?_of_copied h]
  request name := by rw [requestShape?, requestShape?, requestSchema?_of_copied h]
  response name := by rw [responseShape?, responseShape?, responseSchema?_of_copied h]
  result := by rw [responseSchema?_of_copied h]

end

/-! ## Catalogs -/

section
variable {doc copy : Document} (h : doc.Inlined copy)
include h

theorem Api.Document.Inlined.mirrors : doc.Mirrors doc.CopiedPath doc.CopiedOperation copy where
  items := h.paths
  operations _ _ hitem := hitem.operations
  labels _ _ hoperation := ⟨by rw [hoperation.rest], by rw [hoperation.rest]⟩

theorem Api.Document.Inlined.readAlike {a b : PathView}
    (hview : a.Mirrors doc.CopiedPath doc.CopiedOperation b) : a.ReadAlike doc copy b := by
  -- First the copies in the same document, then the same operation in the other document.
  refine hview.toCorresponds.mono fun operation operation' hoperation => ?_
  have hcopied := readAlike_of_copied hview.item.parameters hoperation
  have hpaths := readAlike_withPaths doc copy.paths (a := b.item) rfl operation'
  rw [h.rest]
  exact hcopied.trans hpaths.symm

theorem survey_inlined (filter : Option PathFilter) (rootKind : Option String) :
    doc.survey filter rootKind = copy.survey filter rootKind :=
  h.mirrors.survey (fun _ _ => h.readAlike) filter rootKind

/-- **Copies in place of references change neither catalog nor report.** -/
theorem catalog_inlined (filter : Option PathFilter) (rootKind : Option String) :
    doc.catalog filter rootKind = copy.catalog filter rootKind := by
  have hshapes : componentShapes copy = componentShapes doc := by
    rw [h.rest]
    exact componentShapes_withPaths doc copy.paths
  rw [Document.catalog, Document.catalog, survey_inlined h, hshapes, h.rest]

end

/-- A document with one operation, whose path shares a parameter. -/
def sharedPets (limit : RefOr Parameter) (body : RefOr RequestBody) (response : RefOr Response) :
    Document where
  paths := some (.ofList [("/pets", pets limit body response)])
  components := some {
    parameters := .ofList [
      ("limit", .ref "#/components/parameters/page"),
      ("page", .inline page),
      ("tenant", .inline header)]
    requestBodies := .ofList [("pet", .inline pet)]
    responses := .ofList [("done", .inline done)] }
where
  pets (limit : RefOr Parameter) (body : RefOr RequestBody) (response : RefOr Response) :
      PathItem :=
    { parameters := [.ref "#/components/parameters/tenant"]
      post := some {
        parameters := [limit]
        requestBody := some body
        responses := .ofList [("200", response)] } }
  page : Parameter := { name := "limit", location := "query" }
  header : Parameter := { name := "tenant", location := "header" }
  pet : RequestBody :=
    { content := .ofList [("application/json", { schema := some (.inline {}) })] }
  done : Response := { content := .ofList [("application/json", { schema := some (.inline {}) })] }

/-- A copy may stand at the end of two references, and some references may stay. -/
theorem inlined_sharedPets :
    (sharedPets (.ref "#/components/parameters/limit") (.ref "#/components/requestBodies/pet")
        (.ref "#/components/responses/done")).Inlined
      (sharedPets (.inline sharedPets.page) (.inline sharedPets.pet) (.inline sharedPets.done)) := by
  have hpaths : ∀ limit body response, (sharedPets limit body response).pathItems =
      .ofList [("/pets", sharedPets.pets limit body response)] := fun _ _ _ => rfl
  refine ⟨?_, rfl⟩
  rw [hpaths, hpaths]
  refine Dict.rel_get?_singleton ⟨.cons .same .nil, fun verb => ?_⟩ "/pets"
  cases verb with
  | post =>
    exact .some ⟨.cons (.copy rfl) .nil, .some (.copy rfl),
      Dict.rel_get?_singleton (.copy rfl) "200", rfl⟩
  | _ => exact .none

/-- Then the catalog is the same. -/
theorem catalog_sharedPets :
    (sharedPets (.ref "#/components/parameters/limit") (.ref "#/components/requestBodies/pet")
        (.ref "#/components/responses/done")).catalog none none =
      (sharedPets (.inline sharedPets.page) (.inline sharedPets.pet)
        (.inline sharedPets.done)).catalog none none :=
  catalog_inlined inlined_sharedPets none none

end ApiKinds
