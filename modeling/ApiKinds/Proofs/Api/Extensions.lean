/-
  Descriptions without extensions.

  * `Document.withoutExtensions`: the document without the extensions of its schemas, and
    without those of its parameters but for the member that names a field.
  * `schema?_withoutExtensions` and its like: references are followed as before, to objects
    without extensions.
  * `check_withoutExtensions`: the check has the same outcome, down to the fault.
-/
import ApiKinds.Proofs.Api.Schema
import ApiKinds.Proofs.Api.Validity
import ApiKinds.Survey.Basic

namespace ApiKinds.Api

/-! ## Schemas -/

def Facets.withoutExtensions (facets : Facets) : Facets :=
  { facets with extensions := [] }

mutual
def Schema.withoutExtensions : Schema → Schema
  | ⟨facets, properties, items, allOf⟩ =>
    { toFacets := facets.withoutExtensions
      properties := withoutExtensionsInEntries properties
      items := match items with
        | none => none
        | some schema => some (withoutExtensionsIn schema)
      allOf := withoutExtensionsInList allOf }

/-- A reference, or a schema without extensions. -/
def withoutExtensionsIn : RefOr Schema → RefOr Schema
  | .ref target => .ref target
  | .inline schema => .inline schema.withoutExtensions

def withoutExtensionsInEntries : List (String × RefOr Schema) → List (String × RefOr Schema)
  | [] => []
  | (key, schema) :: rest => (key, withoutExtensionsIn schema) :: withoutExtensionsInEntries rest

def withoutExtensionsInList : List (RefOr Schema) → List (RefOr Schema)
  | [] => []
  | schema :: rest => withoutExtensionsIn schema :: withoutExtensionsInList rest
end

theorem withoutExtensionsIn_eq : withoutExtensionsIn = RefOr.map Schema.withoutExtensions := by
  funext schema
  cases schema <;> rw [withoutExtensionsIn, RefOr.map]

theorem withoutExtensionsInEntries_eq (entries : List (String × RefOr Schema)) :
    withoutExtensionsInEntries entries = entries.map fun p => (p.1, withoutExtensionsIn p.2) := by
  induction entries with
  | nil => rw [withoutExtensionsInEntries, List.map_nil]
  | cons entry rest ih => rw [withoutExtensionsInEntries, ih, List.map_cons]

theorem withoutExtensionsInList_eq (schemas : List (RefOr Schema)) :
    withoutExtensionsInList schemas = schemas.map withoutExtensionsIn := by
  induction schemas with
  | nil => rw [withoutExtensionsInList, List.map_nil]
  | cons schema rest ih => rw [withoutExtensionsInList, ih, List.map_cons]

theorem withoutExtensions_eq (schema : Schema) : schema.withoutExtensions =
    { toFacets := schema.toFacets.withoutExtensions
      properties := schema.properties.map fun p => (p.1, withoutExtensionsIn p.2)
      items := schema.items.map withoutExtensionsIn
      allOf := schema.allOf.map withoutExtensionsIn } := by
  obtain ⟨facets, properties, items, allOf⟩ := schema
  cases items <;>
    simp [Schema.withoutExtensions, withoutExtensionsInEntries_eq, withoutExtensionsInList_eq]

/-! ## Descriptions -/

/-- The parameter with none of its extensions but the one that names a field. -/
def Parameter.withoutExtensions (parameter : Parameter) : Parameter :=
  { parameter with
    schema := parameter.schema.map withoutExtensionsIn
    extensions := parameter.extensions.filterKeys (· == idFieldKey) }

def MediaType.withoutExtensions (media : MediaType) : MediaType where
  schema := media.schema.map withoutExtensionsIn

def RequestBody.withoutExtensions (body : RequestBody) : RequestBody :=
  { body with content := body.content.map fun _ => MediaType.withoutExtensions }

def Response.withoutExtensions (response : Response) : Response :=
  { response with content := response.content.map fun _ => MediaType.withoutExtensions }

def Operation.withoutExtensions (operation : Operation) : Operation :=
  { operation with
    parameters := operation.parameters.map (RefOr.map Parameter.withoutExtensions)
    requestBody := operation.requestBody.map (RefOr.map RequestBody.withoutExtensions)
    responses := operation.responses.map fun _ => RefOr.map Response.withoutExtensions }

def PathItem.withoutExtensions (item : PathItem) : PathItem where
  get := item.get.map Operation.withoutExtensions
  put := item.put.map Operation.withoutExtensions
  post := item.post.map Operation.withoutExtensions
  delete := item.delete.map Operation.withoutExtensions
  patch := item.patch.map Operation.withoutExtensions
  head := item.head.map Operation.withoutExtensions
  options := item.options.map Operation.withoutExtensions
  parameters := item.parameters.map (RefOr.map Parameter.withoutExtensions)

def Components.withoutExtensions (components : Components) : Components where
  schemas := components.schemas.map fun _ => withoutExtensionsIn
  parameters := components.parameters.map fun _ => RefOr.map Parameter.withoutExtensions
  requestBodies := components.requestBodies.map fun _ => RefOr.map RequestBody.withoutExtensions
  responses := components.responses.map fun _ => RefOr.map Response.withoutExtensions

/-- The document without the extensions of its schemas, and without those of its parameters
    but for the member that names a field. -/
def Document.withoutExtensions (doc : Document) : Document :=
  { doc with
    paths := doc.paths.map (.map fun _ => PathItem.withoutExtensions)
    components := doc.components.map Components.withoutExtensions }

theorem Document.pathItems_withoutExtensions (doc : Document) :
    doc.withoutExtensions.pathItems = doc.pathItems.map fun _ => PathItem.withoutExtensions := by
  rw [pathItems, pathItems, Document.withoutExtensions]
  cases doc.paths <;> rfl

/-! ## References -/

section
variable {α β : Type} (f : α → β) (kind : Section)

/-- References are followed through entries that are changed in place. -/
theorem follow_map (entries : Dict (RefOr α)) (hops : Nat) (reference : String) :
    follow kind (entries.map fun _ => RefOr.map f) hops reference =
      (follow kind entries hops reference).map f := by
  induction hops generalizing reference with
  | zero => rfl
  | succ hops ih =>
    rw [follow, follow]
    cases nameIn? kind reference with
    | none => rfl
    | some name =>
      simp only [bind, Option.bind_some, Dict.get?_map]
      rcases entries.get? name with _ | (next | value)
      · rfl
      · exact ih next
      · rfl

theorem resolveIn_map (entries : Option (Dict (RefOr α))) (object : RefOr α) :
    resolveIn kind (entries.map (.map fun _ => RefOr.map f)) (object.map f) =
      (resolveIn kind entries object).map f := by
  cases object with
  | inline value => rfl
  | ref reference =>
    cases entries with
    | none => rfl
    | some entries => exact follow_map f kind entries maxHops reference

end

namespace Document

variable (doc : Document)

theorem schema?_withoutExtensions (schema : RefOr Schema) :
    doc.withoutExtensions.schema? (withoutExtensionsIn schema) =
      (doc.schema? schema).map Schema.withoutExtensions := by
  have hentries : doc.withoutExtensions.components.map (·.schemas) =
      (doc.components.map (·.schemas)).map
        (.map fun _ => RefOr.map Schema.withoutExtensions) := by
    simp only [Document.withoutExtensions, Option.map_map, ← withoutExtensionsIn_eq]
    rfl
  rw [schema?, schema?, hentries, withoutExtensionsIn_eq, resolveIn_map]

theorem parameter?_withoutExtensions (parameter : RefOr Parameter) :
    doc.withoutExtensions.parameter? (parameter.map Parameter.withoutExtensions) =
      (doc.parameter? parameter).map Parameter.withoutExtensions := by
  rw [parameter?, parameter?, ← resolveIn_map, Option.map_map, Document.withoutExtensions,
    Option.map_map]
  rfl

theorem requestBody?_withoutExtensions (body : RefOr RequestBody) :
    doc.withoutExtensions.requestBody? (body.map RequestBody.withoutExtensions) =
      (doc.requestBody? body).map RequestBody.withoutExtensions := by
  rw [requestBody?, requestBody?, ← resolveIn_map, Option.map_map, Document.withoutExtensions,
    Option.map_map]
  rfl

theorem response?_withoutExtensions (response : RefOr Response) :
    doc.withoutExtensions.response? (response.map Response.withoutExtensions) =
      (doc.response? response).map Response.withoutExtensions := by
  rw [response?, response?, ← resolveIn_map, Option.map_map, Document.withoutExtensions,
    Option.map_map]
  rfl

end Document

/-! ## The check -/

section
variable {α β : Type}

theorem checkAll_congr {check check' : α → Check} {items : List α}
    (h : ∀ a ∈ items, check a = check' a) : checkAll check items = checkAll check' items := by
  induction items with
  | nil => rfl
  | cons a rest ih =>
    obtain ⟨ha, hrest⟩ := List.forall_mem_cons.1 h
    rw [checkAll, checkAll, ha, ih hrest]

theorem checkAll_map (check : β → Check) (f : α → β) (items : List α) :
    checkAll check (items.map f) = checkAll (check ∘ f) items := by
  induction items with
  | nil => rfl
  | cons a rest ih =>
    rw [List.map_cons, checkAll, checkAll, ih]
    rfl

theorem checkOption_map (check : β → Check) (f : α → β) (item : Option α) :
    checkOption check (item.map f) = checkOption (check ∘ f) item := by
  cases item <;> rfl

end

section
variable (check : String → Check)

theorem checkProperties_eq (properties : List (String × RefOr Schema)) :
    checkProperties check properties =
      checkAll (fun property => checkSchemaRef check property.2) properties := by
  induction properties with
  | nil => rw [checkProperties, checkAll]
  | cons property rest ih => rw [checkProperties, checkAll, ih]

theorem checkMembers_eq (members : List (RefOr Schema)) :
    checkMembers check members = checkAll (checkSchemaRef check) members := by
  induction members with
  | nil => rw [checkMembers, checkAll]
  | cons schema rest ih => rw [checkMembers, checkAll, ih]

theorem checkSchemaRef_withoutExtensions (schema : RefOr Schema) :
    checkSchemaRef check (withoutExtensionsIn schema) = checkSchemaRef check schema := by
  induction schema using Schema.induction with
  | ref target => rw [withoutExtensionsIn]
  | inline schema hproperties hitems hmembers =>
    obtain ⟨facets, properties, items, allOf⟩ := schema
    have hproperty : checkProperties check
        (properties.map fun p => (p.1, withoutExtensionsIn p.2)) =
          checkProperties check properties := by
      rw [checkProperties_eq, checkProperties_eq, checkAll_map]
      exact checkAll_congr fun property hmem => hproperties property.1 property.2 hmem
    have hitem : checkOption (checkSchemaRef check) (items.map withoutExtensionsIn) =
        checkOption (checkSchemaRef check) items := by
      cases items with
      | none => rfl
      | some part => exact hitems part rfl
    have hmember : checkMembers check (allOf.map withoutExtensionsIn) =
        checkMembers check allOf := by
      rw [checkMembers_eq, checkMembers_eq, checkAll_map]
      exact checkAll_congr hmembers
    rw [withoutExtensionsIn, checkSchemaRef, checkSchemaRef, withoutExtensions_eq, checkSchema_eq,
      checkSchema_eq, hproperty, hitem, hmember]

end

namespace Document

variable (doc : Document)

theorem checkReference_withoutExtensions :
    doc.withoutExtensions.checkReference = doc.checkReference := by
  have hcomponent : ∀ kind name,
      doc.withoutExtensions.hasComponent kind name = doc.hasComponent kind name := by
    intro kind name
    simp only [hasComponent, Document.withoutExtensions]
    cases doc.components with
    | none => rfl
    | some components =>
      cases kind <;>
        simp only [Option.map_some, Components.withoutExtensions, Components.names, Dict.keys_map]
  funext kind reference
  simp only [checkReference, hcomponent]

theorem checkSchema_withoutExtensions :
    doc.withoutExtensions.checkSchema ∘ withoutExtensionsIn = doc.checkSchema := by
  funext schema
  rw [Function.comp_apply, Document.checkSchema, checkSchemaRef_withoutExtensions,
    checkReference_withoutExtensions, Document.checkSchema]

/-- What is checked of an object is checked of the one in its place. -/
theorem checkRefOr_withoutExtensions {α : Type} {kind : Section} {check check' : α → Check}
    {f : α → α} (h : check ∘ f = check') :
    doc.withoutExtensions.checkRefOr kind check ∘ RefOr.map f = doc.checkRefOr kind check' := by
  funext object
  cases object with
  | ref reference => exact congrFun (congrFun doc.checkReference_withoutExtensions kind) reference
  | inline value => exact congrFun h value

theorem checkParameter_withoutExtensions :
    doc.withoutExtensions.checkParameter ∘ RefOr.map Parameter.withoutExtensions =
      doc.checkParameter := by
  refine doc.checkRefOr_withoutExtensions (funext fun parameter => ?_)
  simp only [Function.comp_apply, Parameter.withoutExtensions, checkOption_map,
    checkSchema_withoutExtensions]

theorem checkContent_withoutExtensions (content : Dict MediaType) :
    doc.withoutExtensions.checkContent (content.map fun _ => MediaType.withoutExtensions) =
      doc.checkContent content := by
  rw [checkContent, Dict.values_map_const, checkAll_map, checkContent]
  simp only [Function.comp_def, MediaType.withoutExtensions, checkOption_map]
  simp only [← Function.comp_def, checkSchema_withoutExtensions]

theorem checkRequestBody_withoutExtensions :
    doc.withoutExtensions.checkRequestBody ∘ RefOr.map RequestBody.withoutExtensions =
      doc.checkRequestBody :=
  doc.checkRefOr_withoutExtensions <| funext fun body =>
    doc.checkContent_withoutExtensions body.content

theorem checkResponse_withoutExtensions :
    doc.withoutExtensions.checkResponse ∘ RefOr.map Response.withoutExtensions =
      doc.checkResponse :=
  doc.checkRefOr_withoutExtensions <| funext fun response =>
    doc.checkContent_withoutExtensions response.content

theorem checkOperation_withoutExtensions (operation : Operation) :
    doc.withoutExtensions.checkOperation operation.withoutExtensions =
      doc.checkOperation operation := by
  simp only [checkOperation, Operation.withoutExtensions, Dict.values_map_const, checkAll_map,
    checkOption_map, checkParameter_withoutExtensions, checkRequestBody_withoutExtensions,
    checkResponse_withoutExtensions]

theorem checkPath_withoutExtensions (path : String) (item : PathItem) :
    doc.withoutExtensions.checkPath path item.withoutExtensions = doc.checkPath path item := by
  have hoperations : item.withoutExtensions.operations =
      item.operations.map Operation.withoutExtensions := by
    rw [PathItem.operations, PathItem.operations, List.map_filterMap]
    exact List.filterMap_map (f := Option.map Operation.withoutExtensions) (g := id)
      (l := [item.get, item.post, item.put, item.delete, item.patch, item.head, item.options])
  have hparameters : checkAll doc.withoutExtensions.checkParameter
      item.withoutExtensions.parameters = checkAll doc.checkParameter item.parameters := by
    rw [PathItem.withoutExtensions, checkAll_map, checkParameter_withoutExtensions]
  rw [checkPath, checkPath, hoperations, hparameters, checkAll_map]
  simp only [Function.comp_def, checkOperation_withoutExtensions]

theorem checkComponents_withoutExtensions (components : Components) :
    doc.withoutExtensions.checkComponents components.withoutExtensions =
      doc.checkComponents components := by
  have hschemas : checkAll
      (fun entry => (doc.withoutExtensions.checkSchema entry.2).within (.inSchema entry.1))
      components.withoutExtensions.schemas.entries = checkAll
        (fun entry => (doc.checkSchema entry.2).within (.inSchema entry.1))
        components.schemas.entries := by
    rw [Components.withoutExtensions, Dict.map, checkAll_map]
    exact checkAll_congr fun entry _ => congrArg (Check.within (.inSchema entry.1))
      (congrFun doc.checkSchema_withoutExtensions entry.2)
  rw [checkComponents, checkComponents, hschemas]
  simp only [Components.withoutExtensions, Dict.values_map_const, checkAll_map,
    checkParameter_withoutExtensions, checkRequestBody_withoutExtensions,
    checkResponse_withoutExtensions]

/-- Nothing that is left out is checked. -/
theorem check_withoutExtensions : doc.withoutExtensions.check = doc.check := by
  have hpaths : checkAll (fun entry => doc.withoutExtensions.checkPath entry.1 entry.2)
      (doc.withoutExtensions.paths.getD .empty).entries =
        checkAll (fun entry => doc.checkPath entry.1 entry.2) (doc.paths.getD .empty).entries := by
    rw [← Document.pathItems, ← Document.pathItems, pathItems_withoutExtensions, Dict.map,
      checkAll_map]
    exact checkAll_congr fun entry _ => doc.checkPath_withoutExtensions entry.1 entry.2
  have hcomponents : checkOption doc.withoutExtensions.checkComponents
      doc.withoutExtensions.components = checkOption doc.checkComponents doc.components := by
    have hcheck : doc.withoutExtensions.checkComponents ∘ Components.withoutExtensions =
        doc.checkComponents := funext doc.checkComponents_withoutExtensions
    rw [← hcheck, ← checkOption_map]
    rfl
  have hpresence : doc.withoutExtensions.checkPresence = doc.checkPresence := by
    rw [checkPresence, checkPresence, Document.withoutExtensions, Option.isNone_map]
  rw [check, check, hpaths, hcomponents, hpresence]
  rfl

end Document

end ApiKinds.Api
