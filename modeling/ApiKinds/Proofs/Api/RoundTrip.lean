/-
  API descriptions that are written and read back.

  * `Parameter.Storable`, `Operation.Storable`, `Document.Storable` and their like: the schemas
    of an object can be stored, and the extensions of its parameters.
  * `yields_document`: so it is with all descriptions that are read from regular values.
  * `read?_document`: descriptions that can be stored are read back as they were written.
  * `Document.Storable.stands`: the schemas that stand in such a description can be stored.
-/
import ApiKinds.Proofs.Api.Place
import ApiKinds.Proofs.Api.SchemaRoundTrip
import ApiKinds.Proofs.Verb

namespace ApiKinds.Api

open Json

variable {unique : Prop}

/-! ## References and objects -/

/-- If an object is written in place, it has the property. -/
def RefOr.All {α : Type} (P : α → Prop) (object : RefOr α) : Prop :=
  ∀ value, object = .inline value → P value

section
variable {α : Type} {P : α → Prop} {read : Json → Option α} {write : α → Json}

theorem yields_refOr (h : ∀ value, Json.Regular unique value → reference? value = none →
    ∀ a ∈ read value, P a) : Yields unique (RefOr.read? read) (RefOr.All P) := by
  rintro value hvalue object hobject a rfl
  rw [RefOr.read?] at hobject
  cases hreference : reference? value with
  | some target =>
    rw [hreference] at hobject
    cases hobject
  | none =>
    rw [hreference] at hobject
    obtain ⟨a, ha, heq⟩ := Option.map_eq_some_iff.1 hobject
    cases heq
    exact h value hvalue hreference a ha

theorem refOr_read?_toJson {object : RefOr α}
    (hplain : object.All fun a => reference? (write a) = none)
    (h : object.All fun a => read (write a) = some a) :
    RefOr.read? read (object.toJson write) = some object := by
  cases object with
  | ref target => rfl
  | inline a => rw [RefOr.toJson, RefOr.read?, hplain a rfl, h a rfl]; rfl

end

/-! ## Objects that can be stored -/

structure Parameter.Storable (unique : Prop) (parameter : Parameter) : Prop where
  schema : ∀ schema ∈ parameter.schema, Schema.Storable unique schema
  extensions : Others fieldNames parameter.extensions.entries
  plain : unique → NoReference parameter.extensions.entries

def MediaType.Storable (unique : Prop) (media : MediaType) : Prop :=
  ∀ schema ∈ media.schema, Schema.Storable unique schema

def RequestBody.Storable (unique : Prop) (body : RequestBody) : Prop :=
  ∀ type media, body.content.get? type = some media → media.Storable unique

def Response.Storable (unique : Prop) (response : Response) : Prop :=
  ∀ type media, response.content.get? type = some media → media.Storable unique

structure Operation.Storable (unique : Prop) (operation : Operation) : Prop where
  parameters : ∀ parameter ∈ operation.parameters, parameter.All (Parameter.Storable unique)
  requestBody : ∀ body ∈ operation.requestBody, body.All (RequestBody.Storable unique)
  responses : ∀ code response, operation.responses.get? code = some response →
    response.All (Response.Storable unique)

structure PathItem.Storable (unique : Prop) (item : PathItem) : Prop where
  operations : ∀ verb, ∀ operation ∈ item.at? verb, operation.Storable unique
  parameters : ∀ parameter ∈ item.parameters, parameter.All (Parameter.Storable unique)

structure Components.Storable (unique : Prop) (components : Components) : Prop where
  schemas : ∀ name schema, components.schemas.get? name = some schema →
    Schema.Storable unique schema
  parameters : ∀ name parameter, components.parameters.get? name = some parameter →
    parameter.All (Parameter.Storable unique)
  requestBodies : ∀ name body, components.requestBodies.get? name = some body →
    body.All (RequestBody.Storable unique)
  responses : ∀ name response, components.responses.get? name = some response →
    response.All (Response.Storable unique)

structure Document.Storable (unique : Prop) (doc : Document) : Prop where
  paths : ∀ paths ∈ doc.paths, ∀ path item, paths.get? path = some item → item.Storable unique
  components : ∀ components ∈ doc.components, components.Storable unique

/-! ## Objects that were read -/

theorem yields_schema : Yields unique readSchemaRef? (Schema.Storable unique) :=
  fun value hvalue => storable_readSchemaRef? value hvalue

theorem storable_parameter (value : Json) (hvalue : Json.Regular unique value)
    (hreference : reference? value = none) :
    ∀ parameter ∈ Parameter.read? value, parameter.Storable unique := by
  cases hvalue with
  | @object members hkeys hmembers =>
    unfold Parameter.read?
    refine forall_mem_bind fun r hr => ?_
    have hregular := regular_of_ofMembers? hr hmembers
    refine forall_mem_bind fun name _ => ?_
    refine forall_mem_bind fun location _ => ?_
    refine forall_mem_bind fun description _ => ?_
    refine forall_mem_bind fun required _ => ?_
    refine forall_mem_bind fun schema hschema => ?_
    rintro _ ⟨⟩
    have hextensions : (Dict.ofList (otherMembers Parameter.fieldNames members)).entries =
        otherMembers Parameter.fieldNames members :=
      Entries.ofList_eq_self (Entries.sorted_ofList _)
    refine ⟨hregular.optional hschema yields_schema, ?_, fun hunique => ?_⟩
    · rw [hextensions]
      exact others_otherMembers Parameter.fieldNames members
    · rw [hextensions]
      exact noReference_otherMembers (noReference_of_reference? hreference (hkeys hunique))
  | _ => rintro _ ⟨⟩

theorem yields_mediaType : Yields unique MediaType.read? (MediaType.Storable unique) := by
  intro value hvalue
  unfold MediaType.read?
  refine forall_mem_bind fun r hr => ?_
  refine forall_mem_bind fun schema hschema => ?_
  rintro _ ⟨⟩
  exact (regular_of_record? hr hvalue).optional hschema yields_schema

theorem yields_requestBody : Yields unique RequestBody.read? (RequestBody.Storable unique) := by
  intro value hvalue
  unfold RequestBody.read?
  refine forall_mem_bind fun r hr => ?_
  refine forall_mem_bind fun description _ => ?_
  refine forall_mem_bind fun content hcontent => ?_
  refine forall_mem_bind fun required _ => ?_
  rintro _ ⟨⟩
  exact (regular_of_record? hr hvalue).dict hcontent yields_mediaType

theorem yields_response : Yields unique Response.read? (Response.Storable unique) := by
  intro value hvalue
  unfold Response.read?
  refine forall_mem_bind fun r hr => ?_
  refine forall_mem_bind fun description _ => ?_
  refine forall_mem_bind fun content hcontent => ?_
  rintro _ ⟨⟩
  exact (regular_of_record? hr hvalue).dict hcontent yields_mediaType

theorem yields_operation : Yields unique Operation.read? (Operation.Storable unique) := by
  intro value hvalue
  unfold Operation.read?
  refine forall_mem_bind fun r hr => ?_
  have hregular := regular_of_record? hr hvalue
  refine forall_mem_bind fun operationId _ => ?_
  refine forall_mem_bind fun summary _ => ?_
  refine forall_mem_bind fun description _ => ?_
  refine forall_mem_bind fun tags _ => ?_
  refine forall_mem_bind fun parameters hparameters => ?_
  refine forall_mem_bind fun requestBody hrequestBody => ?_
  refine forall_mem_bind fun responses hresponses => ?_
  rintro _ ⟨⟩
  exact {
    parameters := hregular.list hparameters (yields_refOr storable_parameter)
    requestBody := hregular.optional hrequestBody
      (yields_refOr fun value hvalue _ => yields_requestBody value hvalue)
    responses := hregular.dict hresponses
      (yields_refOr fun value hvalue _ => yields_response value hvalue) }

theorem yields_pathItem : Yields unique PathItem.read? (PathItem.Storable unique) := by
  intro value hvalue
  unfold PathItem.read?
  refine forall_mem_bind fun r hr => ?_
  have hregular := regular_of_record? hr hvalue
  refine forall_mem_bind fun get hget => ?_
  refine forall_mem_bind fun put hput => ?_
  refine forall_mem_bind fun post hpost => ?_
  refine forall_mem_bind fun delete hdelete => ?_
  refine forall_mem_bind fun patch hpatch => ?_
  refine forall_mem_bind fun head hhead => ?_
  refine forall_mem_bind fun options hoptions => ?_
  refine forall_mem_bind fun parameters hparameters => ?_
  rintro _ ⟨⟩
  refine ⟨fun verb => ?_, hregular.list hparameters (yields_refOr storable_parameter)⟩
  cases verb with
  | get => exact hregular.optional hget yields_operation
  | put => exact hregular.optional hput yields_operation
  | post => exact hregular.optional hpost yields_operation
  | delete => exact hregular.optional hdelete yields_operation
  | patch => exact hregular.optional hpatch yields_operation
  | head => exact hregular.optional hhead yields_operation
  | options => exact hregular.optional hoptions yields_operation

theorem yields_components : Yields unique Components.read? (Components.Storable unique) := by
  intro value hvalue
  unfold Components.read?
  refine forall_mem_bind fun r hr => ?_
  have hregular := regular_of_record? hr hvalue
  refine forall_mem_bind fun schemas hschemas => ?_
  refine forall_mem_bind fun parameters hparameters => ?_
  refine forall_mem_bind fun requestBodies hrequestBodies => ?_
  refine forall_mem_bind fun responses hresponses => ?_
  rintro _ ⟨⟩
  exact {
    schemas := hregular.dict hschemas yields_schema
    parameters := hregular.dict hparameters (yields_refOr storable_parameter)
    requestBodies := hregular.dict hrequestBodies
      (yields_refOr fun value hvalue _ => yields_requestBody value hvalue)
    responses := hregular.dict hresponses
      (yields_refOr fun value hvalue _ => yields_response value hvalue) }

theorem yields_document : Yields unique Document.read? (Document.Storable unique) := by
  intro value hvalue
  unfold Document.read?
  refine forall_mem_bind fun r hr => ?_
  have hregular := regular_of_record? hr hvalue
  refine forall_mem_bind fun openapi _ => ?_
  refine forall_mem_bind fun info _ => ?_
  refine forall_mem_bind fun servers _ => ?_
  refine forall_mem_bind fun paths hpaths => ?_
  refine forall_mem_bind fun components hcomponents => ?_
  rintro _ ⟨⟩
  exact {
    paths := hregular.optional hpaths yields_pathItem.dictOf
    components := hregular.optional hcomponents yields_components }

/-! ## Objects that are read back -/

section
variable (hunique : unique)
include hunique

theorem read?_parameter {parameter : Parameter} (h : parameter.Storable unique) :
    Parameter.read? parameter.toJson = some parameter := by
  unfold Parameter.read? Parameter.toJson
  refine bind_eq_some (ofMembers?_append (.refl _) (by decide) h.extensions) ?_
  refine bind_eq_some (Record.required_of_find? rfl rfl) ?_
  refine bind_eq_some (Record.required_of_find? rfl rfl) ?_
  refine bind_eq_some (Record.optional_string rfl) ?_
  refine bind_eq_some (Record.withDefault_of_find? rfl rfl) ?_
  refine bind_eq_some (Record.optional_ofOption rfl rfl fun schema hschema =>
    readSchemaRef?_write hunique (h.schema schema hschema)) ?_
  rw [otherMembers_append (by simp [Parameter.fieldNames]) h.extensions, Dict.ofList_entries]

theorem read?_mediaType {media : MediaType} (h : media.Storable unique) :
    MediaType.read? media.toJson = some media := by
  unfold MediaType.read? MediaType.toJson
  refine bind_eq_some (record?_object rfl (by decide)) ?_
  exact bind_eq_some (Record.optional_ofOption rfl rfl fun schema hschema =>
    readSchemaRef?_write hunique (h schema hschema)) rfl

theorem read?_requestBody {body : RequestBody} (h : body.Storable unique) :
    RequestBody.read? body.toJson = some body := by
  unfold RequestBody.read? RequestBody.toJson
  refine bind_eq_some (record?_object rfl (by decide)) ?_
  refine bind_eq_some (Record.optional_string rfl) ?_
  refine bind_eq_some (Record.dict_ofEntries rfl fun type media hmedia =>
    read?_mediaType hunique (h type media hmedia)) ?_
  exact bind_eq_some (Record.withDefault_of_find? rfl rfl) rfl

theorem read?_response {response : Response} (h : response.Storable unique) :
    Response.read? response.toJson = some response := by
  unfold Response.read? Response.toJson
  refine bind_eq_some (record?_object rfl (by decide)) ?_
  refine bind_eq_some (Record.optional_string rfl) ?_
  exact bind_eq_some (Record.dict_ofEntries rfl fun type media hmedia =>
    read?_mediaType hunique (h type media hmedia)) rfl

theorem refOr_parameter {parameter : RefOr Parameter}
    (h : parameter.All (Parameter.Storable unique)) :
    RefOr.read? Parameter.read? (parameter.toJson Parameter.toJson) = some parameter := by
  refine refOr_read?_toJson (fun p hp => ?_) fun p hp => read?_parameter hunique (h p hp)
  refine reference?_eq_none (NoReference.append ?_ ((h p hp).plain hunique))
  simp [NoReference]

theorem refOr_requestBody {body : RefOr RequestBody} (h : body.All (RequestBody.Storable unique)) :
    RefOr.read? RequestBody.read? (body.toJson RequestBody.toJson) = some body :=
  refOr_read?_toJson (fun _ _ => reference?_eq_none (by simp [NoReference]))
    fun b hb => read?_requestBody hunique (h b hb)

theorem refOr_response {response : RefOr Response} (h : response.All (Response.Storable unique)) :
    RefOr.read? Response.read? (response.toJson Response.toJson) = some response :=
  refOr_read?_toJson (fun _ _ => reference?_eq_none (by simp [NoReference]))
    fun r hr => read?_response hunique (h r hr)

theorem read?_operation {operation : Operation} (h : operation.Storable unique) :
    Operation.read? operation.toJson = some operation := by
  unfold Operation.read? Operation.toJson
  refine bind_eq_some (record?_object rfl (by decide)) ?_
  refine bind_eq_some (Record.optional_string rfl) ?_
  refine bind_eq_some (Record.optional_string rfl) ?_
  refine bind_eq_some (Record.optional_string rfl) ?_
  refine bind_eq_some (Record.list_ofList rfl fun _ _ => rfl) ?_
  refine bind_eq_some (Record.list_ofList rfl fun parameter hparameter =>
    refOr_parameter hunique (h.parameters parameter hparameter)) ?_
  refine bind_eq_some (Record.optional_ofOption rfl rfl fun body hbody =>
    refOr_requestBody hunique (h.requestBody body hbody)) ?_
  exact bind_eq_some (Record.dict_ofEntries rfl fun code response hresponse =>
    refOr_response hunique (h.responses code response hresponse)) rfl

/-- The members of a path, of which those of absent operations are left out. -/
def PathItem.fields (item : PathItem) : List (String × Option Json) :=
  [("get", item.get.map Operation.toJson),
    ("put", item.put.map Operation.toJson),
    ("post", item.post.map Operation.toJson),
    ("delete", item.delete.map Operation.toJson),
    ("patch", item.patch.map Operation.toJson),
    ("head", item.head.map Operation.toJson),
    ("options", item.options.map Operation.toJson),
    ("parameters", some (.ofList (RefOr.toJson Parameter.toJson) item.parameters))]

omit hunique in
theorem toJson_pathItem (item : PathItem) : item.toJson = .object (written item.fields) := by
  rw [PathItem.toJson, written, PathItem.fields, List.filterMap_eq_flatMap_toList]
  simp only [List.flatMap_cons, List.flatMap_nil, present_eq, List.append_assoc,
    Option.map_some, Option.toList_some, List.append_nil]

theorem read?_pathItem {item : PathItem} (h : item.Storable unique) :
    PathItem.read? item.toJson = some item := by
  have hkeys : (item.fields.map (·.1)).Nodup := (by decide : PathItem.fieldNames.Nodup)
  have hmethod {name : String} {operation : Option Operation}
      (hfield : Entries.get? name item.fields = some (operation.map Operation.toJson))
      (hoperation : ∀ o ∈ operation, o.Storable unique) :
      Record.optional ⟨written item.fields⟩ name Operation.read? = some operation :=
    Record.optional_present (get?_written hkeys hfield) (fun _ _ => rfl)
      fun o ho => read?_operation hunique (hoperation o ho)
  rw [toJson_pathItem]
  unfold PathItem.read?
  refine bind_eq_some (ofMembers?_self (sublist_keys_written item.fields) hkeys) ?_
  refine bind_eq_some (hmethod rfl (h.operations .get)) ?_
  refine bind_eq_some (hmethod rfl (h.operations .put)) ?_
  refine bind_eq_some (hmethod rfl (h.operations .post)) ?_
  refine bind_eq_some (hmethod rfl (h.operations .delete)) ?_
  refine bind_eq_some (hmethod rfl (h.operations .patch)) ?_
  refine bind_eq_some (hmethod rfl (h.operations .head)) ?_
  refine bind_eq_some (hmethod rfl (h.operations .options)) ?_
  exact bind_eq_some (Record.list_ofList (get?_written hkeys rfl) fun parameter hparameter =>
    refOr_parameter hunique (h.parameters parameter hparameter)) rfl

theorem read?_components {components : Components} (h : components.Storable unique) :
    Components.read? components.toJson = some components := by
  unfold Components.read? Components.toJson
  refine bind_eq_some (record?_object rfl (by decide)) ?_
  refine bind_eq_some (Record.dict_ofEntries rfl fun name schema hschema =>
    readSchemaRef?_write hunique (h.schemas name schema hschema)) ?_
  refine bind_eq_some (Record.dict_ofEntries rfl fun name parameter hparameter =>
    refOr_parameter hunique (h.parameters name parameter hparameter)) ?_
  refine bind_eq_some (Record.dict_ofEntries rfl fun name body hbody =>
    refOr_requestBody hunique (h.requestBodies name body hbody)) ?_
  exact bind_eq_some (Record.dict_ofEntries rfl fun name response hresponse =>
    refOr_response hunique (h.responses name response hresponse)) rfl

omit hunique in
theorem read?_info (info : Info) : Info.read? info.toJson = some info := by
  unfold Info.read? Info.toJson
  refine bind_eq_some (record?_object rfl (by decide)) ?_
  refine bind_eq_some (Record.optional_string rfl) ?_
  refine bind_eq_some (Record.optional_ofOption rfl rfl fun _ _ => rfl) ?_
  exact bind_eq_some (Record.optional_string rfl) rfl

omit hunique in
theorem read?_server (server : Server) : Server.read? server.toJson = some server := by
  unfold Server.read? Server.toJson
  refine bind_eq_some (record?_object rfl (by decide)) ?_
  refine bind_eq_some (Record.required_of_find? rfl rfl) ?_
  exact bind_eq_some (Record.optional_string rfl) rfl

/-- **A description that can be stored is read back as it was written.** -/
theorem read?_document {doc : Document} (h : doc.Storable unique) :
    Document.read? doc.toJson = some doc := by
  unfold Document.read? Document.toJson
  refine bind_eq_some (record?_object rfl (by decide)) ?_
  refine bind_eq_some (Record.optional_ofOption rfl rfl fun _ _ => rfl) ?_
  refine bind_eq_some (Record.withDefault_of_find? rfl (read?_info doc.info)) ?_
  refine bind_eq_some (Record.list_ofList rfl fun server _ => read?_server server) ?_
  refine bind_eq_some (Record.optional_ofOption rfl rfl fun paths hpaths =>
    dictOf?_ofEntries fun path item hitem =>
      read?_pathItem hunique (h.paths paths hpaths path item hitem)) ?_
  exact bind_eq_some (Record.optional_ofOption rfl rfl fun components hcomponents =>
    read?_components hunique (h.components components hcomponents)) rfl

end

/-! ## Schemas in descriptions that can be stored -/

section
variable {doc : Document} {schema : RefOr Schema}

theorem storable_of_schemaIn? {parameter : RefOr Parameter}
    (h : parameter.All (Parameter.Storable unique))
    (hschema : Parameter.schemaIn? parameter = some schema) : Schema.Storable unique schema := by
  obtain ⟨value, hvalue, hschema⟩ := Option.bind_eq_some_iff.1 hschema
  exact (h value (inline?_eq_some_iff.1 hvalue)).schema schema hschema

theorem storable_of_contentSchema? {content : Dict MediaType} {type : String}
    (h : ∀ type media, content.get? type = some media → media.Storable unique)
    (hschema : contentSchema? content type = some schema) : Schema.Storable unique schema := by
  obtain ⟨media, hmedia, hschema⟩ := Option.bind_eq_some_iff.1 hschema
  exact h type media hmedia schema hschema

namespace Document

theorem Storable.item (h : doc.Storable unique) {path : String} {item : PathItem}
    (hitem : doc.pathItems.get? path = some item) : item.Storable unique := by
  obtain ⟨paths, hpaths, hpath⟩ := Dict.get?_getD_empty.1 hitem
  exact h.paths paths hpaths path item hpath

theorem Storable.operation (h : doc.Storable unique) {path : String} {verb : Verb}
    {operation : Operation} (hoperation : doc.operationAt? path verb = some operation) :
    operation.Storable unique := by
  obtain ⟨item, hitem, hverb⟩ := Option.bind_eq_some_iff.1 hoperation
  exact (h.item hitem).operations verb operation hverb

/-- The schemas that stand in a description can be stored if it can. -/
theorem Storable.stands (h : doc.Storable unique) (hstands : doc.Stands schema) :
    Schema.Storable unique schema := by
  obtain ⟨place, hplace⟩ := hstands
  cases place with
  | schema name =>
    obtain ⟨components, hcomponents, hname⟩ := Option.bind_eq_some_iff.1 hplace
    exact (h.components components hcomponents).schemas name schema hname
  | parameter name =>
    obtain ⟨components, hcomponents, hrest⟩ := Option.bind_eq_some_iff.1 hplace
    obtain ⟨parameter, hname, hschema⟩ := Option.bind_eq_some_iff.1 hrest
    have hparameter := (h.components components hcomponents).parameters name parameter hname
    exact storable_of_schemaIn? hparameter hschema
  | requestBody name type =>
    simp only [schemaAt?, bind, Option.bind_eq_some_iff, inline?_eq_some_iff] at hplace
    obtain ⟨components, hcomponents, _, hname, body, rfl, hschema⟩ := hplace
    have hbody := (h.components components hcomponents).requestBodies name _ hname body rfl
    exact storable_of_contentSchema? hbody hschema
  | response name type =>
    simp only [schemaAt?, bind, Option.bind_eq_some_iff, inline?_eq_some_iff] at hplace
    obtain ⟨components, hcomponents, _, hname, response, rfl, hschema⟩ := hplace
    have hresponse := (h.components components hcomponents).responses name _ hname response rfl
    exact storable_of_contentSchema? hresponse hschema
  | shared path index =>
    simp only [schemaAt?, bind, Option.bind_eq_some_iff] at hplace
    obtain ⟨item, hitem, parameter, hindex, hschema⟩ := hplace
    have hparameter := (h.item hitem).parameters parameter (List.mem_of_getElem? hindex)
    exact storable_of_schemaIn? hparameter hschema
  | own path verb index =>
    simp only [schemaAt?, bind, Option.bind_eq_some_iff] at hplace
    obtain ⟨operation, hoperation, parameter, hindex, hschema⟩ := hplace
    have hparameter := (h.operation hoperation).parameters parameter (List.mem_of_getElem? hindex)
    exact storable_of_schemaIn? hparameter hschema
  | body path verb type =>
    simp only [schemaAt?, bind, Option.bind_eq_some_iff, inline?_eq_some_iff] at hplace
    obtain ⟨operation, hoperation, _, hbody, body, rfl, hschema⟩ := hplace
    exact storable_of_contentSchema? ((h.operation hoperation).requestBody _ hbody body rfl) hschema
  | answer path verb code type =>
    simp only [schemaAt?, bind, Option.bind_eq_some_iff, inline?_eq_some_iff] at hplace
    obtain ⟨operation, hoperation, _, hcode, response, rfl, hschema⟩ := hplace
    have hresponse := (h.operation hoperation).responses code _ hcode response rfl
    exact storable_of_contentSchema? hresponse hschema

end Document

end

end ApiKinds.Api
