/-
  Swagger descriptions that are written and read back, and their upgraded forms.

  * `Parameter.Storable`, `Operation.Storable`, `Document.Storable` and their like: what an
    object keeps can be stored.
  * `yields_document`: so it is with all descriptions that are read from regular values.
  * `read?_document`: descriptions that can be stored are read back as they were written.
  * `storable_upgrade`: the upgraded form of such a description can be stored, too.
  * `descriptions_read_back`: so descriptions of both sorts are read back, and upgraded ones.
-/
import ApiKinds.Proofs.Api.RoundTrip
import ApiKinds.Proofs.Swagger.Translation
import ApiKinds.Swagger.Reading
import ApiKinds.Swagger.Writing

namespace ApiKinds.Swagger

open Json Api

variable {unique : Prop}

/-! ## Objects that can be stored -/

structure Parameter.Storable (unique : Prop) (parameter : Parameter) : Prop where
  schema : ∀ schema ∈ parameter.schema, Schema.Storable unique schema
  items : ∀ schema ∈ parameter.items, Schema.Storable unique schema
  enum : ∀ v ∈ parameter.enum, Kept v
  default : ∀ v ∈ parameter.default, Kept v ∧ v.isNull = false
  minLength : ∀ n ∈ parameter.minLength, Number.fits n
  maxLength : ∀ n ∈ parameter.maxLength, Number.fits n
  minimum : ∀ x ∈ parameter.minimum, x.isFinite
  maximum : ∀ x ∈ parameter.maximum, x.isFinite
  minItems : ∀ n ∈ parameter.minItems, Number.fits n
  maxItems : ∀ n ∈ parameter.maxItems, Number.fits n
  extensions : Others fieldNames parameter.extensions.entries

/-- A parameter that can be stored where a reference may stand in its place. -/
structure Parameter.Listable (unique : Prop) (parameter : Parameter) : Prop where
  storable : parameter.Storable unique
  plain : unique → NoReference parameter.extensions.entries

def Response.Storable (unique : Prop) (response : Response) : Prop :=
  ∀ schema ∈ response.schema, Schema.Storable unique schema

structure Operation.Storable (unique : Prop) (operation : Operation) : Prop where
  parameters : ∀ parameter ∈ operation.parameters, parameter.All (Parameter.Listable unique)
  responses : ∀ code response, operation.responses.get? code = some response →
    response.All (Response.Storable unique)

structure PathItem.Storable (unique : Prop) (item : PathItem) : Prop where
  operations : ∀ verb, ∀ operation ∈ item.at? verb, operation.Storable unique
  parameters : ∀ parameter ∈ item.parameters, parameter.All (Parameter.Listable unique)

structure Document.Storable (unique : Prop) (doc : Document) : Prop where
  paths : ∀ paths ∈ doc.paths, ∀ path item, paths.get? path = some item → item.Storable unique
  definitions : ∀ name schema, doc.definitions.get? name = some schema →
    Schema.Storable unique schema
  parameters : ∀ name parameter, doc.parameters.get? name = some parameter →
    parameter.Storable unique
  responses : ∀ name response, doc.responses.get? name = some response → response.Storable unique

/-! ## Objects that were read -/

theorem storable_parameter {members : List (String × Json)}
    (hmembers : ∀ m ∈ members, Json.Regular unique m.2) :
    ∀ parameter ∈ Parameter.read? (.object members), parameter.Storable unique ∧
      parameter.extensions.entries = otherMembers Parameter.fieldNames members := by
  unfold Parameter.read?
  refine forall_mem_bind fun r hr => ?_
  have hregular := regular_of_ofMembers? hr hmembers
  refine forall_mem_bind fun name _ => ?_
  refine forall_mem_bind fun location _ => ?_
  refine forall_mem_bind fun description _ => ?_
  refine forall_mem_bind fun required _ => ?_
  refine forall_mem_bind fun schema hschema => ?_
  refine forall_mem_bind fun types _ => ?_
  refine forall_mem_bind fun format _ => ?_
  refine forall_mem_bind fun items hitems => ?_
  refine forall_mem_bind fun enum henum => ?_
  refine forall_mem_bind fun default hdefault => ?_
  refine forall_mem_bind fun minimum hminimum => ?_
  refine forall_mem_bind fun maximum hmaximum => ?_
  refine forall_mem_bind fun minLength hminLength => ?_
  refine forall_mem_bind fun maxLength hmaxLength => ?_
  refine forall_mem_bind fun pattern _ => ?_
  refine forall_mem_bind fun minItems hminItems => ?_
  refine forall_mem_bind fun maxItems hmaxItems => ?_
  rintro _ ⟨⟩
  have hextensions : (Dict.ofList (otherMembers Parameter.fieldNames members)).entries =
      otherMembers Parameter.fieldNames members :=
    Entries.ofList_eq_self (Entries.sorted_ofList _)
  refine ⟨?_, hextensions⟩
  exact {
    schema := hregular.optional hschema yields_schema
    items := hregular.optional hitems yields_schema
    enum := hregular.list henum yields_any?
    default := hregular.withDefault hdefault yields_nullable_any? (by simp)
    minLength := hregular.optional hminLength yields_natural?
    maxLength := hregular.optional hmaxLength yields_natural?
    minimum := hregular.optional hminimum yields_double?
    maximum := hregular.optional hmaximum yields_double?
    minItems := hregular.optional hminItems yields_natural?
    maxItems := hregular.optional hmaxItems yields_natural?
    extensions := by
      rw [hextensions]
      exact others_otherMembers Parameter.fieldNames members }

theorem yields_parameter : Yields unique Parameter.read? (Parameter.Storable unique) := by
  intro value hvalue parameter hparameter
  cases hvalue with
  | object _ hmembers => exact (storable_parameter hmembers parameter hparameter).1
  | _ => cases hparameter

theorem listable_parameter (value : Json) (hvalue : Json.Regular unique value)
    (hreference : reference? value = none) :
    ∀ parameter ∈ Parameter.read? value, parameter.Listable unique := by
  intro parameter hparameter
  cases hvalue with
  | object hkeys hmembers =>
    obtain ⟨hstorable, hextensions⟩ := storable_parameter hmembers parameter hparameter
    refine ⟨hstorable, fun hunique => ?_⟩
    rw [hextensions]
    exact noReference_otherMembers (noReference_of_reference? hreference (hkeys hunique))
  | _ => cases hparameter

theorem yields_response : Yields unique Response.read? (Response.Storable unique) := by
  intro value hvalue
  unfold Response.read?
  refine forall_mem_bind fun r hr => ?_
  refine forall_mem_bind fun description _ => ?_
  refine forall_mem_bind fun schema hschema => ?_
  rintro _ ⟨⟩
  exact (regular_of_record? hr hvalue).optional hschema yields_schema

theorem yields_operation : Yields unique Operation.read? (Operation.Storable unique) := by
  intro value hvalue
  unfold Operation.read?
  refine forall_mem_bind fun r hr => ?_
  have hregular := regular_of_record? hr hvalue
  refine forall_mem_bind fun operationId _ => ?_
  refine forall_mem_bind fun summary _ => ?_
  refine forall_mem_bind fun description _ => ?_
  refine forall_mem_bind fun tags _ => ?_
  refine forall_mem_bind fun consumes _ => ?_
  refine forall_mem_bind fun produces _ => ?_
  refine forall_mem_bind fun parameters hparameters => ?_
  refine forall_mem_bind fun responses hresponses => ?_
  rintro _ ⟨⟩
  exact {
    parameters := hregular.list hparameters (yields_refOr listable_parameter)
    responses := hregular.dict hresponses
      (yields_refOr fun value hvalue _ => yields_response value hvalue) }

theorem yields_pathItem : Yields unique PathItem.read? (PathItem.Storable unique) := by
  intro value hvalue
  unfold PathItem.read?
  refine forall_mem_bind fun r hr => ?_
  have hregular := regular_of_record? hr hvalue
  refine forall_mem_bind fun get hget => ?_
  refine forall_mem_bind fun put hput => ?_
  refine forall_mem_bind fun post hpost => ?_
  refine forall_mem_bind fun delete hdelete => ?_
  refine forall_mem_bind fun patch hpatch => ?_
  refine forall_mem_bind fun head hhead => ?_
  refine forall_mem_bind fun options hoptions => ?_
  refine forall_mem_bind fun parameters hparameters => ?_
  rintro _ ⟨⟩
  refine ⟨fun verb => ?_, hregular.list hparameters (yields_refOr listable_parameter)⟩
  cases verb with
  | get => exact hregular.optional hget yields_operation
  | put => exact hregular.optional hput yields_operation
  | post => exact hregular.optional hpost yields_operation
  | delete => exact hregular.optional hdelete yields_operation
  | patch => exact hregular.optional hpatch yields_operation
  | head => exact hregular.optional hhead yields_operation
  | options => exact hregular.optional hoptions yields_operation

theorem yields_document : Yields unique Document.read? (Document.Storable unique) := by
  intro value hvalue
  unfold Document.read?
  refine forall_mem_bind fun r hr => ?_
  have hregular := regular_of_record? hr hvalue
  refine forall_mem_bind fun swagger _ => ?_
  refine forall_mem_bind fun info _ => ?_
  refine forall_mem_bind fun host _ => ?_
  refine forall_mem_bind fun basePath _ => ?_
  refine forall_mem_bind fun schemes _ => ?_
  refine forall_mem_bind fun consumes _ => ?_
  refine forall_mem_bind fun produces _ => ?_
  refine forall_mem_bind fun paths hpaths => ?_
  refine forall_mem_bind fun definitions hdefinitions => ?_
  refine forall_mem_bind fun parameters hparameters => ?_
  refine forall_mem_bind fun responses hresponses => ?_
  rintro _ ⟨⟩
  exact {
    paths := hregular.optional hpaths yields_pathItem.dictOf
    definitions := hregular.dict hdefinitions yields_schema
    parameters := hregular.dict hparameters yields_parameter
    responses := hregular.dict hresponses yields_response }

/-! ## Objects that are read back -/

section
variable (hunique : unique)
include hunique

theorem read?_parameter {parameter : Parameter} (h : parameter.Storable unique) :
    Parameter.read? parameter.toJson = some parameter := by
  have hschema {r : Record} {name : String} {o : Option (RefOr Schema)}
      (hfind : r.find? name = some (.ofOption writeSchemaRef o))
      (hstorable : ∀ s ∈ o, Schema.Storable unique s) : r.optional name readSchemaRef? = some o :=
    Record.optional_ofOption hfind rfl fun s hs => readSchemaRef?_write hunique (hstorable s hs)
  unfold Parameter.read? Parameter.toJson
  refine bind_eq_some (ofMembers?_append (.refl _) (by decide) h.extensions) ?_
  refine bind_eq_some (Record.required_of_find? rfl rfl) ?_
  refine bind_eq_some (Record.required_of_find? rfl rfl) ?_
  refine bind_eq_some (Record.optional_string rfl) ?_
  refine bind_eq_some (Record.withDefault_of_find? rfl rfl) ?_
  refine bind_eq_some (hschema rfl h.schema) ?_
  refine bind_eq_some (Record.withDefault_of_find? rfl (types?_ofList parameter.types)) ?_
  refine bind_eq_some (Record.optional_string rfl) ?_
  refine bind_eq_some (hschema rfl h.items) ?_
  refine bind_eq_some (Record.withDefault_of_find? rfl
    (listOf?_any? fun v hv => (h.enum v hv).isCanonical)) ?_
  refine bind_eq_some (Record.withDefault_of_find? rfl (nullable?_ofOption
    (fun v hv => (h.default v hv).2)
    fun v hv => any?_of_isCanonical (h.default v hv).1.isCanonical)) ?_
  refine bind_eq_some (Record.optional_double rfl h.minimum) ?_
  refine bind_eq_some (Record.optional_double rfl h.maximum) ?_
  refine bind_eq_some (Record.optional_natural rfl h.minLength) ?_
  refine bind_eq_some (Record.optional_natural rfl h.maxLength) ?_
  refine bind_eq_some (Record.optional_string rfl) ?_
  refine bind_eq_some (Record.optional_natural rfl h.minItems) ?_
  refine bind_eq_some (Record.optional_natural rfl h.maxItems) ?_
  rw [otherMembers_append (by simp [Parameter.fieldNames]) h.extensions, Dict.ofList_entries]

theorem read?_response {response : Response} (h : response.Storable unique) :
    Response.read? response.toJson = some response := by
  unfold Response.read? Response.toJson
  refine bind_eq_some (record?_object rfl (by decide)) ?_
  refine bind_eq_some (Record.optional_string rfl) ?_
  exact bind_eq_some (Record.optional_ofOption rfl rfl fun schema hschema =>
    readSchemaRef?_write hunique (h schema hschema)) rfl

theorem refOr_parameter {parameter : RefOr Parameter}
    (h : parameter.All (Parameter.Listable unique)) :
    RefOr.read? Parameter.read? (parameter.toJson Parameter.toJson) = some parameter := by
  refine refOr_read?_toJson (fun p hp => ?_) fun p hp => read?_parameter hunique (h p hp).storable
  refine reference?_eq_none (NoReference.append ?_ ((h p hp).plain hunique))
  simp [NoReference]

theorem refOr_response {response : RefOr Response} (h : response.All (Response.Storable unique)) :
    RefOr.read? Response.read? (response.toJson Response.toJson) = some response :=
  refOr_read?_toJson (fun _ _ => reference?_eq_none (by simp [NoReference]))
    fun r hr => read?_response hunique (h r hr)

theorem read?_operation {operation : Operation} (h : operation.Storable unique) :
    Operation.read? operation.toJson = some operation := by
  have htypes {r : Record} {name : String} {o : Option (List String)}
      (hfind : r.find? name = some (.ofOption texts o)) :
      r.optional name (listOf? string?) = some o :=
    Record.optional_ofOption hfind rfl fun _ _ => listOf?_ofList fun _ _ => rfl
  unfold Operation.read? Operation.toJson
  refine bind_eq_some (record?_object rfl (by decide)) ?_
  refine bind_eq_some (Record.optional_string rfl) ?_
  refine bind_eq_some (Record.optional_string rfl) ?_
  refine bind_eq_some (Record.optional_string rfl) ?_
  refine bind_eq_some (Record.list_ofList rfl fun _ _ => rfl) ?_
  refine bind_eq_some (htypes rfl) ?_
  refine bind_eq_some (htypes rfl) ?_
  refine bind_eq_some (Record.list_ofList rfl fun parameter hparameter =>
    refOr_parameter hunique (h.parameters parameter hparameter)) ?_
  exact bind_eq_some (Record.dict_ofEntries rfl fun code response hresponse =>
    refOr_response hunique (h.responses code response hresponse)) rfl

theorem read?_pathItem {item : PathItem} (h : item.Storable unique) :
    PathItem.read? item.toJson = some item := by
  have hmethod {r : Record} {name : String} {operation : Option Operation}
      (hfind : r.find? name = some (.ofOption Operation.toJson operation))
      (hoperation : ∀ o ∈ operation, o.Storable unique) :
      r.optional name Operation.read? = some operation :=
    Record.optional_ofOption hfind rfl fun o ho => read?_operation hunique (hoperation o ho)
  unfold PathItem.read? PathItem.toJson
  refine bind_eq_some (record?_object rfl (by decide)) ?_
  refine bind_eq_some (hmethod rfl (h.operations .get)) ?_
  refine bind_eq_some (hmethod rfl (h.operations .put)) ?_
  refine bind_eq_some (hmethod rfl (h.operations .post)) ?_
  refine bind_eq_some (hmethod rfl (h.operations .delete)) ?_
  refine bind_eq_some (hmethod rfl (h.operations .patch)) ?_
  refine bind_eq_some (hmethod rfl (h.operations .head)) ?_
  refine bind_eq_some (hmethod rfl (h.operations .options)) ?_
  exact bind_eq_some (Record.list_ofList rfl fun parameter hparameter =>
    refOr_parameter hunique (h.parameters parameter hparameter)) rfl

/-- **A description that can be stored is read back as it was written.** -/
theorem read?_document {doc : Document} (h : doc.Storable unique) :
    Document.read? doc.toJson = some doc := by
  unfold Document.read? Document.toJson
  refine bind_eq_some (record?_object rfl (by decide)) ?_
  refine bind_eq_some (Record.optional_ofOption rfl rfl fun _ _ => rfl) ?_
  refine bind_eq_some (Record.withDefault_of_find? rfl (read?_info doc.info)) ?_
  refine bind_eq_some (Record.optional_string rfl) ?_
  refine bind_eq_some (Record.optional_string rfl) ?_
  refine bind_eq_some (Record.list_ofList rfl fun _ _ => rfl) ?_
  refine bind_eq_some (Record.list_ofList rfl fun _ _ => rfl) ?_
  refine bind_eq_some (Record.list_ofList rfl fun _ _ => rfl) ?_
  refine bind_eq_some (Record.optional_ofOption rfl rfl fun paths hpaths =>
    dictOf?_ofEntries fun path item hitem =>
      read?_pathItem hunique (h.paths paths hpaths path item hitem)) ?_
  refine bind_eq_some (Record.dict_ofEntries rfl fun name schema hschema =>
    readSchemaRef?_write hunique (h.definitions name schema hschema)) ?_
  refine bind_eq_some (Record.dict_ofEntries rfl fun name parameter hparameter =>
    read?_parameter hunique (h.parameters name parameter hparameter)) ?_
  exact bind_eq_some (Record.dict_ofEntries rfl fun name response hresponse =>
    read?_response hunique (h.responses name response hresponse)) rfl

end

/-! ## Upgraded objects can be stored -/

theorem storable_upgradeFacets {facets : Facets} (h : facets.Storable) :
    (upgradeFacets facets).Storable :=
  { h with
    extensions := {
      sorted := Entries.sorted_filter _ h.extensions.sorted
      unknown := fun m hm => h.extensions.unknown m (List.mem_filter.1 hm).1
      canonical := fun m hm => h.extensions.canonical m (List.mem_filter.1 hm).1 } }

theorem storable_upgradeSchemaRef {schema : RefOr Schema} (h : Schema.Storable unique schema) :
    Schema.Storable unique (upgradeSchemaRef schema) := by
  induction h with
  | ref =>
    rw [upgradeSchemaRef]
    exact .ref
  | @inline schema hfacets hplain hsorted _ _ _ hproperties hitems hmembers =>
    rw [upgradeSchemaRef, upgradeSchema_eq]
    refine .inline (storable_upgradeFacets hfacets) ?_
      (Entries.sorted_map (fun _ => upgradeSchemaRef) hsorted) ?_ ?_ ?_
    · exact fun hunique m hm => hplain hunique m (List.mem_filter.1 hm).1
    · exact List.forall_mem_map.2 hproperties
    · intro part hpart
      obtain ⟨source, hsource, rfl⟩ := Option.map_eq_some_iff.1 hpart
      exact hitems source hsource
    · exact List.forall_mem_map.2 hmembers

theorem storable_valueSchema {parameter : Parameter} (h : parameter.Storable unique) :
    Schema.Storable unique (.inline parameter.valueSchema) := by
  have hplain : NoReference parameter.valueSchema.extensions := List.forall_mem_nil _
  refine .inline ?_ (fun _ => hplain) .nil (List.forall_mem_nil _) h.items (List.forall_mem_nil _)
  exact {
    enum := h.enum
    default := h.default
    minLength := h.minLength
    maxLength := h.maxLength
    minimum := h.minimum
    maximum := h.maximum
    minItems := h.minItems
    maxItems := h.maxItems
    extensions := ⟨.nil, List.forall_mem_nil _, List.forall_mem_nil _⟩ }

theorem storable_upgradeParameter {parameter : Parameter} (h : parameter.Storable unique) :
    (upgradeParameter parameter).Storable unique := by
  have hvendor : ∀ m ∈ parameter.vendorExtensions.entries,
      m ∈ parameter.extensions.entries ∧ Text.hasPrefix "x-" m.1 := fun m hm =>
    List.mem_filter.1 hm
  refine ⟨?_, ⟨parameter.vendorExtensions.sorted, ?_, ?_⟩, ?_⟩
  · rintro _ ⟨⟩
    rw [← upgradeSchemaRef]
    exact storable_upgradeSchemaRef (storable_valueSchema h)
  · intro m hm hknown
    have hprefix := (hvendor m hm).2
    have hnone : ∀ name ∈ Api.Parameter.fieldNames, ¬ Text.hasPrefix "x-" name := by decide
    exact hnone m.1 hknown hprefix
  · exact fun m hm => h.extensions.canonical m (hvendor m hm).1
  · intro _ m hm hkey
    have hprefix := (hvendor m hm).2
    rw [hkey] at hprefix
    cases hprefix

theorem storable_contentOf {schema : Option (RefOr Schema)}
    (h : ∀ s ∈ schema, Schema.Storable unique s) (types : List String) (type : String)
    (media : MediaType) (hmedia : (contentOf schema types).get? type = some media) :
    media.Storable unique := by
  rintro s hs
  have hcontent : contentSchema? (contentOf schema types) type = some s := by
    rw [contentSchema?, hmedia, Option.bind_some]
    exact hs
  rw [contentSchema?_contentOf, Option.map_eq_some_iff] at hcontent
  obtain ⟨source, hsource, rfl⟩ := hcontent
  rw [bodySchema?] at hsource
  split at hsource
  · exact storable_upgradeSchemaRef (h source hsource)
  · cases hsource

theorem storable_bodyOf {parameter : Parameter} (h : parameter.Storable unique)
    (consumes : List String) : (bodyOf parameter consumes).Storable unique :=
  storable_contentOf h.schema consumes

theorem storable_upgradeResponse {response : Response} (h : response.Storable unique)
    (produces : List String) : (upgradeResponse response produces).Storable unique :=
  storable_contentOf h produces

theorem storable_formSource {fields : List Parameter}
    (h : ∀ field ∈ fields, field.Storable unique) :
    Schema.Storable unique (.inline (formSource fields)) := by
  have hfacets : (formSource fields).toFacets.Storable := by
    refine ⟨?_, ?_, ?_, ?_, ?_, ?_, ?_, ?_, .nil, ?_, ?_⟩ <;> rintro _ ⟨⟩
  have hplain : NoReference (formSource fields).extensions := List.forall_mem_nil _
  refine .inline hfacets (fun _ => hplain) (Entries.sorted_ofList _) (fun p hp => ?_) ?_
    (List.forall_mem_nil _)
  · obtain ⟨field, hfield, rfl⟩ := List.mem_map.1 (Entries.mem_of_mem_ofList hp)
    exact storable_valueSchema (h field hfield)
  · rintro _ ⟨⟩

theorem storable_formBody {fields : List Parameter} (h : ∀ field ∈ fields, field.Storable unique)
    (consumes : List String) : (formBody fields consumes).Storable unique := by
  intro type media hmedia schema hschema
  have hcontent : contentSchema? (formBody fields consumes).content type = some schema := by
    rw [contentSchema?, hmedia, Option.bind_some]
    exact hschema
  rw [contentSchema?_formBody] at hcontent
  split at hcontent
  swap
  · cases hcontent
  cases hcontent
  exact storable_upgradeSchemaRef (storable_formSource h)

/-! ### Upgraded descriptions -/

section
variable {doc : Document} (hdoc : doc.Storable unique)
include hdoc

theorem storable_of_mapM {parameters : List (RefOr Parameter)} {rs : List Resolved}
    (h : ∀ parameter ∈ parameters, parameter.All (Parameter.Listable unique))
    (hrs : parameters.mapM doc.resolveParameter = .ok rs) :
    ∀ r ∈ rs, r.parameter.Storable unique := by
  intro r hr
  obtain ⟨parameter, hparameter, hresolve⟩ := exists_of_mem_mapM hrs r hr
  cases parameter with
  | inline parameter =>
    rw [resolveParameter_inline_iff.1 hresolve]
    exact (h _ hparameter parameter rfl).storable
  | ref reference =>
    obtain ⟨name, parameter, -, hglobal, rfl⟩ := resolveParameter_ref_iff.1 hresolve
    exact hdoc.parameters name parameter hglobal

omit hdoc in
theorem storable_upgradeResponseRef {response : RefOr Response} {upgraded : RefOr Api.Response}
    {produces : List String} (h : response.All (Response.Storable unique))
    (hupgrade : doc.upgradeResponseRef produces response = .ok upgraded) :
    upgraded.All (Api.Response.Storable unique) := by
  cases response with
  | inline response =>
    cases hupgrade
    rintro _ ⟨⟩
    exact storable_upgradeResponse (h response rfl) produces
  | ref reference =>
    obtain ⟨name, response, -, -, rfl⟩ := upgradeResponseRef_ref_iff.1 hupgrade
    rintro _ ⟨⟩

omit hdoc in
theorem storable_requestBodyOf {merged : List Resolved}
    (h : ∀ r ∈ merged, r.parameter.Storable unique) (consumes : List String) :
    ∀ body ∈ requestBodyOf merged consumes, body.All (RequestBody.Storable unique) := by
  cases hbody : lastBody merged with
  | some r =>
    rw [requestBodyOf_of_some hbody]
    rintro _ ⟨⟩ body hinline
    rw [Resolved.toBody] at hinline
    split at hinline
    · cases hinline
    · cases hinline
      have hmem := List.mem_of_getLast? hbody
      exact storable_bodyOf (h r (List.mem_filter.1 hmem).1) consumes
  | none =>
    rw [lastBody] at hbody
    rw [requestBodyOf, hbody]
    dsimp only
    split
    · rintro _ ⟨⟩
    · rintro _ ⟨⟩ _ ⟨⟩
      refine storable_formBody (fun field hfield => ?_) consumes
      obtain ⟨r, hr, rfl⟩ := List.mem_map.1 (List.mem_filter.1 hfield).1
      exact h r hr

theorem storable_upgradeOperation {shared : List Resolved}
    (hshared : ∀ r ∈ shared, r.parameter.Storable unique) {operation : Operation}
    (h : operation.Storable unique) {upgraded : Api.Operation}
    (hupgrade : doc.upgradeOperation shared operation = .ok upgraded) :
    upgraded.Storable unique := by
  obtain ⟨own, responses, hown, hresponses, rfl⟩ := upgradeOperation_eq_ok_iff.1 hupgrade
  have hmerged : ∀ r ∈ mergeParameters shared own, r.parameter.Storable unique :=
    forall_mem_overrideAll hshared (storable_of_mapM hdoc h.parameters hown)
  refine ⟨?_, storable_requestBodyOf hmerged _, ?_⟩
  · rw [parameters_assemble]
    intro parameter hparameter value hinline
    obtain ⟨r, hr, rfl⟩ := List.mem_map.1 hparameter
    rw [Resolved.toParameter] at hinline
    split at hinline
    · cases hinline
    · cases hinline
      exact storable_upgradeParameter (hmerged r (List.mem_filter.1 hr).1)
  · intro code response hcode
    obtain ⟨source, hsource, hresponse⟩ :=
      exists_of_rel_right (get?_of_upgradeValues hresponses code) hcode
    exact storable_upgradeResponseRef (h.responses code source hsource) hresponse

theorem storable_upgradePathItem {item : PathItem} (h : item.Storable unique)
    {upgraded : Api.PathItem} (hupgrade : doc.upgradePathItem item = .ok upgraded) :
    upgraded.Storable unique := by
  obtain ⟨shared, hshared, hat, hparameters⟩ := upgradePathItem_eq_ok_iff.1 hupgrade
  refine ⟨fun verb operation hoperation => ?_, ?_⟩
  · obtain ⟨source, hsource, hupgraded⟩ := exists_of_rel_right (hat verb) hoperation
    exact storable_upgradeOperation hdoc (storable_of_mapM hdoc h.parameters hshared)
      (h.operations verb source hsource) hupgraded
  · rw [hparameters]
    exact List.forall_mem_nil _

theorem storable_components : doc.components.Storable unique where
  schemas := by
    intro name schema hschema
    rw [Document.components, Dict.get?_map, Option.map_eq_some_iff] at hschema
    obtain ⟨source, hsource, rfl⟩ := hschema
    exact storable_upgradeSchemaRef (hdoc.definitions name source hsource)
  parameters := by
    intro name parameter hparameter
    obtain ⟨source, hsource, hif⟩ := Dict.get?_filterMap_eq_some_iff.1 hparameter
    split at hif
    · cases hif
    · cases hif
      rintro _ ⟨⟩
      exact storable_upgradeParameter (hdoc.parameters name source hsource)
  requestBodies := by
    intro name body hbody
    obtain ⟨source, hsource, hif⟩ := Dict.get?_filterMap_eq_some_iff.1 hbody
    split at hif
    · cases hif
      rintro _ ⟨⟩
      exact storable_bodyOf (hdoc.parameters name source hsource) doc.consumes
    · cases hif
  responses := by
    intro name response hresponse
    rw [Document.components, Dict.get?_map, Option.map_eq_some_iff] at hresponse
    obtain ⟨source, hsource, rfl⟩ := hresponse
    rintro _ ⟨⟩
    exact storable_upgradeResponse (hdoc.responses name source hsource) doc.produces

/-- **The upgraded form of a description that can be stored can be stored.** -/
theorem storable_upgrade {upgraded : Api.Document} (h : doc.upgrade = .ok upgraded) :
    upgraded.Storable unique := by
  refine ⟨?_, ?_⟩
  · intro paths hpaths path item hitem
    have hfound : upgraded.pathItems.get? path = some item :=
      Dict.get?_getD_empty.2 ⟨paths, hpaths, hitem⟩
    obtain ⟨source, hsource, hupgraded⟩ := exists_of_rel_right (get?_of_upgrade h path) hfound
    obtain ⟨sources, hsources, hpath⟩ := Dict.get?_getD_empty.1 hsource
    exact storable_upgradePathItem hdoc (hdoc.paths sources hsources path source hpath) hupgraded
  · rw [components_of_upgrade h]
    rintro _ ⟨⟩
    exact storable_components hdoc

end

/-- **Descriptions are read back as they were written**: those that are read from a JSON value
    with integers of 64 bits and no key twice, of both sorts, and their upgraded forms. -/
theorem descriptions_read_back :
    (∀ value, value.Regular True → ∀ doc, Api.Document.read? value = some doc →
      Api.Document.read? doc.toJson = some doc) ∧
    ∀ value, value.Regular True → ∀ doc, Document.read? value = some doc →
      Document.read? doc.toJson = some doc ∧
      ∀ upgraded, doc.upgrade = .ok upgraded →
        Api.Document.read? upgraded.toJson = some upgraded := by
  constructor
  · intro value hvalue doc hread
    exact Api.read?_document trivial (Api.yields_document value hvalue doc hread)
  · intro value hvalue doc hread
    have hstorable : doc.Storable True := yields_document value hvalue doc hread
    refine ⟨read?_document trivial hstorable, fun upgraded hupgrade => ?_⟩
    exact Api.read?_document trivial (storable_upgrade hstorable hupgrade)

/-- A description whose definition has a single type name, the greatest count there is and a
    vendor's keyword. -/
def vended : Json :=
  .object [
    ("swagger", .string "2.0"),
    ("definitions", .object [("Pet", .object [
      ("type", .string "object"),
      ("x-nullable", .bool true),
      ("maxLength", .number (.int 18446744073709551615))])])]

/-- It is read back, and its upgraded form, too. -/
theorem vended_read_back : ∃ doc upgraded, Document.read? vended = some doc ∧
    Document.read? doc.toJson = some doc ∧ doc.upgrade = .ok upgraded ∧
      Api.Document.read? upgraded.toJson = some upgraded := by
  have hpet : ∀ m ∈ [("type", Json.string "object"), ("x-nullable", .bool true),
      ("maxLength", .number (.int 18446744073709551615))], m.2.Regular True := by
    simp only [List.forall_mem_cons]
    exact ⟨.string, .bool, .int (by decide), List.forall_mem_nil _⟩
  have hregular : vended.Regular True := by
    refine .object (fun _ => by decide) (List.forall_mem_cons.2 ⟨.string, ?_⟩)
    refine List.forall_mem_singleton.2 (.object (fun _ => by decide) ?_)
    exact List.forall_mem_singleton.2 (.object (fun _ => by decide) hpet)
  have hread : (Document.read? vended).any (·.upgrade.isOk) := by decide +kernel
  obtain ⟨doc, hdoc, hok⟩ := (Option.any_eq_true _ _).1 hread
  obtain ⟨upgraded, hupgrade⟩ := isOk_iff.1 hok
  obtain ⟨hback, hupgraded⟩ := descriptions_read_back.2 vended hregular doc hdoc
  exact ⟨doc, upgraded, hdoc, hback, hupgrade, hupgraded upgraded hupgrade⟩

end ApiKinds.Swagger
