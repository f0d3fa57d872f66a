/-
  The schemas of an upgraded description, against the schemas that they come from.

  * `Translates`: a schema is the translation of another: references to definitions lead to
    component schemas, `x-nullable` is taken into `nullable`, and nothing else is different, at
    any depth.
  * `Schema.PartOf`, `IsTranslated`: the nodes of a schema, and those without anything that is
    left to translate.
  * `Swagger.Document.sourceAt?`: the schema of a Swagger description that belongs to a place of
    its upgraded form.
  * `schemaAt?_of_upgrade`: the one is the upgraded other, at every place.
  * `schemas_translated`: so every schema of an upgraded description is a translation, and
    nothing is left to translate in it.
-/
import ApiKinds.Proofs.Api.Place
import ApiKinds.Proofs.Api.Schema
import ApiKinds.Proofs.Swagger.Inlining

namespace ApiKinds

open Api

/-! ## Nodes of schemas -/

/-- A schema occurs in another: in its place, or in that of a property, of the items or of a
    member. -/
inductive Api.Schema.PartOf (part : RefOr Schema) : RefOr Schema → Prop
  | here : PartOf part part
  | property {schema : Schema} {name inner} : (name, inner) ∈ schema.properties →
      PartOf part inner → PartOf part (.inline schema)
  | items {schema : Schema} {inner} : schema.items = some inner → PartOf part inner →
      PartOf part (.inline schema)
  | member {schema : Schema} {inner} : inner ∈ schema.allOf → PartOf part inner →
      PartOf part (.inline schema)

theorem Api.Schema.Mentions.partOf {reference : String} {schema : RefOr Schema}
    (h : Schema.Mentions reference schema) : Schema.PartOf (.ref reference) schema := by
  induction h with
  | here => exact .here
  | property hmem _ ih => exact .property hmem ih
  | items hinner _ ih => exact .items hinner ih
  | member hmem _ ih => exact .member hmem ih

namespace Swagger

/-! ## Translations -/

/-- A reference to a definition as one to a component schema; others stay. -/
inductive TranslatesReference : String → String → Prop
  | definition (name : String) :
      TranslatesReference ("#/definitions/" ++ name) ("#/components/schemas/" ++ name)
  | other {reference : String} : ¬ Text.hasPrefix "#/definitions/" reference →
      TranslatesReference reference reference

/-- The same facets, but for `x-nullable`, which has become part of `nullable`. -/
structure TranslatesFacets (source image : Facets) : Prop where
  nullable : image.nullable ↔
    source.nullable ∨ Entries.get? "x-nullable" source.extensions = some (.bool true)
  extensions : image.extensions = source.extensions.filter (·.1 ≠ "x-nullable")
  rest : image = { source with nullable := image.nullable, extensions := image.extensions }

/-- A schema is the translation of another, node by node. -/
inductive Translates : RefOr Schema → RefOr Schema → Prop
  | ref {source image : String} : TranslatesReference source image →
      Translates (.ref source) (.ref image)
  | inline {source image : Schema} : TranslatesFacets source.toFacets image.toFacets →
      source.properties.map (·.1) = image.properties.map (·.1) →
      List.Forall₂ Translates (source.properties.map (·.2)) (image.properties.map (·.2)) →
      Option.Rel Translates source.items image.items →
      List.Forall₂ Translates source.allOf image.allOf →
      Translates (.inline source) (.inline image)

/-- A node without anything that is left to translate. -/
inductive IsTranslated : RefOr Schema → Prop
  | ref {reference : String} : ¬ Text.hasPrefix "#/definitions/" reference →
      IsTranslated (.ref reference)
  | inline {schema : Schema} : (∀ entry ∈ schema.extensions, entry.1 ≠ "x-nullable") →
      IsTranslated (.inline schema)

theorem upgradeEntries_eq (entries : List (String × RefOr Schema)) :
    upgradeEntries entries = entries.map fun p => (p.1, upgradeSchemaRef p.2) := by
  induction entries with
  | nil => rw [upgradeEntries, List.map_nil]
  | cons entry rest ih => rw [upgradeEntries, ih, List.map_cons]

theorem upgradeList_eq (schemas : List (RefOr Schema)) :
    upgradeList schemas = schemas.map upgradeSchemaRef := by
  induction schemas with
  | nil => rw [upgradeList, List.map_nil]
  | cons schema rest ih => rw [upgradeList, ih, List.map_cons]

theorem upgradeSchema_eq (schema : Schema) : upgradeSchema schema =
    { toFacets := upgradeFacets schema.toFacets
      properties := schema.properties.map fun p => (p.1, upgradeSchemaRef p.2)
      items := schema.items.map upgradeSchemaRef
      allOf := schema.allOf.map upgradeSchemaRef } := by
  obtain ⟨facets, properties, items, allOf⟩ := schema
  cases items <;> simp [upgradeSchema, upgradeEntries_eq, upgradeList_eq]

theorem translatesReference_upgrade (reference : String) :
    TranslatesReference reference (upgradeReference reference) := by
  rw [upgradeReference]
  cases hname : Text.dropPrefix? "#/definitions/" reference with
  | none =>
    refine .other fun hprefix => ?_
    obtain ⟨name, rfl⟩ := Text.hasPrefix_iff.1 hprefix
    rw [Text.dropPrefix?_append] at hname
    cases hname
  | some name =>
    rw [Text.dropPrefix?_eq_some_iff] at hname
    subst hname
    exact .definition name

theorem translatesFacets_upgrade (facets : Facets) :
    TranslatesFacets facets (upgradeFacets facets) := by
  refine ⟨?_, ?_, rfl⟩
  · rw [upgradeFacets, Bool.or_eq_true, nullableKeyword]
    refine or_congr_right ?_
    split
    · next hvalue => simp [hvalue]
    · next hvalue => simpa using hvalue
  · rw [upgradeFacets, nullableKeyword]
    refine List.filter_congr fun entry _ => ?_
    rw [bne, beq_eq_decide, decide_not]

/-- Upgrading translates a schema. -/
theorem translates_upgrade (schema : RefOr Schema) :
    Translates schema (upgradeSchemaRef schema) := by
  induction schema using Schema.induction with
  | ref target =>
    rw [upgradeSchemaRef]
    exact .ref (translatesReference_upgrade target)
  | inline schema hproperties hitems hmembers =>
    rw [upgradeSchemaRef, upgradeSchema_eq]
    refine .inline (translatesFacets_upgrade _) ?_ ?_ ?_ ?_
    · rw [List.map_map]
      rfl
    · rw [List.map_map, List.forall₂_map_left_iff, List.forall₂_map_right_iff, List.forall₂_same]
      rintro ⟨name, part⟩ hmem
      exact hproperties name part hmem
    · cases hpart : schema.items with
      | none => exact .none
      | some part => exact .some (hitems part hpart)
    · rw [List.forall₂_map_right_iff, List.forall₂_same]
      exact hmembers

/-- Every node of a translation is the translation of a node. -/
theorem Translates.exists_partOf {source image part : RefOr Schema} (h : Translates source image)
    (hpart : Schema.PartOf part image) :
    ∃ origin, Schema.PartOf origin source ∧ Translates origin part := by
  induction hpart generalizing source with
  | here => exact ⟨source, .here, h⟩
  | property hmem _ ih =>
    obtain _ | ⟨_, _, hproperties, _, _⟩ := h
    obtain ⟨outer, houter, htranslates⟩ :=
      exists_of_mem_right hproperties _ (List.mem_map_of_mem hmem)
    obtain ⟨⟨name, outer⟩, hsource, rfl⟩ := List.mem_map.1 houter
    obtain ⟨origin, horigin, himage⟩ := ih htranslates
    exact ⟨origin, .property hsource horigin, himage⟩
  | items hinner _ ih =>
    obtain _ | ⟨_, _, _, hitems, _⟩ := h
    obtain ⟨outer, houter, htranslates⟩ := exists_of_rel_right hitems hinner
    obtain ⟨origin, horigin, himage⟩ := ih htranslates
    exact ⟨origin, .items houter horigin, himage⟩
  | member hmem _ ih =>
    obtain _ | ⟨_, _, _, _, hmembers⟩ := h
    obtain ⟨outer, houter, htranslates⟩ := exists_of_mem_right hmembers _ hmem
    obtain ⟨origin, horigin, himage⟩ := ih htranslates
    exact ⟨origin, .member houter horigin, himage⟩

/-- Nothing is left to translate in a translation. -/
theorem Translates.isTranslated {source image part : RefOr Schema} (h : Translates source image)
    (hpart : Schema.PartOf part image) : IsTranslated part := by
  obtain ⟨origin, -, horigin⟩ := h.exists_partOf hpart
  cases horigin with
  | ref hreference =>
    refine .ref ?_
    cases hreference with
    | definition name =>
      intro hprefix
      rw [Text.hasPrefix, String.toList_append] at hprefix
      exact absurd hprefix (by simp)
    | other hprefix => exact hprefix
  | inline hfacets =>
    refine .inline fun entry hentry => ?_
    rw [hfacets.extensions] at hentry
    simpa using (List.mem_filter.1 hentry).2

end Swagger

/-! ## Sources of schemas -/

namespace Swagger

/-- The schema of a body in one media type, if it is one of those listed. -/
def bodySchema? (schema : Option (RefOr Schema)) (types : List String) (type : String) :
    Option (RefOr Schema) :=
  if type ∈ mediaTypes (some types) [] then schema else none

/-- The schema of a form: its fields are the properties. -/
def formSource (fields : List Parameter) : Schema where
  types := ["object"]
  properties := Entries.ofList (fields.map fun field => (field.name, .inline field.valueSchema))
  required := (fields.filter (·.required)).map (·.name)

/-- The media type of a form. -/
def formType (consumes : List String) : String :=
  if consumes.contains multipartType then multipartType else urlEncodedType

/-- The schema of a parameter that is written in place. -/
def Resolved.schema? (r : Resolved) : Option (RefOr Schema) :=
  if r.globalName.isSome then none else some (.inline r.parameter.valueSchema)

/-- The schema of what is sent in the body: that of the last body parameter, if it is written in
    place, or else that of the form. -/
def sentSchema? (merged : List Resolved) (consumes : List String) (type : String) :
    Option (RefOr Schema) :=
  match lastBody merged with
  | some body =>
    if body.globalName.isSome then none else bodySchema? body.parameter.schema consumes type
  | none =>
    let fields := (merged.map (·.parameter)).filter (·.isFormData)
    if !fields.isEmpty && type = formType consumes then some (.inline (formSource fields)) else none

/-- An operation with its parameters and those of its path. -/
structure MergedOperation where
  operation : Operation
  merged : List Resolved

namespace Document

variable (doc : Document)

def operationAt? (path : String) (verb : Verb) : Option MergedOperation := do
  let item ← doc.pathItems.get? path
  let operation ← item.at? verb
  some {
    operation := operation
    merged := mergeParameters (item.parameters.filterMap doc.resolved?)
      (operation.parameters.filterMap doc.resolved?) }

/-- The schema that belongs at a place of the upgraded description. -/
def sourceAt? : SchemaPlace → Option (RefOr Schema)
  | .schema name => doc.definitions.get? name
  | .parameter name => do
    let parameter ← doc.parameters.get? name
    if parameter.inBody then none else some (.inline parameter.valueSchema)
  | .requestBody name type => do
    let parameter ← doc.parameters.get? name
    if parameter.isBody then bodySchema? parameter.schema doc.consumes type else none
  | .response name type => do
    bodySchema? (← doc.responses.get? name).schema doc.produces type
  | .shared _ _ => none
  | .own path verb index => do
    (← ((← doc.operationAt? path verb).merged.filter (!·.parameter.inBody))[index]?).schema?
  | .body path verb type => do
    let ⟨operation, merged⟩ ← doc.operationAt? path verb
    sentSchema? merged (mediaTypes operation.consumes doc.consumes) type
  | .answer path verb code type => do
    let ⟨operation, _⟩ ← doc.operationAt? path verb
    bodySchema? (← (← operation.responses.get? code).inline?).schema
      (mediaTypes operation.produces doc.produces) type

end Document

/-! ## Places of upgraded schemas -/

theorem contentSchema?_contentOf (schema : Option (RefOr Schema)) (types : List String)
    (type : String) : contentSchema? (contentOf schema types) type =
      (bodySchema? schema types type).map upgradeSchemaRef := by
  cases schema with
  | none =>
    rw [bodySchema?, ite_self]
    rfl
  | some schema =>
    rw [contentSchema?, get?_contentOf, bodySchema?]
    split <;> rfl

theorem upgradeSchema_valueSchema (parameter : Parameter) :
    Parameter.schemaIn? (.inline (upgradeParameter parameter)) =
      some (upgradeSchemaRef (.inline parameter.valueSchema)) := by
  rw [upgradeSchemaRef]
  rfl

theorem schemaIn?_toParameter (r : Resolved) :
    Parameter.schemaIn? r.toParameter = r.schema?.map upgradeSchemaRef := by
  rw [Resolved.toParameter, Resolved.schema?]
  cases r.globalName with
  | none => exact upgradeSchema_valueSchema r.parameter
  | some name => rfl

theorem formSchema_eq (fields : List Parameter) :
    formSchema fields = upgradeSchema (formSource fields) := by
  have hproperties : (formSchema fields).properties =
      (formSource fields).properties.map fun p => (p.1, upgradeSchemaRef p.2) := by
    rw [formSource, ← Entries.ofList_map fun _ => upgradeSchemaRef, List.map_map]
    simp only [formSchema, Function.comp_def, upgradeSchemaRef]
  rw [upgradeSchema_eq, ← hproperties]
  rfl

theorem contentSchema?_formBody (fields : List Parameter) (consumes : List String)
    (type : String) : contentSchema? (formBody fields consumes).content type =
      if type = formType consumes then some (upgradeSchemaRef (.inline (formSource fields)))
      else none := by
  have hget : (formBody fields consumes).content.get? type =
      if type = formType consumes then some { schema := some (.inline (formSchema fields)) }
      else none := rfl
  rw [contentSchema?, hget, upgradeSchemaRef, ← formSchema_eq]
  split <;> rfl

/-- The schema of an upgraded body. -/
theorem contentSchema?_requestBodyOf (merged : List Resolved) (consumes : List String)
    (type : String) :
    ((requestBodyOf merged consumes).bind (·.inline?)).bind (contentSchema? ·.content type) =
      (sentSchema? merged consumes type).map upgradeSchemaRef := by
  cases hbody : lastBody merged with
  | some body =>
    rw [requestBodyOf_of_some hbody, sentSchema?, hbody, Resolved.toBody, Option.bind_some]
    dsimp only
    cases body.globalName with
    | none => exact contentSchema?_contentOf body.parameter.schema consumes type
    | some name => rfl
  | none =>
    rw [sentSchema?, hbody]
    rw [lastBody] at hbody
    rw [requestBodyOf, hbody]
    dsimp only
    generalize (merged.map (·.parameter)).filter (·.isFormData) = fields
    cases fields.isEmpty with
    | true => rfl
    | false =>
      have hform := contentSchema?_formBody fields consumes type
      by_cases htype : type = formType consumes <;>
        simpa [htype, RefOr.inline?] using hform

theorem contentSchema?_upgradeResponseRef {doc : Document} {produces : List String}
    {response : RefOr Response} {upgraded : RefOr Api.Response}
    (h : doc.upgradeResponseRef produces response = .ok upgraded) (type : String) :
    upgraded.inline?.bind (contentSchema? ·.content type) =
      (response.inline?.bind fun r => bodySchema? r.schema produces type).map
        upgradeSchemaRef := by
  cases response with
  | inline response =>
    rw [Document.upgradeResponseRef, Except.ok.injEq] at h
    subst h
    exact contentSchema?_contentOf response.schema produces type
  | ref reference =>
    obtain ⟨name, response, -, -, rfl⟩ := upgradeResponseRef_ref_iff.1 h
    rfl

/-- An operation of an upgraded description, put together from its source and the parameters of
    that. -/
structure Document.Assembles (doc : Document) (source : MergedOperation)
    (image : Api.Operation) : Prop where
  responses : ∀ code, Option.Rel (fun a b =>
      doc.upgradeResponseRef (mediaTypes source.operation.produces doc.produces) a = .ok b)
    (source.operation.responses.get? code) (image.responses.get? code)
  parameters : image.parameters =
    (source.merged.filter (!·.parameter.inBody)).map Resolved.toParameter
  requestBody : image.requestBody =
    requestBodyOf source.merged (mediaTypes source.operation.consumes doc.consumes)

theorem operationAt?_of_upgrade {doc : Document} {upgraded : Api.Document}
    (h : doc.upgrade = .ok upgraded) (path : String) (verb : Verb) :
    Option.Rel doc.Assembles (doc.operationAt? path verb) (upgraded.operationAt? path verb) := by
  refine rel_bind (get?_of_upgrade h path) fun item item' hitem => ?_
  obtain ⟨shared, hshared, hat, -⟩ := upgradePathItem_eq_ok_iff.1 hitem
  rw [← Option.bind_fun_some (item'.at? verb)]
  refine rel_bind (hat verb) fun operation operation' hoperation => .some ?_
  obtain ⟨own, responses, hown, hresponses, rfl⟩ := upgradeOperation_eq_ok_iff.1 hoperation
  have hmerged : mergeParameters (item.parameters.filterMap doc.resolved?)
      (operation.parameters.filterMap doc.resolved?) = mergeParameters shared own :=
    congrArg₂ mergeParameters (filterMap_toOption_of_mapM hshared)
      (filterMap_toOption_of_mapM hown)
  refine ⟨get?_of_upgradeValues hresponses, ?_, ?_⟩
  · rw [parameters_assemble, hmerged]
  · rw [hmerged]
    rfl

/-- **The schema at a place of an upgraded description is that of its source, upgraded.** -/
theorem schemaAt?_of_upgrade {doc : Document} {upgraded : Api.Document}
    (h : doc.upgrade = .ok upgraded) (place : SchemaPlace) :
    upgraded.schemaAt? place = (doc.sourceAt? place).map upgradeSchemaRef := by
  have hcomponents := components_of_upgrade h
  have hoperation := operationAt?_of_upgrade h
  cases place with
  | schema name =>
    simp [Api.Document.schemaAt?, Document.sourceAt?, hcomponents, Document.components,
      Dict.get?_map]
  | parameter name =>
    simp only [Api.Document.schemaAt?, Document.sourceAt?, hcomponents, Document.components,
      Option.bind_eq_bind, Option.bind_some, Dict.get?_filterMap]
    cases doc.parameters.get? name with
    | none => rfl
    | some parameter =>
      rw [Option.bind_some, Option.bind_some, ← Parameter.inBody]
      cases parameter.inBody with
      | true => rfl
      | false => exact upgradeSchema_valueSchema parameter
  | requestBody name type =>
    simp only [Api.Document.schemaAt?, Document.sourceAt?, hcomponents, Document.components,
      Option.bind_eq_bind, Option.bind_some, Dict.get?_filterMap]
    cases doc.parameters.get? name with
    | none => rfl
    | some parameter =>
      rw [Option.bind_some, Option.bind_some]
      cases parameter.isBody with
      | true => exact contentSchema?_contentOf parameter.schema doc.consumes type
      | false => rfl
  | response name type =>
    simp only [Api.Document.schemaAt?, Document.sourceAt?, hcomponents, Document.components,
      Option.bind_eq_bind, Option.bind_some, Dict.get?_map]
    cases doc.responses.get? name with
    | none => rfl
    | some response => exact contentSchema?_contentOf response.schema doc.produces type
  | shared path index =>
    rw [Api.Document.schemaAt?, Document.sourceAt?, Option.map_none]
    refine Option.bind_eq_none_iff.2 fun item hitem => ?_
    obtain ⟨_, -, hpath⟩ := exists_of_rel_right (get?_of_upgrade h path) hitem
    obtain ⟨_, -, -, hparameters⟩ := upgradePathItem_eq_ok_iff.1 hpath
    rw [hparameters]
    rfl
  | own path verb index =>
    refine bind_eq_map_of_rel (hoperation path verb) fun source image hassembles => ?_
    rw [hassembles.parameters, List.getElem?_map]
    cases (source.merged.filter (!·.parameter.inBody))[index]? with
    | none => rfl
    | some r => exact schemaIn?_toParameter r
  | body path verb type =>
    refine bind_eq_map_of_rel (hoperation path verb) fun source image hassembles => ?_
    rw [hassembles.requestBody, ← contentSchema?_requestBodyOf, Option.bind_assoc]
    rfl
  | answer path verb code type =>
    refine bind_eq_map_of_rel (hoperation path verb) fun source image hassembles => ?_
    refine bind_eq_map_of_rel (hassembles.responses code) fun response image hresponse => ?_
    exact contentSchema?_upgradeResponseRef hresponse type

/-! ## Upgraded schemas are translations -/

theorem translates_of_upgrade {doc : Document} {upgraded : Api.Document}
    (h : doc.upgrade = .ok upgraded) (place : SchemaPlace) :
    Option.Rel Translates (doc.sourceAt? place) (upgraded.schemaAt? place) := by
  rw [schemaAt?_of_upgrade h]
  cases doc.sourceAt? place with
  | none => exact .none
  | some source => exact .some (translates_upgrade source)

/-- **The schemas of an upgraded description are translations of those of its source, place by
    place.** Nothing is left to translate in them, at any depth, and so no reference to a schema
    leads to a definition, wherever it occurs. -/
theorem schemas_translated {doc : Document} {upgraded : Api.Document}
    (h : doc.upgrade = .ok upgraded) :
    (∀ place, Option.Rel Translates (doc.sourceAt? place) (upgraded.schemaAt? place)) ∧
    (∀ place schema, upgraded.schemaAt? place = some schema →
      ∀ part, Schema.PartOf part schema → IsTranslated part) ∧
    ∀ reference, upgraded.Mentions .schemas reference →
      ¬ Text.hasPrefix "#/definitions/" reference := by
  have hparts : ∀ place schema, upgraded.schemaAt? place = some schema →
      ∀ part, Schema.PartOf part schema → IsTranslated part := by
    intro place schema hschema part hpart
    obtain ⟨source, -, htranslates⟩ := exists_of_rel_right (translates_of_upgrade h place) hschema
    exact htranslates.isTranslated hpart
  refine ⟨translates_of_upgrade h, hparts, fun reference hmentions => ?_⟩
  obtain ⟨place, schema, hschema, hmention⟩ :=
    Api.Document.exists_place_of_mentions hmentions
  obtain ⟨hreference⟩ | _ := hparts place schema hschema _ hmention.partOf
  exact hreference

/-- A definition with a reference to another one, and a body that refers to it. -/
def owned : Document where
  paths := some (.ofList [("/pets", { post := some { parameters := [.inline body] } })])
  definitions := .ofList [("Pet", .inline pet), ("Owner", .inline {})]
where
  pet : Schema :=
    { extensions := [("x-nullable", .bool true)]
      properties := [("owner", .ref "#/definitions/Owner")] }
  body : Parameter :=
    { name := "pet", location := "body", schema := some (.ref "#/definitions/Pet") }

/-- The definition is nullable then, and both references are rewritten. -/
theorem schemas_translated_of_owned : ∃ upgraded schema target,
    owned.upgrade = .ok upgraded ∧
      upgraded.schemaAt? (.schema "Pet") = some (.inline schema) ∧ schema.nullable ∧
      (∀ part, Schema.PartOf part (.inline schema) → IsTranslated part) ∧
      upgraded.schemaAt? (.body "/pets" .post "application/json") = some target ∧
      Translates (.ref "#/definitions/Pet") target := by
  have hok : owned.upgrade.isOk := by decide +kernel
  obtain ⟨upgraded, hupgrade⟩ := isOk_iff.1 hok
  obtain ⟨hplaces, hparts, -⟩ := schemas_translated hupgrade
  obtain ⟨image, himage, htranslates⟩ :=
    exists_of_rel (hplaces (.schema "Pet")) (show _ = some (.inline owned.pet) from rfl)
  obtain ⟨target, htarget, hreference⟩ :=
    exists_of_rel (hplaces (.body "/pets" .post "application/json"))
      (show _ = some (.ref "#/definitions/Pet") from rfl)
  obtain _ | ⟨hfacets⟩ := htranslates
  exact ⟨upgraded, _, target, hupgrade, himage, hfacets.nullable.2 (.inr rfl),
    hparts _ _ himage, htarget, hreference⟩

end Swagger

end ApiKinds
