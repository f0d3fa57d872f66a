/-
  Extensions change nothing of what is made of a document, but for the member of a parameter
  that names a field.

  * `shape?_withoutExtensions`: a schema has the shape that it has without extensions.
  * `readAlike_withoutExtensions`: an operation shows the same.
  * `catalog_withoutExtensions`: so does the document.
  * `extensions_ignored`: documents that are equal without extensions pass the check alike and
    have the same catalogs and reports.
-/
import ApiKinds.Proofs.Api.Extensions
import ApiKinds.Proofs.Expansion.Run
import ApiKinds.Proofs.Override
import ApiKinds.Proofs.Survey.Reading

namespace ApiKinds

open Api

variable (doc : Document)

/-! ## Nodes -/

section
variable (schema : Schema)

theorem impliedType_withoutExtensions :
    schema.withoutExtensions.impliedType = schema.impliedType := by
  rw [withoutExtensions_eq]
  simp only [Schema.impliedType, Facets.withoutExtensions, Facets.primaryType?, List.isEmpty_map,
    Option.isSome_map]

theorem trait_withoutExtensions (name : String) :
    schema.withoutExtensions.trait name = schema.trait name := by
  rw [Schema.trait, impliedType_withoutExtensions, withoutExtensions_eq, Schema.trait]
  rfl

theorem stub_withoutExtensions (name component : String) :
    stub name component schema.withoutExtensions = stub name component schema := by
  rw [stub, impliedType_withoutExtensions, withoutExtensions_eq, stub]
  rfl

theorem wrapped?_withoutExtensions :
    schema.withoutExtensions.wrapped? = schema.wrapped?.map withoutExtensionsIn := by
  rw [withoutExtensions_eq]
  obtain ⟨facets, properties, items, allOf⟩ := schema
  match allOf with
  | [] | _ :: _ :: _ => rfl
  | [member] =>
    simp only [Schema.wrapped?, Facets.withoutExtensions, List.map_cons, List.map_nil,
      List.isEmpty_map]
    split <;> rfl

end

theorem target?_withoutExtensions (schema : RefOr Schema) :
    (withoutExtensionsIn schema).target? = schema.target? := by
  rw [withoutExtensionsIn_eq]
  cases schema <;> rfl

theorem linkOf?_withoutExtensions (property : RefOr Schema) :
    linkOf? (withoutExtensionsIn property) = linkOf? property := by
  cases property with
  | ref target => rw [withoutExtensionsIn]
  | inline schema =>
    rw [withoutExtensionsIn, linkOf?, linkOf?, wrapped?_withoutExtensions, Option.bind_map]
    exact congrArg _ (funext target?_withoutExtensions)

theorem schema?_ref_withoutExtensions (reference : String) :
    doc.withoutExtensions.schema? (.ref reference) =
      (doc.schema? (.ref reference)).map Schema.withoutExtensions := by
  rw [← doc.schema?_withoutExtensions, withoutExtensionsIn]

theorem linked_withoutExtensions (name reference : String) (property : RefOr Schema) :
    linked doc.withoutExtensions name reference (withoutExtensionsIn property) =
      linked doc name reference property := by
  cases property with
  | ref target =>
    rw [withoutExtensionsIn, linked, linked, schema?_ref_withoutExtensions]
    cases doc.schema? (.ref reference) with
    | none => rfl
    | some target => exact stub_withoutExtensions target name _
  | inline wrapper =>
    rw [withoutExtensionsIn, withoutExtensions_eq, linked, linked, schema?_ref_withoutExtensions]
    cases doc.schema? (.ref reference) with
    | none => rfl
    | some target =>
      exact congrArg (Shape.under wrapper.toFacets) (stub_withoutExtensions target name _)

/-! ## Shapes -/

theorem shapeOfRef_withoutExtensions (enter : String → String → Option Shape) (name : String)
    (schema : RefOr Schema) :
    shapeOfRef doc.withoutExtensions enter name (withoutExtensionsIn schema) =
      shapeOfRef doc enter name schema := by
  induction schema using Schema.induction generalizing name with
  | ref target => rw [withoutExtensionsIn, shapeOfRef, shapeOfRef]
  | inline schema hproperties hitems hmembers =>
    have hwrapped : schema.withoutExtensions.wrapped?.bind
        (shapeOfRef doc.withoutExtensions enter name) =
          schema.wrapped?.bind (shapeOfRef doc enter name) := by
      rw [wrapped?_withoutExtensions, Option.bind_map]
      refine Option.bind_congr fun member hmember => ?_
      exact hmembers member (mem_allOf_of_wrapped? hmember) name
    rw [withoutExtensionsIn, shapeOfRef, shapeOfRef]
    cases hshape : schema.wrapped?.bind (shapeOfRef doc enter name) with
    | some shape =>
      rw [shapeOf_wrapped _ _ (hwrapped.trans hshape), shapeOf_wrapped _ _ hshape,
        withoutExtensions_eq]
      rfl
    | none =>
      have hproperty : (schema.properties.map fun p => (p.1, withoutExtensionsIn p.2)).map
            (fun property => (property.1, propertyShape doc.withoutExtensions enter property)) =
          schema.properties.map fun property => (property.1, propertyShape doc enter property) := by
        rw [List.map_map]
        refine List.map_congr_left fun property hmem => congrArg (Prod.mk property.1) ?_
        simp only [propertyShape, linkOf?_withoutExtensions, linked_withoutExtensions,
          hproperties property.1 property.2 hmem]
      have hitem : (schema.items.map withoutExtensionsIn).bind
          (shapeOfRef doc.withoutExtensions enter "Items") =
            schema.items.bind (shapeOfRef doc enter "Items") := by
        rw [Option.bind_map]
        exact Option.bind_congr fun part hpart => hitems part hpart "Items"
      rw [shapeOf_plain _ _ (hwrapped.trans hshape), shapeOf_plain _ _ hshape,
        trait_withoutExtensions, withoutExtensions_eq, hproperty, hitem]

theorem expand_withoutExtensions (depth : Nat) (inside : List String) (name reference : String) :
    expand doc.withoutExtensions depth inside name reference =
      expand doc depth inside name reference := by
  induction depth generalizing inside name reference with
  | zero =>
    rw [expand, expand, schema?_ref_withoutExtensions]
    cases doc.schema? (.ref reference) with
    | none => rfl
    | some target => exact congrArg some (stub_withoutExtensions target name _)
  | succ depth ih =>
    have henter : ∀ component, expand doc.withoutExtensions depth (component :: inside) =
        expand doc depth (component :: inside) :=
      fun component => funext fun name => funext fun reference => ih _ name reference
    have hshape : ∀ enter target, shapeOf doc.withoutExtensions enter name
        target.withoutExtensions = shapeOf doc enter name target := by
      intro enter target
      have hinline := shapeOfRef_withoutExtensions doc enter name (.inline target)
      rw [withoutExtensionsIn, shapeOfRef, shapeOfRef] at hinline
      exact Option.some.inj hinline
    rw [expand, expand, schema?_ref_withoutExtensions]
    cases doc.schema? (.ref reference) with
    | none => rfl
    | some target => simp only [Option.map_some, henter, hshape, stub_withoutExtensions]

theorem referencesOf_withoutExtensions (schema : RefOr Schema) :
    referencesOf (withoutExtensionsIn schema) = referencesOf schema := by
  induction schema using Schema.induction with
  | ref target => rw [withoutExtensionsIn]
  | inline schema hproperties hitems hmembers =>
    have hproperty : schema.properties.flatMap (fun p => referencesOf (withoutExtensionsIn p.2)) =
        schema.properties.flatMap fun p => referencesOf p.2 :=
      List.flatMap_congr fun property hmem => hproperties property.1 property.2 hmem
    have hitem : (schema.items.map withoutExtensionsIn).toList.flatMap referencesOf =
        schema.items.toList.flatMap referencesOf := by
      cases hpart : schema.items with
      | none => rfl
      | some part => simp [hitems part hpart]
    have hmember : (schema.allOf.map withoutExtensionsIn).flatMap referencesOf =
        schema.allOf.flatMap referencesOf := by
      rw [List.flatMap_map]
      exact List.flatMap_congr hmembers
    rw [withoutExtensionsIn, referencesOf, referencesOf, references_eq, references_eq,
      withoutExtensions_eq, hitem, hmember, List.flatMap_map, hproperty]

theorem schemaReferences_withoutExtensions :
    doc.withoutExtensions.schemaReferences = doc.schemaReferences := by
  rw [Document.schemaReferences, Document.schemaReferences, Document.withoutExtensions]
  cases doc.components with
  | none => rfl
  | some components =>
    simp only [Option.map_some, Components.withoutExtensions, Dict.values_map_const,
      List.flatMap_map, referencesOf_withoutExtensions]

theorem shape?_withoutExtensions (name : String) (schema : RefOr Schema) :
    doc.withoutExtensions.shape? name (withoutExtensionsIn schema) = doc.shape? name schema := by
  have henter : ∀ depth, expand doc.withoutExtensions depth [] = expand doc depth [] :=
    fun depth => funext fun name => funext fun reference => expand_withoutExtensions doc ..
  rw [Document.shape?, Document.shape?, schemaReferences_withoutExtensions, henter,
    shapeOfRef_withoutExtensions]

theorem componentShapes_withoutExtensions :
    componentShapes doc.withoutExtensions = componentShapes doc := by
  cases hcomponents : doc.components with
  | none => simp [componentShapes, Document.withoutExtensions, hcomponents]
  | some components =>
    have hshapes : components.withoutExtensions.schemas.filterMap doc.withoutExtensions.shape? =
        components.schemas.filterMap doc.shape? := by
      refine Dict.ext_get? fun name => ?_
      rw [Components.withoutExtensions, Dict.get?_filterMap, Dict.get?_map, Option.bind_map,
        Dict.get?_filterMap]
      exact Option.bind_congr fun schema _ => shape?_withoutExtensions doc name schema
    simpa [componentShapes, Document.withoutExtensions, hcomponents] using hshapes

/-! ## Parameters and bodies -/

theorem primaryType?_withoutExtensions (schema : Schema) :
    schema.withoutExtensions.primaryType? = schema.primaryType? := by
  rw [withoutExtensions_eq]
  rfl

theorem bind_schema?_withoutExtensions (schema : Option (RefOr Schema)) :
    (schema.map withoutExtensionsIn).bind doc.withoutExtensions.schema? =
      (schema.bind doc.schema?).map Schema.withoutExtensions := by
  rw [Option.bind_map, Option.map_bind]
  exact Option.bind_congr fun schema _ => doc.schema?_withoutExtensions schema

theorem itemType?_withoutExtensions (schema : Schema) :
    itemType? doc.withoutExtensions schema.withoutExtensions = itemType? doc schema := by
  have hitem : schema.withoutExtensions.items.bind doc.withoutExtensions.schema? =
      (schema.items.bind doc.schema?).map Schema.withoutExtensions := by
    rw [withoutExtensions_eq]
    exact bind_schema?_withoutExtensions doc schema.items
  rw [itemType?, itemType?, hitem, Option.bind_map]
  exact Option.bind_congr fun inner _ => primaryType?_withoutExtensions inner

theorem parameterType?_withoutExtensions (expandArrays : Bool) (parameter : Parameter) :
    parameterType? doc.withoutExtensions expandArrays parameter.withoutExtensions =
      parameterType? doc expandArrays parameter := by
  have htarget : parameter.withoutExtensions.schema.bind doc.withoutExtensions.schema? =
      (parameter.schema.bind doc.schema?).map Schema.withoutExtensions :=
    bind_schema?_withoutExtensions doc parameter.schema
  rw [parameterType?, parameterType?, htarget]
  cases parameter.schema.bind doc.schema? with
  | none => rfl
  | some schema =>
    simp only [Option.map_some, primaryType?_withoutExtensions, itemType?_withoutExtensions]

/-- The member that names a field is kept. -/
theorem extensionText?_withoutExtensions (parameter : Parameter) :
    parameter.withoutExtensions.extensionText? idFieldKey =
      parameter.extensionText? idFieldKey := by
  have hkept : parameter.withoutExtensions.extensions.get? idFieldKey =
      parameter.extensions.get? idFieldKey := by
    rw [Parameter.withoutExtensions, Dict.get?_filterKeys, if_pos (beq_self_eq_true idFieldKey)]
  rw [Parameter.extensionText?, Parameter.extensionText?, hkept]

theorem ofParameter?_withoutExtensions (expandArrays : Bool) (parameter : Parameter) :
    Param.ofParameter? doc.withoutExtensions expandArrays parameter.withoutExtensions =
      Param.ofParameter? doc expandArrays parameter := by
  have hlocation : parameter.withoutExtensions.location = parameter.location := rfl
  simp only [Param.ofParameter?, Param.ofParameter?.shown, hlocation,
    parameterType?_withoutExtensions, extensionText?_withoutExtensions]
  rfl

theorem effectiveParameters_withoutExtensions (item : PathItem) (operation : Operation) :
    effectiveParameters doc.withoutExtensions item.withoutExtensions
        operation.withoutExtensions =
      (effectiveParameters doc item operation).map Parameter.withoutExtensions := by
  have hresolved : ∀ parameters : List (RefOr Parameter),
      (parameters.map (RefOr.map Parameter.withoutExtensions)).filterMap
          doc.withoutExtensions.parameter? =
        (parameters.filterMap doc.parameter?).map Parameter.withoutExtensions := by
    intro parameters
    rw [List.filterMap_map, List.map_filterMap]
    exact List.filterMap_congr fun parameter _ => doc.parameter?_withoutExtensions parameter
  have hoverrides : ∀ new old : Parameter,
      new.overrides old = new.withoutExtensions.overrides old.withoutExtensions := fun _ _ => rfl
  rw [effectiveParameters_eq, effectiveParameters_eq, map_overrideAll hoverrides, ← hresolved,
    ← hresolved]
  rfl

theorem shownParams_withoutExtensions (expandArrays : Bool) (item : PathItem)
    (operation : Operation) :
    shownParams doc.withoutExtensions expandArrays item.withoutExtensions
        operation.withoutExtensions = shownParams doc expandArrays item operation := by
  rw [shownParams, shownParams, effectiveParameters_withoutExtensions, List.filterMap_map]
  exact List.filterMap_congr fun parameter _ => ofParameter?_withoutExtensions doc _ parameter

theorem get?_content_withoutExtensions (content : Dict MediaType) (mediaType : String) :
    ((content.map fun _ => MediaType.withoutExtensions).get? mediaType).bind (·.schema) =
      ((content.get? mediaType).bind (·.schema)).map withoutExtensionsIn := by
  rw [Dict.get?_map, Option.bind_map, Option.map_bind]
  rfl

theorem requestSchema?_withoutExtensions (operation : Operation) (mediaType : String) :
    requestSchema? doc.withoutExtensions operation.withoutExtensions mediaType =
      (requestSchema? doc operation mediaType).map withoutExtensionsIn := by
  simp only [requestSchema?, Operation.withoutExtensions, bind, Option.bind_map, Option.map_bind]
  refine Option.bind_congr fun body _ => ?_
  rw [Function.comp_apply, doc.requestBody?_withoutExtensions, Option.bind_map, Function.comp_apply,
    Option.map_bind]
  exact Option.bind_congr fun body _ => get?_content_withoutExtensions body.content mediaType

theorem responseSchemaFor?_withoutExtensions (operation : Operation) (code : String) :
    responseSchemaFor? doc.withoutExtensions operation.withoutExtensions code =
      (responseSchemaFor? doc operation code).map withoutExtensionsIn := by
  -- A schema stays in or out of the result, as it leads to a schema or not.
  have hleads : ∀ schema : RefOr Schema,
      (if (doc.withoutExtensions.schema? (withoutExtensionsIn schema)).isSome then
        some (withoutExtensionsIn schema) else none) =
      (if (doc.schema? schema).isSome then some schema else none).map withoutExtensionsIn := by
    intro schema
    rw [doc.schema?_withoutExtensions, Option.isSome_map]
    split <;> rfl
  simp only [responseSchemaFor?, Operation.withoutExtensions, bind, Dict.get?_map, Option.bind_map,
    Option.map_bind]
  refine Option.bind_congr fun response _ => ?_
  rw [Function.comp_apply, doc.response?_withoutExtensions, Option.bind_map, Function.comp_apply,
    Option.map_bind]
  refine Option.bind_congr fun response _ => ?_
  rw [Function.comp_apply, Function.comp_apply, ← Option.bind_assoc, ← Option.bind_assoc,
    Response.withoutExtensions, get?_content_withoutExtensions, Option.bind_map, Option.map_bind]
  exact Option.bind_congr fun schema _ => hleads schema

theorem responseSchema?_withoutExtensions (operation : Operation) :
    responseSchema? doc.withoutExtensions operation.withoutExtensions =
      (responseSchema? doc operation).map withoutExtensionsIn := by
  rw [responseSchema?, responseSchema?, List.map_findSome?]
  exact congrArg (List.findSome? · successCodes)
    (funext (responseSchemaFor?_withoutExtensions doc operation))

theorem format_withoutExtensions (schema : Schema) :
    schema.withoutExtensions.format = schema.format := by
  rw [withoutExtensions_eq]
  rfl

theorem isFile_withoutExtensions (schema : RefOr Schema) :
    isFile doc.withoutExtensions (withoutExtensionsIn schema) = isFile doc schema := by
  rw [isFile, isFile, doc.schema?_withoutExtensions, Option.any_map]
  simp only [format_withoutExtensions, primaryType?_withoutExtensions]

theorem hasFilePart_withoutExtensions (schema : RefOr Schema) :
    hasFilePart doc.withoutExtensions (withoutExtensionsIn schema) = hasFilePart doc schema := by
  have hproperties : ∀ target : Schema, target.withoutExtensions.properties =
      target.properties.map fun p => (p.1, withoutExtensionsIn p.2) := by
    intro target
    rw [withoutExtensions_eq]
  rw [hasFilePart, hasFilePart, doc.schema?_withoutExtensions, Option.any_map]
  simp only [hproperties, List.any_map, Function.comp_def, doc.schema?_withoutExtensions,
    Option.any_map, format_withoutExtensions]

theorem actionBody_withoutExtensions (operation : Operation) :
    actionBody doc.withoutExtensions operation.withoutExtensions = actionBody doc operation := by
  have horElse : ∀ x y : Option (RefOr Schema),
      (x.map withoutExtensionsIn <|> y.map withoutExtensionsIn) =
        (x <|> y).map withoutExtensionsIn := by
    intro x y
    cases x <;> rfl
  simp only [actionBody, requestSchema?_withoutExtensions, Option.any_map, isFile_withoutExtensions,
    hasFilePart_withoutExtensions, horElse, Option.bind_map, Function.comp_def,
    shape?_withoutExtensions]

theorem queryResult_withoutExtensions (schema : RefOr Schema) :
    queryResult doc.withoutExtensions (withoutExtensionsIn schema) = queryResult doc schema := by
  rw [queryResult, queryResult, doc.schema?_withoutExtensions, target?_withoutExtensions]
  cases doc.schema? schema with
  | none => rfl
  | some target =>
    have htypes : target.withoutExtensions.types = target.types := by
      rw [withoutExtensions_eq]
      rfl
    have hitems : target.withoutExtensions.items.bind RefOr.target? =
        target.items.bind RefOr.target? := by
      rw [withoutExtensions_eq, Option.bind_map]
      exact congrArg _ (funext target?_withoutExtensions)
    simp only [Option.map_some, htypes, hitems]

theorem entityShape?_withoutExtensions (schema : RefOr Schema) :
    entityShape? doc.withoutExtensions (withoutExtensionsIn schema) = entityShape? doc schema := by
  have hshape := fun name => shape?_withoutExtensions doc name schema
  cases schema with
  | ref reference =>
    rw [withoutExtensionsIn] at hshape ⊢
    exact hshape (lastSegment reference)
  | inline schema =>
    rw [withoutExtensionsIn] at hshape ⊢
    exact hshape "Resource"

/-- An operation shows what it shows without extensions. -/
theorem readAlike_withoutExtensions (item : PathItem) (operation : Operation) :
    operation.ReadAlike doc doc.withoutExtensions item item.withoutExtensions
      operation.withoutExtensions where
  operationId := rfl
  summary := rfl
  description := rfl
  params expandArrays := (shownParams_withoutExtensions doc expandArrays item operation).symm
  actionBody := (actionBody_withoutExtensions doc operation).symm
  entity := by
    rw [requestSchema?_withoutExtensions, Option.bind_map]
    exact Option.bind_congr fun schema _ => (entityShape?_withoutExtensions doc schema).symm
  request name := by
    rw [requestShape?, requestShape?, requestSchema?_withoutExtensions, Option.bind_map]
    exact Option.bind_congr fun schema _ => (shape?_withoutExtensions doc name schema).symm
  response name := by
    rw [responseShape?, responseShape?, responseSchema?_withoutExtensions, Option.bind_map]
    exact Option.bind_congr fun schema _ => (shape?_withoutExtensions doc name schema).symm
  result := by
    rw [responseSchema?_withoutExtensions, Option.map_map]
    exact Option.map_congr fun schema _ => (queryResult_withoutExtensions doc schema).symm

/-! ## Catalogs -/

theorem Api.Document.mirrors_withoutExtensions :
    doc.Mirrors (fun item => (· = item.withoutExtensions))
      (fun operation => (· = operation.withoutExtensions)) doc.withoutExtensions where
  items path := by
    rw [doc.pathItems_withoutExtensions, Dict.get?_map]
    cases doc.pathItems.get? path with
    | none => exact .none
    | some item => exact .some rfl
  operations := by
    rintro item _ rfl verb
    have hat : item.withoutExtensions.at? verb =
        (item.at? verb).map Operation.withoutExtensions := by cases verb <;> rfl
    rw [hat]
    cases item.at? verb with
    | none => exact .none
    | some operation => exact .some rfl
  labels := by
    rintro operation _ rfl
    exact ⟨rfl, rfl⟩

/-- What can be made of a document is made of it without extensions. -/
theorem catalog_withoutExtensions (filter : Option PathFilter) (rootKind : Option String) :
    doc.withoutExtensions.catalog filter rootKind = doc.catalog filter rootKind := by
  have hread : ∀ a b : PathView, a.Mirrors (fun item => (· = item.withoutExtensions))
      (fun operation => (· = operation.withoutExtensions)) b →
        a.ReadAlike doc doc.withoutExtensions b := by
    intro a b hview
    refine hview.toCorresponds.mono fun operation operation' hoperation => ?_
    rw [hoperation, hview.item]
    exact readAlike_withoutExtensions doc a.item operation
  have hsurvey := doc.mirrors_withoutExtensions.survey hread filter rootKind
  rw [Document.catalog, Document.catalog, ← hsurvey, componentShapes_withoutExtensions]
  rfl

/-- **Extensions change neither the outcome of the check nor catalog and report**, but for the
    member of a parameter that names a field: they are the same for all documents that are equal
    without the others. -/
theorem extensions_ignored {doc other : Document}
    (h : doc.withoutExtensions = other.withoutExtensions) :
    doc.check = other.check ∧ doc.checkLeniently = other.checkLeniently ∧
      ∀ filter rootKind, doc.catalog filter rootKind = other.catalog filter rootKind := by
  have hleniently : ∀ doc : Document, doc.withoutExtensions.checkLeniently = doc.checkLeniently :=
    fun doc => by rw [Document.checkLeniently, Document.withoutExtensions, Option.isSome_map]; rfl
  refine ⟨?_, ?_, fun filter rootKind => ?_⟩
  · rw [← doc.check_withoutExtensions, h, other.check_withoutExtensions]
  · rw [← hleniently doc, h, hleniently other]
  · rw [← catalog_withoutExtensions doc, h, catalog_withoutExtensions other]

/-- A document with a schema and a parameter that have a note, and with a parameter that names
    its field. -/
def notedPets (note : String) : Document where
  openapi := some "3.0.3"
  info := { title := some "Pets", version := some "1" }
  paths := some (.ofList [("/pets/\x7bpetId\x7d", { get := some getPet, delete := some {} })])
  components := some { schemas := .ofList [("Pet", .inline pet)] }
where
  pet : Schema :=
    { types := ["object"]
      properties := [("name", .inline
        { types := ["string"], extensions := [("x-note", .string note)] })]
      extensions := [("x-note", .string note)] }
  petId : Parameter :=
    { name := "petId"
      location := "path"
      extensions := .ofList [(idFieldKey, .string "name"), ("x-note", .string note)] }
  getPet : Operation :=
    { parameters := [.inline petId]
      responses := .ofList [("200", .inline
        { content := .ofList [("application/json",
            { schema := some (.ref "#/components/schemas/Pet") })] })] }

/-- Another note makes no difference. -/
theorem extensions_ignored_notedPets :
    (notedPets "tame").check = (notedPets "wild").check ∧
      (notedPets "tame").checkLeniently = (notedPets "wild").checkLeniently ∧
      ∀ filter rootKind,
        (notedPets "tame").catalog filter rootKind = (notedPets "wild").catalog filter rootKind :=
  extensions_ignored rfl

end ApiKinds
