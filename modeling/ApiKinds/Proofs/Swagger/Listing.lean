/-
  Reading descriptions whose type names have been put into lists.

  * `follows_document`: with its type names listed a value is still a description, with the
    type names listed in the values that it keeps as they are written, and the same in all
    else.
  * `ofBytes_of_yaml`: this is what is read of a description in YAML.
  * `same_model_iff`: so it is the same description just if none of these values has a type
    name.
-/
import ApiKinds.Proofs.Swagger.TypeList
import ApiKinds.Proofs.Swagger.Verbatim
import ApiKinds.Source

namespace ApiKinds.Swagger

open Json Api

/-! ## Schemas -/

theorem reference?_listTypes (value : Json) : reference? (listTypes value) = reference? value := by
  cases value with
  | object members =>
    rw [listTypes, reference?, reference?, ofMembers?_listTypesOf]
    cases Record.ofMembers? ["$ref"] members with
    | none => rfl
    | some r =>
      change Record.required ⟨listTypesOf r.fields⟩ "$ref" string? = r.required "$ref" string?
      rw [Record.required, Record.required,
        (listed_listTypesOf r.fields).find? "$ref" (by decide)]
      cases r.find? "$ref" with
      | none => rfl
      | some target => exact string?_listTypes target
  | _ => rfl

theorem otherMembers_listTypesOf (known : List String) (hknown : "type" ∈ known)
    (members : List (String × Json)) : otherMembers known (listTypesOf members) =
      (otherMembers known members).map fun m => (m.1, listTypes m.2) := by
  have hothers : ((listTypesOf members).filter (!known.contains ·.1)).map
        (fun m => (m.1, m.2.canonical)) =
      ((members.filter (!known.contains ·.1)).map fun m => (m.1, m.2.canonical)).map
        fun m => (m.1, listTypes m.2) := by
    rw [listTypesOf_eq, List.filter_map, List.map_map, List.map_map]
    refine List.map_congr_left fun m hm => ?_
    have hother : m.1 ≠ "type" := by
      rintro heq
      have hnot := (List.mem_filter.1 hm).2
      simp [heq, hknown] at hnot
    simp only [Function.comp_apply, listed_of_ne hother, canonical_listTypes]
  rw [otherMembers, otherMembers, hothers, Entries.ofList_map fun _ => listTypes]

theorem tracks_facets (members : List (String × Json)) :
    Tracks (Facets.mapValues listTypes) (Facets.read? members)
      (Facets.read? (listTypesOf members)) := by
  unfold Facets.read?
  refine Tracks.ofMembers _ _ fun r r' hr => ?_
  rw [hr.types]
  refine (Tracks.refl _).bind fun types => ?_
  refine (hr.optional (by decide) follows_string?).bind fun format => ?_
  refine (hr.optional (by decide) follows_string?).bind fun description => ?_
  refine (hr.list (by decide) follows_string?).bind fun required => ?_
  refine (hr.list (by decide) follows_any?).bind fun enum => ?_
  refine (hr.optional (by decide) follows_any?).bind fun default => ?_
  refine (hr.flag (by decide)).bind fun nullable => ?_
  refine (hr.optional (by decide) follows_natural?).bind fun minLength => ?_
  refine (hr.optional (by decide) follows_natural?).bind fun maxLength => ?_
  refine (hr.optional (by decide) follows_double?).bind fun minimum => ?_
  refine (hr.optional (by decide) follows_double?).bind fun maximum => ?_
  refine (hr.optional (by decide) follows_string?).bind fun pattern => ?_
  refine (hr.optional (by decide) follows_natural?).bind fun minItems => ?_
  refine (hr.optional (by decide) follows_natural?).bind fun maxItems => ?_
  refine .some ?_
  simp [Facets.mapValues, otherMembers_listTypesOf Schema.fieldNames (by decide)]

theorem tracks_assemble {facets facets' : Option Facets}
    {properties properties' : Option (List (String × RefOr Schema))}
    {items items' : Option (Option (RefOr Schema))} {allOf allOf' : Option (List (RefOr Schema))}
    (hfacets : Tracks (Facets.mapValues listTypes) facets facets')
    (hproperties : Tracks (mapValuesInEntries listTypes) properties properties')
    (hitems : Tracks (Option.map (mapValuesIn listTypes)) items items')
    (hallOf : Tracks (mapValuesInList listTypes) allOf allOf') :
    Tracks (Schema.mapValues listTypes) (Schema.assemble? facets properties items allOf)
      (Schema.assemble? facets' properties' items' allOf') := by
  unfold Schema.assemble?
  refine hfacets.bind fun facets => ?_
  refine hproperties.bind fun properties => ?_
  refine hitems.bind fun items => ?_
  refine hallOf.bind fun allOf => .some ?_
  rw [mapValuesInEntries_eq, Entries.ofList_map fun _ => mapValuesIn listTypes,
    ← mapValuesInEntries_eq]
  cases items <;> simp [Schema.mapValues]

mutual
theorem follows_readSchemaRef? : ∀ value : Json,
    Tracks (mapValuesIn listTypes) (readSchemaRef? value) (readSchemaRef? (listTypes value))
  | .object members => by
    have hreference := reference?_listTypes (.object members)
    rw [listTypes] at hreference ⊢
    rw [readSchemaRef?, readSchemaRef?, hreference]
    cases reference? (.object members) with
    | some target => exact .some (by rw [mapValuesIn])
    | none =>
      exact (tracks_assemble (tracks_facets members) (tracks_propertiesIn members)
        (tracks_itemsIn members) (tracks_allOfIn members)).map fun schema => by rw [mapValuesIn]
  | .null | .bool _ | .number _ | .string _ | .array _ => by
    rw [readSchemaRef?]
    · rintro _ ⟨⟩
    · rintro _ ⟨⟩

theorem tracks_propertiesIn : ∀ members : List (String × Json),
    Tracks (mapValuesInEntries listTypes) (propertiesIn? members)
      (propertiesIn? (listTypesOf members))
  | [] => .some (by rw [mapValuesInEntries])
  | (key, value) :: rest => by
    rw [listTypesOf, propertiesIn?, propertiesIn?]
    split
    · next hkey =>
      subst hkey
      exact tracks_readProperties value
    · exact tracks_propertiesIn rest

theorem tracks_itemsIn : ∀ members : List (String × Json),
    Tracks (Option.map (mapValuesIn listTypes)) (itemsIn? members)
      (itemsIn? (listTypesOf members))
  | [] => .some rfl
  | (key, value) :: rest => by
    rw [listTypesOf, itemsIn?, itemsIn?]
    split
    · next hkey =>
      subst hkey
      change Tracks _ _ (if (listTypes value).isNull then _ else _)
      rw [isNull_listTypes]
      split
      · exact .some rfl
      · exact (follows_readSchemaRef? value).map fun _ => rfl
    · exact tracks_itemsIn rest

theorem tracks_allOfIn : ∀ members : List (String × Json),
    Tracks (mapValuesInList listTypes) (allOfIn? members) (allOfIn? (listTypesOf members))
  | [] => .some (by rw [mapValuesInList])
  | (key, value) :: rest => by
    rw [listTypesOf, allOfIn?, allOfIn?]
    split
    · next hkey =>
      subst hkey
      exact tracks_readAllOf value
    · exact tracks_allOfIn rest

theorem tracks_readProperties : ∀ value : Json,
    Tracks (mapValuesInEntries listTypes) (readProperties? value)
      (readProperties? (listTypes value))
  | .object members => by
    rw [listTypes, readProperties?, readProperties?]
    exact tracks_readEntries members
  | .null | .bool _ | .number _ | .string _ | .array _ => by
    rw [readProperties?]
    · rintro _ ⟨⟩
    · rintro _ ⟨⟩

theorem tracks_readAllOf : ∀ value : Json,
    Tracks (mapValuesInList listTypes) (readAllOf? value) (readAllOf? (listTypes value))
  | .array items => by
    rw [listTypes, readAllOf?, readAllOf?]
    exact tracks_readList items
  | .null | .bool _ | .number _ | .string _ | .object _ => by
    rw [readAllOf?]
    · rintro _ ⟨⟩
    · rintro _ ⟨⟩

theorem tracks_readEntries : ∀ members : List (String × Json),
    Tracks (mapValuesInEntries listTypes) (readEntries? members)
      (readEntries? (listTypesOf members))
  | [] => .some (by rw [mapValuesInEntries])
  | (key, value) :: rest => by
    rw [listTypesOf, readEntries?, readEntries?]
    cases htype : isTypeName key value with
    | true =>
      obtain ⟨-, name, rfl⟩ := isTypeName_iff.1 htype
      rintro _ ⟨⟩
    | false =>
      simp only [Bool.false_eq_true, if_false]
      refine (follows_readSchemaRef? value).bind fun schema => ?_
      refine (tracks_readEntries rest).bind fun entries => .some ?_
      rw [mapValuesInEntries]

theorem tracks_readList : ∀ items : List Json,
    Tracks (mapValuesInList listTypes) (readList? items) (readList? (listTypesIn items))
  | [] => .some (by rw [mapValuesInList])
  | value :: rest => by
    rw [listTypesIn, readList?, readList?]
    refine (follows_readSchemaRef? value).bind fun schema => ?_
    refine (tracks_readList rest).bind fun schemas => .some ?_
    rw [mapValuesInList]
end

/-! ## The other objects -/

theorem Follows.refOr {α : Type} {f : α → α} {read : Json → Option α} (h : Follows f read) :
    Follows (RefOr.map f) (RefOr.read? read) := by
  intro value
  rw [RefOr.read?, RefOr.read?, reference?_listTypes]
  cases reference? value with
  | some target => exact .some rfl
  | none => exact (h value).map fun _ => rfl

theorem follows_parameter : Follows (Parameter.mapValues listTypes) Parameter.read? := by
  intro value
  cases value with
  | object members =>
    rw [listTypes, Parameter.read?, Parameter.read?]
    refine Tracks.ofMembers _ _ fun r r' hr => ?_
    refine (hr.required (by decide) follows_string?).bind fun name => ?_
    refine (hr.required (by decide) follows_string?).bind fun location => ?_
    refine (hr.optional (by decide) follows_string?).bind fun description => ?_
    refine (hr.flag (by decide)).bind fun required => ?_
    refine (hr.optional (by decide) follows_readSchemaRef?).bind fun schema => ?_
    rw [hr.types]
    refine (Tracks.refl _).bind fun types => ?_
    refine (hr.optional (by decide) follows_string?).bind fun format => ?_
    refine (hr.optional (by decide) follows_readSchemaRef?).bind fun items => ?_
    refine (hr.list (by decide) follows_any?).bind fun enum => ?_
    refine (hr.optional (by decide) follows_any?).bind fun default => ?_
    refine (hr.optional (by decide) follows_double?).bind fun minimum => ?_
    refine (hr.optional (by decide) follows_double?).bind fun maximum => ?_
    refine (hr.optional (by decide) follows_natural?).bind fun minLength => ?_
    refine (hr.optional (by decide) follows_natural?).bind fun maxLength => ?_
    refine (hr.optional (by decide) follows_string?).bind fun pattern => ?_
    refine (hr.optional (by decide) follows_natural?).bind fun minItems => ?_
    refine (hr.optional (by decide) follows_natural?).bind fun maxItems => ?_
    refine .some ?_
    rw [otherMembers_listTypesOf Parameter.fieldNames (by decide),
      Dict.ofList_map fun _ => listTypes]
    simp [Parameter.mapValues]
  | _ => rintro _ ⟨⟩

theorem follows_response : Follows (Response.mapValues listTypes) Response.read? := by
  intro value
  rw [Response.read?, Response.read?]
  refine Tracks.record _ _ fun r r' hr => ?_
  refine (hr.optional (by decide) follows_string?).bind fun description => ?_
  refine (hr.optional (by decide) follows_readSchemaRef?).bind fun schema => ?_
  refine .some ?_
  simp [Response.mapValues]

theorem follows_operation : Follows (Operation.mapValues listTypes) Operation.read? := by
  intro value
  rw [Operation.read?, Operation.read?]
  refine Tracks.record _ _ fun r r' hr => ?_
  refine (hr.optional (by decide) follows_string?).bind fun operationId => ?_
  refine (hr.optional (by decide) follows_string?).bind fun summary => ?_
  refine (hr.optional (by decide) follows_string?).bind fun description => ?_
  refine (hr.list (by decide) follows_string?).bind fun tags => ?_
  refine (hr.optional (by decide) follows_string?.listOf).bind fun consumes => ?_
  refine (hr.optional (by decide) follows_string?.listOf).bind fun produces => ?_
  refine (hr.list (by decide) follows_parameter.refOr).bind fun parameters => ?_
  refine (hr.dict (by decide) follows_response.refOr fun _ => rfl).bind fun responses => ?_
  refine .some ?_
  simp [Operation.mapValues]

theorem follows_pathItem : Follows (PathItem.mapValues listTypes) PathItem.read? := by
  intro value
  rw [PathItem.read?, PathItem.read?]
  refine Tracks.record _ _ fun r r' hr => ?_
  refine (hr.optional (by decide) follows_operation).bind fun get => ?_
  refine (hr.optional (by decide) follows_operation).bind fun put => ?_
  refine (hr.optional (by decide) follows_operation).bind fun post => ?_
  refine (hr.optional (by decide) follows_operation).bind fun delete => ?_
  refine (hr.optional (by decide) follows_operation).bind fun patch => ?_
  refine (hr.optional (by decide) follows_operation).bind fun head => ?_
  refine (hr.optional (by decide) follows_operation).bind fun options => ?_
  refine (hr.list (by decide) follows_parameter.refOr).bind fun parameters => ?_
  exact .some rfl

theorem follows_info : Follows id Info.read? := by
  intro value
  rw [Info.read?, Info.read?]
  refine Tracks.record _ _ fun r r' hr => ?_
  refine (hr.optional (by decide) follows_string?).bind fun title => ?_
  refine (hr.optional (by decide) follows_versionText?).bind fun version => ?_
  refine (hr.optional (by decide) follows_string?).bind fun description => ?_
  refine .some ?_
  simp

theorem follows_document : Follows (Document.mapValues listTypes) Document.read? := by
  intro value
  rw [Document.read?, Document.read?]
  refine Tracks.record _ _ fun r r' hr => ?_
  refine (hr.optional (by decide) follows_versionText?).bind fun swagger => ?_
  refine (hr.withDefault (by decide) follows_info rfl).bind fun info => ?_
  refine (hr.optional (by decide) follows_string?).bind fun host => ?_
  refine (hr.optional (by decide) follows_string?).bind fun basePath => ?_
  refine (hr.list (by decide) follows_string?).bind fun schemes => ?_
  refine (hr.list (by decide) follows_string?).bind fun consumes => ?_
  refine (hr.list (by decide) follows_string?).bind fun produces => ?_
  refine (hr.optional (by decide) (follows_pathItem.dictOf fun _ => rfl)).bind fun paths => ?_
  refine (hr.dict (by decide) follows_readSchemaRef? fun _ => rfl).bind fun definitions => ?_
  refine (hr.dict (by decide) follows_parameter fun _ => rfl).bind fun parameters => ?_
  refine (hr.dict (by decide) follows_response fun _ => rfl).bind fun responses => ?_
  refine .some ?_
  simp [Document.mapValues]

/-- A description in YAML is the one that its JSON has, with the type names listed in the
    values that are kept as they are written. -/
theorem ofBytes_of_yaml {bytes : List UInt8} {value : Json} {doc : Document}
    (hjson : Document.readJson? bytes = none) (hyaml : jsonOfYaml bytes = .ok value)
    (h : Document.read? value = some doc) :
    Document.ofBytes bytes = .ok (doc.mapValues listTypes) := by
  rw [Document.ofBytes, hjson, hyaml]
  change orFail .swagger (Document.read? (listTypes value)) = _
  rw [follows_document value doc h, orFail]

/-! ## The same description -/

/-- **With its type names listed a value is still a description**, with the type names listed
    in the values that are kept as they are written; so it is the same description just if
    none of these has a type name. -/
theorem same_model_iff {value : Json} {doc : Document} (h : Document.read? value = some doc) :
    Document.read? (listTypes value) = some (doc.mapValues listTypes) ∧
      (Document.read? (listTypes value) = some doc ↔ ∀ kept ∈ doc.kept, ¬ NamesType kept) := by
  have hread := follows_document value doc h
  refine ⟨hread, ?_⟩
  rw [hread, Option.some.injEq, fixes_document listTypes doc]
  exact forall₂_congr fun kept _ => listTypes_eq_self_iff kept

/-- Pets with a default value, as they are written. -/
def pets (default : Json) : Json :=
  .object [
    ("swagger", .string "2.0"),
    ("definitions", .object [
      ("Pet", .object [("type", .string "object"), ("default", default)])])]

/-- Pets with a default value, as they are read. -/
def petsModel (default : Json) : Document where
  swagger := some "2.0"
  definitions := .ofList [("Pet", .inline { types := ["object"], default := some default })]

/-- A default without a type name stays. -/
theorem same_model_of_namedPet :
    Document.read? (pets (.object [("name", .string "Tom")])) =
        some (petsModel (.object [("name", .string "Tom")])) ∧
      Document.read? (listTypes (pets (.object [("name", .string "Tom")]))) =
        some (petsModel (.object [("name", .string "Tom")])) := by
  have hread : Document.read? (pets (.object [("name", .string "Tom")])) =
      some (petsModel (.object [("name", .string "Tom")])) := rfl
  refine ⟨hread, (same_model_iff hread).2.2 fun kept hkept => ?_⟩
  obtain rfl : kept = .object [("name", .string "Tom")] := List.mem_singleton.1 hkept
  rw [← listTypes_eq_self_iff]
  rfl

/-- A default with a text under `type` is changed. -/
theorem other_model_of_typedPet :
    Document.read? (pets (.object [("type", .string "cat")])) =
        some (petsModel (.object [("type", .string "cat")])) ∧
      Document.read? (listTypes (pets (.object [("type", .string "cat")]))) =
        some (petsModel (.object [("type", .array [.string "cat"])])) ∧
      petsModel (.object [("type", .string "cat")]) ≠
        petsModel (.object [("type", .array [.string "cat"])]) := by
  refine ⟨rfl, rfl, fun heq => ?_⟩
  have hkept : [Json.object [("type", .string "cat")]] =
      [Json.object [("type", .array [.string "cat"])]] := congrArg Document.kept heq
  simp at hkept

end ApiKinds.Swagger
