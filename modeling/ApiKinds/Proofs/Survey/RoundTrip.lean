/-
  Catalogs and reports of descriptions are read back as they were written.

  * `Expansion.storable`: in a description that can be stored, a run of the expansion on a schema
    that can be stored ends with such a shape.
  * `storable_of_load`: every description that is loaded can be stored.
  * `catalog_read_back`: so its catalog and its report are read back.
-/
import ApiKinds.Proofs.Catalog.RoundTrip
import ApiKinds.Proofs.Expansion.Run
import ApiKinds.Proofs.Json.Source
import ApiKinds.Proofs.Source
import ApiKinds.Proofs.Swagger.RoundTrip

namespace ApiKinds

open Api

/-! ## Shapes of schemas -/

section
variable {unique : Prop} {doc : Document} {schema : RefOr Schema}

/-- No default of a schema is `null`, so none is among those of its shape. -/
theorem storable_trait {schema : Schema} (h : schema.toFacets.Storable) (name : String) :
    (schema.trait name).Storable where
  enum := List.forall_mem_map.2 fun value hvalue =>
    Literal.storable_ofJson (h.enum value hvalue).regular
  default := by
    intro literal hliteral
    obtain ⟨value, hvalue, rfl⟩ := Option.map_eq_some_iff.1 hliteral
    obtain ⟨hkept, hnull⟩ := h.default value hvalue
    exact ⟨Literal.storable_ofJson hkept.regular, (Literal.isNull_ofJson value).trans hnull⟩
  minLength := h.minLength
  maxLength := h.maxLength
  minimum := h.minimum
  maximum := h.maximum
  minItems := h.minItems
  maxItems := h.maxItems

namespace Shape

theorem storable_stub (name component : String) (target : Schema) :
    (stub name component target).Storable := by
  refine .mk ⟨?_, ?_, ?_, ?_, ?_, ?_, ?_, ?_⟩ .nil ?_ ?_ <;> rintro _ ⟨⟩

theorem Storable.under {shape : Shape} (h : shape.Storable) (wrapper : Facets) :
    (shape.under wrapper).Storable := by
  obtain ⟨htrait, hsorted, hproperties, hitems⟩ := h
  exact .mk { htrait with } hsorted hproperties hitems

theorem Storable.named {shape : Shape} (h : shape.Storable) (component : Option String) :
    Storable { shape with component := component } := by
  obtain ⟨htrait, hsorted, hproperties, hitems⟩ := h
  exact .mk { htrait with } hsorted hproperties hitems

theorem storable_linked (doc : Document) (name reference : String) (property : RefOr Schema) :
    (linked doc name reference property).Storable := by
  have hplain : Storable { name := name, component := some (lastSegment reference) } := by
    refine .mk ⟨?_, ?_, ?_, ?_, ?_, ?_, ?_, ?_⟩ .nil ?_ ?_ <;> rintro _ ⟨⟩
  unfold linked
  cases doc.schema? (.ref reference) with
  | none =>
    cases property with
    | ref => exact hplain
    | inline wrapper => exact hplain.under wrapper.toFacets
  | some target =>
    cases property with
    | ref => exact storable_stub name _ target
    | inline wrapper => exact (storable_stub name _ target).under wrapper.toFacets

end Shape

/-- A run on a schema that can be stored ends with a shape that can be stored. -/
theorem Expansion.storable (hdoc : doc.Storable unique) {inside : List String} {name : String}
    {result : Option Shape} (run : Expansion doc inside name schema result)
    (h : Schema.Storable unique schema) : ∀ shape, result = some shape → shape.Storable := by
  induction run with
  | dangling => rintro _ ⟨⟩
  | cut =>
    rintro _ ⟨⟩
    exact Shape.storable_stub _ _ _
  | entered htarget _ _ ih =>
    rintro _ ⟨⟩
    have htarget := hdoc.stands (Document.stands_of_schema? htarget)
    exact (ih htarget _ rfl).named _
  | wrapped hwrapped _ ih =>
    rintro _ ⟨⟩
    obtain _ | ⟨-, -, -, -, -, hmembers⟩ := h
    exact (ih (hmembers _ (mem_allOf_of_wrapped? hwrapped)) _ rfl).under _
  | @plain _ _ schema node items _ hlinked _ hnone _ _ ihproperty ihitems =>
    rintro _ ⟨⟩
    obtain _ | ⟨hfacets, -, hsorted, hproperties, hpart, -⟩ := h
    refine .mk (storable_trait hfacets _)
      (Entries.sorted_map (fun name part => node (name, part)) hsorted) ?_ ?_
    · refine List.forall_mem_map.2 fun property hproperty => ?_
      cases hlink : linkOf? property.2 with
      | some reference =>
        rw [hlinked property hproperty reference hlink]
        exact Shape.storable_linked _ _ _ _
      | none =>
        exact ihproperty property hproperty hlink (hproperties property hproperty) _ rfl
    · intro part hitems
      cases hschema : schema.items with
      | none => cases (hnone hschema).symm.trans hitems
      | some inner => exact ihitems inner hschema (hpart inner hschema) part hitems

/-- The shapes of a description that can be stored can be stored. -/
theorem Api.Document.Storable.shapes (h : doc.Storable unique) {shape : Shape}
    (hshape : doc.Shapes shape) : shape.Storable := by
  obtain ⟨name, schema, hstands, hshape⟩ := hshape
  exact (expansion_iff.2 hshape).storable h (h.stands hstands) shape rfl

end

/-! ## Descriptions that are loaded -/

section
variable {bytes : List UInt8}

theorem orFail_eq_ok_iff {α : Type} {failure : Failure} {o : Option α} {a : α} :
    orFail failure o = .ok a ↔ o = some a := by
  cases o <;> simp [orFail]

theorem storable_of_ofBytes {doc : Document} (h : Document.ofBytes bytes = .ok doc) :
    doc.Storable False := by
  rw [Document.ofBytes] at h
  split at h
  · next hread =>
    cases h
    obtain ⟨value, hvalue, hdoc⟩ := Option.bind_eq_some_iff.1 hread
    exact yields_document value (Json.regular_of_readWith? _ hvalue) doc hdoc
  · obtain ⟨value, hvalue, hdoc⟩ := bind_eq_ok_iff.1 h
    exact yields_document value (regular_of_jsonOfYaml hvalue) doc (orFail_eq_ok_iff.1 hdoc)

theorem Swagger.storable_of_ofBytes {doc : Swagger.Document}
    (h : Swagger.Document.ofBytes bytes = .ok doc) : doc.Storable False := by
  rw [Swagger.Document.ofBytes] at h
  split at h
  · next hread =>
    cases h
    obtain ⟨value, hvalue, hdoc⟩ := Option.bind_eq_some_iff.1 hread
    exact yields_document value (Json.regular_of_readWith? _ hvalue) doc hdoc
  · obtain ⟨value, hvalue, hdoc⟩ := bind_eq_ok_iff.1 h
    exact yields_document _ (regular_listTypes (regular_of_jsonOfYaml hvalue)) doc
      (orFail_eq_ok_iff.1 hdoc)

/-- What is loaded can be stored, be it as it is read or upgraded. -/
theorem storable_of_load {doc : Document} (h : Document.load bytes = .ok doc) :
    doc.Storable False := by
  by_cases hmarked : Marked bytes
  · obtain ⟨⟨source, hsource, hupgrade⟩, -⟩ := (load_eq_ok_iff_of_marked hmarked).1 h
    exact Swagger.storable_upgrade (Swagger.storable_of_ofBytes hsource) hupgrade
  · exact storable_of_ofBytes ((load_eq_ok_iff_of_not_marked hmarked).1 h).1

end

/-- **The catalog and the report of every description that is loaded are read back as they were
    written**, whatever the filter and the root Kind. -/
theorem catalog_read_back {bytes : List UInt8} {doc : Document}
    (hload : Document.load bytes = .ok doc) (filter : Option PathFilter)
    (rootKind : Option String) :
    Catalog.read? (doc.catalog filter rootKind).1.toJson = some (doc.catalog filter rootKind).1 ∧
      Report.read? (doc.catalog filter rootKind).2.toJson =
        some (doc.catalog filter rootKind).2 := by
  refine ⟨Catalog.read?_toJson fun shape hdisplays => ?_, Report.read?_toJson _⟩
  exact (storable_of_load hload).shapes (shapes_of_displays hdisplays)

/-- A description whose schema refers to itself and has members of all sorts: the integer one and
    the double one, an integer beyond 64 bits with a sign, `null`, and a list in a map. -/
def nestedPets : List UInt8 :=
  ("\x7b\"openapi\":\"3.0.0\",\"info\":\x7b\"title\":\"t\",\"version\":\"1\"\x7d," ++
    "\"paths\":\x7b\"/pets\":\x7b\"get\":\x7b\x7d\x7d\x7d,\"components\":\x7b\"schemas\":\x7b" ++
    "\"Pet\":\x7b\"properties\":\x7b\"parent\":\x7b\"$ref\":\"#/components/schemas/Pet\"\x7d\x7d," ++
    "\"enum\":[1,1.0,18446744073709551615,null,\x7b\"tags\":[null,\"a\"]\x7d]," ++
    "\"default\":null\x7d\x7d\x7d\x7d").toUTF8.toList

/-- Its catalog has the schema with all of them, but for the default, and is read back. -/
theorem catalog_read_back_nestedPets : ∃ doc, Document.load nestedPets = .ok doc ∧
    ((doc.catalog none none).1.schemas.get? "Pet").any
      (fun pet => pet.enum.length = 5 ∧ pet.default.isNone) ∧
      Catalog.read? (doc.catalog none none).1.toJson = some (doc.catalog none none).1 ∧
        Report.read? (doc.catalog none none).2.toJson = some (doc.catalog none none).2 := by
  have hload : ((Document.load nestedPets).toOption.map (·.catalog none none)).any
      fun catalog => (catalog.1.schemas.get? "Pet").any
        fun pet => pet.enum.length = 5 ∧ pet.default.isNone := by
    decide +kernel
  cases hdoc : Document.load nestedPets with
  | error failure =>
    rw [hdoc] at hload
    cases hload
  | ok doc =>
    rw [hdoc] at hload
    exact ⟨doc, rfl, hload, catalog_read_back hdoc none none⟩

end ApiKinds
