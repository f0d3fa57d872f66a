/-
  The values that a Swagger description keeps as they are written: defaults, members of
  enumerations and extensions, in schemas and parameters.

  * `Document.kept`: these values; `Document.mapValues`: the description with other values in
    their places.
  * `Fixes`: an object stays the same just if each value does that it keeps; lists, maps and
    references in place of objects pass this on.
  * `fixes_document`: so it is for whole descriptions.
-/
import ApiKinds.Proofs.Api.Schema
import ApiKinds.Swagger.Document

namespace ApiKinds

open Api

/-! ## Schemas -/

namespace Api

/-- The facets with other values where values are kept as they are written. -/
def Facets.mapValues (f : Json → Json) (facets : Facets) : Facets :=
  { facets with
    enum := facets.enum.map f
    default := facets.default.map f
    extensions := facets.extensions.map fun m => (m.1, f m.2) }

/-- The values that facets keep as they are written. -/
def Facets.kept (facets : Facets) : List Json :=
  facets.enum ++ facets.default.toList ++ facets.extensions.map (·.2)

section
variable (f : Json → Json)

mutual
def Schema.mapValues : Schema → Schema
  | ⟨facets, properties, items, allOf⟩ =>
    { toFacets := facets.mapValues f
      properties := mapValuesInEntries properties
      items := match items with
        | none => none
        | some schema => some (mapValuesIn schema)
      allOf := mapValuesInList allOf }

def mapValuesIn : RefOr Schema → RefOr Schema
  | .ref target => .ref target
  | .inline schema => .inline schema.mapValues

def mapValuesInEntries : List (String × RefOr Schema) → List (String × RefOr Schema)
  | [] => []
  | (key, schema) :: rest => (key, mapValuesIn schema) :: mapValuesInEntries rest

def mapValuesInList : List (RefOr Schema) → List (RefOr Schema)
  | [] => []
  | schema :: rest => mapValuesIn schema :: mapValuesInList rest
end

theorem mapValuesInEntries_eq (entries : List (String × RefOr Schema)) :
    mapValuesInEntries f entries = entries.map fun p => (p.1, mapValuesIn f p.2) := by
  induction entries with
  | nil => rw [mapValuesInEntries, List.map_nil]
  | cons entry rest ih => rw [mapValuesInEntries, ih, List.map_cons]

theorem mapValuesInList_eq (schemas : List (RefOr Schema)) :
    mapValuesInList f schemas = schemas.map (mapValuesIn f) := by
  induction schemas with
  | nil => rw [mapValuesInList, List.map_nil]
  | cons schema rest ih => rw [mapValuesInList, ih, List.map_cons]

theorem mapValues_eq (schema : Schema) : schema.mapValues f =
    { toFacets := schema.toFacets.mapValues f
      properties := schema.properties.map fun p => (p.1, mapValuesIn f p.2)
      items := schema.items.map (mapValuesIn f)
      allOf := schema.allOf.map (mapValuesIn f) } := by
  obtain ⟨facets, properties, items, allOf⟩ := schema
  cases items <;> simp [Schema.mapValues, mapValuesInEntries_eq, mapValuesInList_eq]

end

mutual
def Schema.kept : Schema → List Json
  | ⟨facets, properties, items, allOf⟩ =>
    facets.kept ++ keptInEntries properties ++
      (match items with
        | none => []
        | some schema => keptIn schema) ++
      keptInList allOf

/-- The values that the schemas in place of a schema keep as they are written. -/
def keptIn : RefOr Schema → List Json
  | .ref _ => []
  | .inline schema => schema.kept

def keptInEntries : List (String × RefOr Schema) → List Json
  | [] => []
  | (_, schema) :: rest => keptIn schema ++ keptInEntries rest

def keptInList : List (RefOr Schema) → List Json
  | [] => []
  | schema :: rest => keptIn schema ++ keptInList rest
end

theorem keptInEntries_eq (entries : List (String × RefOr Schema)) :
    keptInEntries entries = entries.flatMap fun p => keptIn p.2 := by
  induction entries with
  | nil => rw [keptInEntries, List.flatMap_nil]
  | cons entry rest ih => rw [keptInEntries, ih, List.flatMap_cons]

theorem keptInList_eq (schemas : List (RefOr Schema)) :
    keptInList schemas = schemas.flatMap keptIn := by
  induction schemas with
  | nil => rw [keptInList, List.flatMap_nil]
  | cons schema rest ih => rw [keptInList, ih, List.flatMap_cons]

theorem kept_eq (schema : Schema) : schema.kept =
    schema.toFacets.kept ++ schema.properties.flatMap (fun p => keptIn p.2) ++
      schema.items.toList.flatMap keptIn ++ schema.allOf.flatMap keptIn := by
  obtain ⟨facets, properties, items, allOf⟩ := schema
  cases items <;> simp [Schema.kept, keptInEntries_eq, keptInList_eq]

end Api

/-! ## Descriptions -/

namespace Swagger

section
variable (f : Json → Json)

def Parameter.mapValues (parameter : Parameter) : Parameter :=
  { parameter with
    schema := parameter.schema.map (mapValuesIn f)
    items := parameter.items.map (mapValuesIn f)
    enum := parameter.enum.map f
    default := parameter.default.map f
    extensions := parameter.extensions.map fun _ => f }

def Response.mapValues (response : Response) : Response :=
  { response with schema := response.schema.map (mapValuesIn f) }

def Operation.mapValues (operation : Operation) : Operation :=
  { operation with
    parameters := operation.parameters.map (.map (Parameter.mapValues f))
    responses := operation.responses.map fun _ => .map (Response.mapValues f) }

def PathItem.mapValues (item : PathItem) : PathItem where
  get := item.get.map (Operation.mapValues f)
  put := item.put.map (Operation.mapValues f)
  post := item.post.map (Operation.mapValues f)
  delete := item.delete.map (Operation.mapValues f)
  patch := item.patch.map (Operation.mapValues f)
  head := item.head.map (Operation.mapValues f)
  options := item.options.map (Operation.mapValues f)
  parameters := item.parameters.map (.map (Parameter.mapValues f))

/-- The description with other values where values are kept as they are written. -/
def Document.mapValues (doc : Document) : Document :=
  { doc with
    paths := doc.paths.map (.map fun _ => PathItem.mapValues f)
    definitions := doc.definitions.map fun _ => mapValuesIn f
    parameters := doc.parameters.map fun _ => Parameter.mapValues f
    responses := doc.responses.map fun _ => Response.mapValues f }

end

def Parameter.kept (parameter : Parameter) : List Json :=
  parameter.schema.toList.flatMap keptIn ++ parameter.items.toList.flatMap keptIn ++
    parameter.enum ++ parameter.default.toList ++ parameter.extensions.values

def Response.kept (response : Response) : List Json :=
  response.schema.toList.flatMap keptIn

def Operation.kept (operation : Operation) : List Json :=
  operation.parameters.flatMap (·.inline?.toList.flatMap Parameter.kept) ++
    operation.responses.values.flatMap (·.inline?.toList.flatMap Response.kept)

def PathItem.kept (item : PathItem) : List Json :=
  item.operations.flatMap Operation.kept ++
    item.parameters.flatMap (·.inline?.toList.flatMap Parameter.kept)

/-- The values that a description keeps as they are written. -/
def Document.kept (doc : Document) : List Json :=
  doc.paths.toList.flatMap (·.values.flatMap PathItem.kept) ++
    doc.definitions.values.flatMap keptIn ++ doc.parameters.values.flatMap Parameter.kept ++
      doc.responses.values.flatMap Response.kept

end Swagger

/-! ## What stays the same -/

section
variable {α : Type} (f : α → α)

theorem optionMap_eq_self_iff (x : Option α) : x.map f = x ↔ ∀ a ∈ x.toList, f a = a := by
  cases x <;> simp

/-- A change leaves an object the same just if `f` leaves the values that it keeps. -/
def Fixes (f : Json → Json) (change : α → α) (kept : α → List Json) : Prop :=
  ∀ a, change a = a ↔ ∀ value ∈ kept a, f value = value

end

section
variable {α : Type} {f : Json → Json} {change : α → α} {kept : α → List Json}
  (h : Fixes f change kept)
include h

theorem Fixes.list : Fixes f (List.map change) (·.flatMap kept) := by
  intro items
  rw [map_eq_self_iff, List.forall_mem_flatMap]
  exact forall₂_congr fun a _ => h a

theorem Fixes.entries :
    Fixes f (List.map fun p : String × α => (p.1, change p.2)) (·.flatMap fun p => kept p.2) := by
  intro entries
  rw [map_snd_eq_self_iff, List.forall_mem_flatMap]
  exact forall₂_congr fun p _ => h p.2

theorem Fixes.option : Fixes f (Option.map change) (·.toList.flatMap kept) := by
  intro x
  cases x with
  | none => simp
  | some a => simp [h a]

theorem Fixes.dict : Fixes f (Dict.map fun _ => change) (·.values.flatMap kept) := by
  intro d
  simp only [Dict.values, List.flatMap_map, ← h.entries d.entries]
  exact ⟨fun heq => congrArg Dict.entries heq, fun heq => Dict.ext heq⟩

theorem Fixes.refOr : Fixes f (RefOr.map change) (·.inline?.toList.flatMap kept) := by
  intro object
  cases object with
  | ref target => simp [RefOr.map, RefOr.inline?]
  | inline a => simp [RefOr.map, RefOr.inline?, h a]

end

section
variable (f : Json → Json)

theorem fixes_value : Fixes f f fun value => [value] := by
  intro value
  simp

theorem fixes_facets : Fixes f (Facets.mapValues f) Facets.kept := by
  intro facets
  have henum := map_eq_self_iff f facets.enum
  have hdefault := optionMap_eq_self_iff f facets.default
  have hextensions := map_snd_eq_self_iff f facets.extensions
  obtain ⟨types, format, description, required, enum, default, nullable, minLength, maxLength,
    minimum, maximum, pattern, minItems, maxItems, extensions⟩ := facets
  simp only [Facets.kept, List.forall_mem_append, List.forall_mem_map,
    ← henum, ← hdefault, ← hextensions]
  simp [Facets.mapValues, and_assoc]

/-- A schema stays the same just if each value does that it or a schema inside it keeps. -/
theorem fixes_schema : Fixes f (mapValuesIn f) keptIn := by
  intro schema
  induction schema using Schema.induction with
  | ref target => simp [mapValuesIn, keptIn]
  | inline schema hproperties hitems hmembers =>
    have hfacets := fixes_facets f schema.toFacets
    have hproperties : schema.properties.map (fun p => (p.1, mapValuesIn f p.2)) =
          schema.properties ↔
        ∀ value ∈ schema.properties.flatMap fun p => keptIn p.2, f value = value := by
      rw [map_snd_eq_self_iff, List.forall_mem_flatMap]
      exact forall₂_congr fun p hp => hproperties p.1 p.2 hp
    have hitems : schema.items.map (mapValuesIn f) = schema.items ↔
        ∀ value ∈ schema.items.toList.flatMap keptIn, f value = value := by
      rw [optionMap_eq_self_iff, List.forall_mem_flatMap]
      exact forall₂_congr fun part hpart => hitems part (Option.mem_toList.1 hpart)
    have hmembers : schema.allOf.map (mapValuesIn f) = schema.allOf ↔
        ∀ value ∈ schema.allOf.flatMap keptIn, f value = value := by
      rw [map_eq_self_iff, List.forall_mem_flatMap]
      exact forall₂_congr hmembers
    rw [mapValuesIn, keptIn, mapValues_eq, kept_eq]
    simp only [List.forall_mem_append, ← hfacets, ← hproperties, ← hitems, ← hmembers]
    obtain ⟨⟩ := schema
    simp [and_assoc]

namespace Swagger

theorem fixes_parameter : Fixes f (Parameter.mapValues f) Parameter.kept := by
  intro parameter
  have hschema := (fixes_schema f).option parameter.schema
  have hitems := (fixes_schema f).option parameter.items
  have henum := (fixes_value f).list parameter.enum
  have hextensions := (fixes_value f).dict parameter.extensions
  simp only [List.flatMap_singleton'] at henum hextensions
  have hdefault := optionMap_eq_self_iff f parameter.default
  simp only [Parameter.kept, List.forall_mem_append, ← hschema, ← hitems,
    ← henum, ← hdefault, ← hextensions]
  obtain ⟨⟩ := parameter
  simp [Parameter.mapValues, and_assoc]

theorem fixes_response : Fixes f (Response.mapValues f) Response.kept := by
  intro response
  rw [Response.kept, ← (fixes_schema f).option response.schema]
  obtain ⟨⟩ := response
  simp [Response.mapValues]

theorem fixes_operation : Fixes f (Operation.mapValues f) Operation.kept := by
  intro operation
  simp only [Operation.kept, List.forall_mem_append,
    ← (fixes_parameter f).refOr.list operation.parameters,
    ← (fixes_response f).refOr.dict operation.responses]
  obtain ⟨⟩ := operation
  simp [Operation.mapValues]

theorem fixes_pathItem : Fixes f (PathItem.mapValues f) PathItem.kept := by
  intro item
  have hkept : item.operations.flatMap Operation.kept =
      [item.get, item.put, item.post, item.delete, item.patch, item.head, item.options].flatMap
        (·.toList.flatMap Operation.kept) := by
    rw [PathItem.operations, List.filterMap_eq_flatMap_toList, List.flatMap_assoc]
    rfl
  simp only [PathItem.kept, hkept, List.forall_mem_append,
    ← (fixes_operation f).option.list
      [item.get, item.put, item.post, item.delete, item.patch, item.head, item.options],
    ← (fixes_parameter f).refOr.list item.parameters]
  obtain ⟨⟩ := item
  simp [PathItem.mapValues, and_assoc]

theorem fixes_document : Fixes f (Document.mapValues f) Document.kept := by
  intro doc
  simp only [Document.kept, List.forall_mem_append,
    ← (fixes_pathItem f).dict.option doc.paths, ← (fixes_schema f).dict doc.definitions,
    ← (fixes_parameter f).dict doc.parameters, ← (fixes_response f).dict doc.responses]
  obtain ⟨⟩ := doc
  simp [Document.mapValues, and_assoc]

end Swagger

end

end ApiKinds
