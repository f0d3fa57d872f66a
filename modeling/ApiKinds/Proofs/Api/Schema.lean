/-
  Induction over schemas, and the references inside them.

  * `Schema.induction`: what holds of a schema whenever it holds of the schemas inside it.
  * `mem_referencesOf_iff`: the references collected from a schema are those that occur in
    it.
  * `mem_schemaReferences`: what a reference leads to has only references that stand among
    the component schemas.
-/
import ApiKinds.Catalog.Expansion
import ApiKinds.Proofs.Api.Mention
import ApiKinds.Proofs.Api.Reference
import ApiKinds.Proofs.Dict

namespace ApiKinds

open Api

namespace Api

/-- Changes an object that is written in place. -/
def RefOr.map {α β : Type} (f : α → β) : RefOr α → RefOr β
  | .ref target => .ref target
  | .inline value => .inline (f value)

/-! ## Induction -/

section
variable {schema : Schema} {part : RefOr Schema}

theorem sizeOf_property_lt {name : String} (h : (name, part) ∈ schema.properties) :
    sizeOf part < sizeOf (RefOr.inline schema) := by
  have hmem := List.sizeOf_lt_of_mem h
  obtain ⟨facets, properties, items, allOf⟩ := schema
  simp only [Prod.mk.sizeOf_spec, RefOr.inline.sizeOf_spec, Schema.mk.sizeOf_spec] at hmem ⊢
  omega

theorem sizeOf_items_lt (h : schema.items = some part) :
    sizeOf part < sizeOf (RefOr.inline schema) := by
  obtain ⟨facets, properties, items, allOf⟩ := schema
  subst h
  simp only [Option.some.sizeOf_spec, RefOr.inline.sizeOf_spec, Schema.mk.sizeOf_spec]
  omega

theorem sizeOf_member_lt (h : part ∈ schema.allOf) :
    sizeOf part < sizeOf (RefOr.inline schema) := by
  have hmem := List.sizeOf_lt_of_mem h
  obtain ⟨facets, properties, items, allOf⟩ := schema
  simp only [RefOr.inline.sizeOf_spec, Schema.mk.sizeOf_spec] at hmem ⊢
  omega

end

/-- What holds of references, and of a schema whenever it holds of the schemas inside it,
    holds of all schemas. -/
@[elab_as_elim]
theorem Schema.induction {motive : RefOr Schema → Prop} (ref : ∀ target, motive (.ref target))
    (inline : ∀ schema : Schema, (∀ name part, (name, part) ∈ schema.properties → motive part) →
      (∀ part, schema.items = some part → motive part) →
      (∀ part ∈ schema.allOf, motive part) → motive (.inline schema)) :
    ∀ schema, motive schema
  | .ref target => ref target
  | .inline schema =>
    inline schema (fun _ part _ => Schema.induction ref inline part)
      (fun part _ => Schema.induction ref inline part)
      (fun part _ => Schema.induction ref inline part)
termination_by schema => sizeOf schema
decreasing_by
  · exact sizeOf_property_lt (by assumption)
  · exact sizeOf_items_lt (by assumption)
  · exact sizeOf_member_lt (by assumption)

/-! ## References inside schemas -/

theorem referencesInEntries_eq (entries : List (String × RefOr Schema)) :
    referencesInEntries entries = entries.flatMap fun entry => referencesOf entry.2 := by
  induction entries with
  | nil => rw [referencesInEntries, List.flatMap_nil]
  | cons entry rest ih => rw [referencesInEntries, ih, List.flatMap_cons]

theorem referencesInList_eq (schemas : List (RefOr Schema)) :
    referencesInList schemas = schemas.flatMap referencesOf := by
  induction schemas with
  | nil => rw [referencesInList, List.flatMap_nil]
  | cons schema rest ih => rw [referencesInList, ih, List.flatMap_cons]

theorem references_eq (schema : Schema) : schema.references =
    schema.properties.flatMap (fun property => referencesOf property.2) ++
      schema.items.toList.flatMap referencesOf ++ schema.allOf.flatMap referencesOf := by
  obtain ⟨facets, properties, items, allOf⟩ := schema
  cases items <;> simp [Schema.references, referencesInEntries_eq, referencesInList_eq]

section
variable {reference : String}

theorem mem_references_iff {schema : Schema} : reference ∈ schema.references ↔
    (∃ name part, (name, part) ∈ schema.properties ∧ reference ∈ referencesOf part) ∨
      (∃ part, schema.items = some part ∧ reference ∈ referencesOf part) ∨
        ∃ part ∈ schema.allOf, reference ∈ referencesOf part := by
  simp [references_eq]

/-- The references collected from a schema are those that occur in it. -/
theorem mem_referencesOf_iff (schema : RefOr Schema) :
    reference ∈ referencesOf schema ↔ Schema.Mentions reference schema := by
  induction schema using Schema.induction with
  | ref target =>
    rw [referencesOf, List.mem_singleton]
    constructor
    · rintro rfl
      exact .here
    · rintro ⟨⟩
      rfl
  | inline schema hproperties hitems hmembers =>
    rw [referencesOf, mem_references_iff]
    constructor
    · rintro (⟨name, part, hmem, h⟩ | ⟨part, hpart, h⟩ | ⟨part, hmem, h⟩)
      · exact .property hmem ((hproperties name part hmem).1 h)
      · exact .items hpart ((hitems part hpart).1 h)
      · exact .member hmem ((hmembers part hmem).1 h)
    · intro hmention
      cases hmention with
      | property hmem h => exact .inl ⟨_, _, hmem, (hproperties _ _ hmem).2 h⟩
      | items hpart h => exact .inr (.inl ⟨_, hpart, (hitems _ hpart).2 h⟩)
      | member hmem h => exact .inr (.inr ⟨_, hmem, (hmembers _ hmem).2 h⟩)

/-- The references inside of what a reference leads to stand among the component schemas. -/
theorem mem_schemaReferences {doc : Document} {target : Schema} {inner : String}
    (htarget : doc.schema? (.ref reference) = some target)
    (hinner : Schema.Mentions inner (.inline target)) : inner ∈ doc.schemaReferences := by
  obtain ⟨components, name, hcomponents, hentry⟩ := exists_component_of_resolve? .schemas htarget
  rw [Document.schemaReferences, hcomponents]
  exact List.mem_flatMap.2 ⟨.inline target, Dict.mem_values.2 ⟨name, hentry⟩,
    (mem_referencesOf_iff _).2 hinner⟩

end

end Api

end ApiKinds
