/-
  Runs of the expansion of schemas, said without a bound on their depth.

  * `Expansion`: the expansion of a schema, inside the components being expanded, comes to
    an end with a result. A derivation is a run, with a step for each schema and each
    reference that it passes.
  * `Document.pending`: the names that the component schemas refer to and that no component
    being expanded has. Each component that is entered takes one of them away, so their
    number bounds the depth.
  * `expansion_iff`: every expansion comes to an end, and with the shape of the schema.
-/
import ApiKinds.Proofs.Api.Schema
import Mathlib.Data.Finset.Card

namespace ApiKinds

open Api

/-! ## Runs -/

/-- The expansion of a schema under a name, inside the components being expanded, comes to
    an end with a result. -/
inductive Expansion (doc : Document) : List String → String → RefOr Schema → Option Shape → Prop
  /-- A reference that leads to nothing has no shape. -/
  | dangling {inside name reference} : doc.schema? (.ref reference) = none →
      Expansion doc inside name (.ref reference) none
  /-- A component that is being expanded is not entered again. -/
  | cut {inside name reference target} : doc.schema? (.ref reference) = some target →
      lastSegment reference ∈ inside →
      Expansion doc inside name (.ref reference)
        (some (stub name (lastSegment reference) target))
  /-- Any other component is entered, and its shape carries its name. -/
  | entered {inside name reference target shape} : doc.schema? (.ref reference) = some target →
      lastSegment reference ∉ inside →
      Expansion doc (lastSegment reference :: inside) name (.inline target) (some shape) →
      Expansion doc inside name (.ref reference)
        (some { shape with component := some (lastSegment reference) })
  /-- A schema that wraps a member with a shape has that shape. -/
  | wrapped {inside name schema member shape} : schema.wrapped? = some member →
      Expansion doc inside name member (some shape) →
      Expansion doc inside name (.inline schema) (some (shape.under schema.toFacets))
  /-- Any other schema has the shapes of its properties and items. -/
  | plain {inside name schema} (node : String × RefOr Schema → Shape) (items : Option Shape) :
      (∀ member, schema.wrapped? = some member → Expansion doc inside name member none) →
      (∀ property ∈ schema.properties, ∀ reference, linkOf? property.2 = some reference →
        node property = linked doc property.1 reference property.2) →
      (∀ property ∈ schema.properties, linkOf? property.2 = none →
        Expansion doc inside property.1 property.2 (some (node property))) →
      (schema.items = none → items = none) →
      (∀ part, schema.items = some part → Expansion doc inside "Items" part items) →
      Expansion doc inside name (.inline schema)
        (some ⟨schema.trait name, schema.properties.map fun property =>
          (property.1, node property), items⟩)

/-! ## Shapes of schemas by their parts -/

/-- What wraps a member has only that one, and neither types nor properties. -/
theorem wrapped?_eq_some_iff {schema : Schema} {member : RefOr Schema} :
    schema.wrapped? = some member ↔
      schema.allOf = [member] ∧ schema.types = [] ∧ schema.properties = [] := by
  unfold Schema.wrapped?
  split
  · next only hallOf =>
    rw [hallOf]
    by_cases hplain : schema.types = [] ∧ schema.properties = []
    · simp [hplain]
    · simp [hplain]
  · next hallOf =>
    constructor
    · rintro ⟨⟩
    · rintro ⟨heq, -⟩
      exact absurd heq (hallOf member)

theorem mem_allOf_of_wrapped? {schema : Schema} {member : RefOr Schema}
    (h : schema.wrapped? = some member) : member ∈ schema.allOf := by
  rw [(wrapped?_eq_some_iff.1 h).1]
  exact List.mem_singleton_self member

section
variable (doc : Document) (enter : String → String → Option Shape)

/-- The node of a property. -/
def propertyShape (property : String × RefOr Schema) : Shape :=
  match linkOf? property.2 with
  | some reference => linked doc property.1 reference property.2
  | none => (shapeOfRef doc enter property.1 property.2).getD default

theorem propertyShape_linked {property : String × RefOr Schema} {reference : String}
    (h : linkOf? property.2 = some reference) :
    propertyShape doc enter property = linked doc property.1 reference property.2 := by
  rw [propertyShape, h]

/-- A property that stands for no reference is written in place, and so has a shape. -/
theorem shapeOfRef_property {property : String × RefOr Schema} (h : linkOf? property.2 = none) :
    shapeOfRef doc enter property.1 property.2 = some (propertyShape doc enter property) := by
  obtain ⟨name, property⟩ := property
  cases property with
  | ref reference => cases h
  | inline schema => simp only [propertyShape, h, shapeOfRef, Option.getD_some]

theorem shapesOf_eq (properties : List (String × RefOr Schema)) :
    shapesOf doc enter properties =
      properties.map fun property => (property.1, propertyShape doc enter property) := by
  induction properties with
  | nil => rw [shapesOf, List.map_nil]
  | cons property rest ih =>
    rw [List.map_cons, ← ih]
    obtain ⟨name, part⟩ := property
    rw [shapesOf]
    cases hlink : linkOf? part with
    | some reference => rw [propertyShape_linked doc enter hlink]
    | none => rw [@shapeOfRef_property doc enter (name, part) hlink]

theorem wrappedShape?_eq (name : String) (schema : Schema) :
    wrappedShape? doc enter name (schema.types.isEmpty && schema.properties.isEmpty)
        schema.allOf = schema.wrapped?.bind (shapeOfRef doc enter name) := by
  obtain ⟨facets, properties, items, allOf⟩ := schema
  match allOf with
  | [] => simp [wrappedShape?, Schema.wrapped?]
  | [member] =>
    rw [wrappedShape?, Schema.wrapped?]
    split <;> rfl
  | _ :: _ :: _ => simp [wrappedShape?, Schema.wrapped?]

theorem itemsShape?_eq (items : Option (RefOr Schema)) :
    itemsShape? doc enter items = items.bind (shapeOfRef doc enter "Items") := by
  cases items <;> simp [itemsShape?]

theorem shapeOf_wrapped {name : String} {schema : Schema} {shape : Shape}
    (h : schema.wrapped?.bind (shapeOfRef doc enter name) = some shape) :
    shapeOf doc enter name schema = shape.under schema.toFacets := by
  rw [← wrappedShape?_eq] at h
  obtain ⟨facets, properties, items, allOf⟩ := schema
  rw [shapeOf, h]

theorem shapeOf_plain {name : String} {schema : Schema}
    (h : schema.wrapped?.bind (shapeOfRef doc enter name) = none) :
    shapeOf doc enter name schema =
      ⟨schema.trait name,
        schema.properties.map fun property => (property.1, propertyShape doc enter property),
        schema.items.bind (shapeOfRef doc enter "Items")⟩ := by
  rw [← wrappedShape?_eq] at h
  obtain ⟨facets, properties, items, allOf⟩ := schema
  rw [shapeOf, h, ← shapesOf_eq, ← itemsShape?_eq]

end

/-! ## Runs inside one schema -/

section
variable {doc : Document} {enter : String → String → Option Shape} {inside : List String}

/-- Where the references of a schema come to an end, the schema does. -/
theorem expansion_shapeOfRef (schema : RefOr Schema)
    (henter : ∀ reference, Schema.Mentions reference schema → ∀ name,
      Expansion doc inside name (.ref reference) (enter name reference)) (name : String) :
    Expansion doc inside name schema (shapeOfRef doc enter name schema) := by
  induction schema using Schema.induction generalizing name with
  | ref reference =>
    rw [shapeOfRef]
    exact henter reference .here name
  | inline schema hproperties hitems hmembers =>
    rw [shapeOfRef]
    have hmember : ∀ member, schema.wrapped? = some member →
        Expansion doc inside name member (shapeOfRef doc enter name member) := by
      intro member hmember
      have hmem := mem_allOf_of_wrapped? hmember
      exact hmembers member hmem (fun reference h => henter reference (.member hmem h)) name
    cases hshape : schema.wrapped?.bind (shapeOfRef doc enter name) with
    | some shape =>
      obtain ⟨member, hwrapped, hinner⟩ := Option.bind_eq_some_iff.1 hshape
      rw [shapeOf_wrapped doc enter hshape]
      exact .wrapped hwrapped (hinner ▸ hmember member hwrapped)
    | none =>
      rw [shapeOf_plain doc enter hshape]
      refine .plain _ _ ?_ ?_ ?_ ?_ ?_
      · intro member hwrapped
        have hnone : shapeOfRef doc enter name member = none := by simpa [hwrapped] using hshape
        exact hnone ▸ hmember member hwrapped
      · exact fun property _ reference hlink => propertyShape_linked doc enter hlink
      · intro property hmem hlink
        rw [← shapeOfRef_property doc enter hlink]
        exact hproperties _ _ hmem (fun reference h => henter reference (.property hmem h)) _
      · intro hnone
        rw [hnone, Option.bind_none]
      · intro part hpart
        rw [hpart, Option.bind_some]
        exact hitems part hpart (fun reference h => henter reference (.items hpart h)) _

end

/-! ## One reference -/

section
variable {doc : Document} {reference : String} {target : Schema} {inside : List String}

theorem expand_dangling (h : doc.schema? (.ref reference) = none) (depth : Nat)
    (inside : List String) (name : String) : expand doc depth inside name reference = none := by
  unfold expand
  rw [h]

theorem expand_cut (h : doc.schema? (.ref reference) = some target)
    (hinside : lastSegment reference ∈ inside) (depth : Nat) (name : String) :
    expand doc depth inside name reference =
      some (stub name (lastSegment reference) target) := by
  unfold expand
  cases depth with
  | zero => rw [h]
  | succ depth => simp only [h, List.contains_iff_mem.2 hinside, if_true]

theorem expand_entered (h : doc.schema? (.ref reference) = some target)
    (hinside : lastSegment reference ∉ inside) (depth : Nat) (name : String) :
    expand doc (depth + 1) inside name reference =
      some { shapeOf doc (expand doc depth (lastSegment reference :: inside)) name target with
        component := some (lastSegment reference) } := by
  have hcontains : inside.contains (lastSegment reference) = false := by simpa using hinside
  rw [expand, h]
  simp only [hcontains, Bool.false_eq_true, if_false]

/-! ## Depth -/

/-- The names that the component schemas refer to, without those being expanded. -/
def Api.Document.pending (doc : Document) (inside : List String) : Finset String :=
  (doc.schemaReferences.map lastSegment).toFinset \ inside.toFinset

theorem pending_cons (doc : Document) (component : String) (inside : List String) :
    doc.pending (component :: inside) = (doc.pending inside).erase component := by
  rw [Document.pending, Document.pending, List.toFinset_cons, Finset.sdiff_insert]

theorem card_pending_nil_le (doc : Document) :
    (doc.pending []).card ≤ doc.schemaReferences.length := by
  rw [Document.pending, List.toFinset_nil, Finset.sdiff_empty]
  exact (List.toFinset_card_le _).trans_eq (List.length_map _)

/-- A depth that the expansion of a schema does not use up. One step more is needed for a
    schema that is no part of the components, as its own references may enter components
    that nothing else refers to. -/
def Suffices (doc : Document) (depth : Nat) (inside : List String) (schema : RefOr Schema) :
    Prop :=
  (doc.pending inside).card < depth ∨ (doc.pending inside).card ≤ depth ∧
    ∀ reference, Schema.Mentions reference schema → reference ∈ doc.schemaReferences

/-- What suffices for a schema suffices for its parts. -/
theorem Suffices.part {depth : Nat} {schema part : RefOr Schema}
    (h : Suffices doc depth inside schema)
    (hpart : ∀ reference, Schema.Mentions reference part → Schema.Mentions reference schema) :
    Suffices doc depth inside part :=
  h.imp_right fun ⟨hcard, hknown⟩ =>
    ⟨hcard, fun reference hmention => hknown reference (hpart reference hmention)⟩

/-- Entering a component costs a step, and what is left suffices inside. -/
theorem Suffices.enter {depth : Nat} (h : Suffices doc depth inside (.ref reference))
    (htarget : doc.schema? (.ref reference) = some target)
    (hinside : lastSegment reference ∉ inside) :
    ∃ rest, depth = rest + 1 ∧
      Suffices doc rest (lastSegment reference :: inside) (.inline target) := by
  have hcard : (doc.pending (lastSegment reference :: inside)).card < depth := by
    rw [pending_cons]
    rcases h with hlt | ⟨hle, hknown⟩
    · exact Finset.card_erase_le.trans_lt hlt
    · have hmem : lastSegment reference ∈ doc.pending inside := by
        rw [Document.pending, Finset.mem_sdiff, List.mem_toFinset, List.mem_toFinset]
        exact ⟨List.mem_map_of_mem (hknown reference .here), hinside⟩
      exact (Finset.card_erase_lt_of_mem hmem).trans_le hle
  refine ⟨depth - 1, by omega, .inr ⟨by omega, ?_⟩⟩
  exact fun inner hinner => mem_schemaReferences htarget hinner

end

/-! ## Runs and shapes -/

section
variable {doc : Document}

/-- Where the depth suffices, the expansion comes to an end with the shape. -/
theorem expansion_of_suffices (depth : Nat) {inside : List String} {schema : RefOr Schema}
    (h : Suffices doc depth inside schema) (name : String) :
    Expansion doc inside name schema (shapeOfRef doc (expand doc depth inside) name schema) := by
  -- On the depth: it falls by one where a component is entered, and inside one schema the
  -- runs are put together by `expansion_shapeOfRef`.
  induction depth using Nat.strong_induction_on generalizing inside schema name with
  | _ depth ih =>
  refine expansion_shapeOfRef schema (fun reference hmention name => ?_) name
  have hreference : Suffices doc depth inside (.ref reference) :=
    h.part fun inner hinner => by cases hinner; exact hmention
  cases htarget : doc.schema? (.ref reference) with
  | none =>
    rw [expand_dangling htarget]
    exact .dangling htarget
  | some target =>
    by_cases hinside : lastSegment reference ∈ inside
    · rw [expand_cut htarget hinside]
      exact .cut htarget hinside
    · obtain ⟨rest, rfl, hrest⟩ := hreference.enter htarget hinside
      have hrun := ih rest rest.lt_succ_self hrest name
      rw [shapeOfRef] at hrun
      rw [expand_entered htarget hinside]
      exact .entered htarget hinside hrun

/-- Where the depth suffices, a run ends with nothing but the shape. -/
theorem Expansion.eq_shapeOfRef {inside : List String} {name : String} {schema : RefOr Schema}
    {result : Option Shape} (run : Expansion doc inside name schema result) {depth : Nat}
    (h : Suffices doc depth inside schema) :
    shapeOfRef doc (expand doc depth inside) name schema = result := by
  induction run generalizing depth with
  | dangling htarget => rw [shapeOfRef, expand_dangling htarget]
  | cut htarget hinside => rw [shapeOfRef, expand_cut htarget hinside]
  | entered htarget hinside _ ih =>
    obtain ⟨rest, rfl, hrest⟩ := h.enter htarget hinside
    have hshape := ih hrest
    rw [shapeOfRef, Option.some.injEq] at hshape
    rw [shapeOfRef, expand_entered htarget hinside, hshape]
  | wrapped hwrapped _ ih =>
    have hshape := ih (h.part fun _ => .member (mem_allOf_of_wrapped? hwrapped))
    rw [shapeOfRef, shapeOf_wrapped]
    rw [hwrapped, Option.bind_some, hshape]
  | @plain inside name schema node items _ hlinked _ hnone _ ihmember ihproperty ihitems =>
    have hwrapped : schema.wrapped?.bind
        (shapeOfRef doc (expand doc depth inside) name) = none := by
      rw [Option.bind_eq_none_iff]
      exact fun member hmember =>
        ihmember member hmember (h.part fun _ => .member (mem_allOf_of_wrapped? hmember))
    have hnode : ∀ property ∈ schema.properties,
        propertyShape doc (expand doc depth inside) property = node property := by
      intro property hmem
      cases hlink : linkOf? property.2 with
      | some reference =>
        rw [propertyShape_linked _ _ hlink, hlinked property hmem reference hlink]
      | none =>
        have hshape := ihproperty property hmem hlink (h.part fun _ => .property hmem)
        rw [shapeOfRef_property _ _ hlink] at hshape
        exact Option.some.inj hshape
    have hitems : schema.items.bind (shapeOfRef doc (expand doc depth inside) "Items") =
        items := by
      cases hpart : schema.items with
      | none => rw [Option.bind_none, hnone hpart]
      | some part =>
        rw [Option.bind_some]
        exact ihitems part hpart (h.part fun _ => .items hpart)
    rw [shapeOfRef, shapeOf_plain _ _ hwrapped, hitems]
    have hproperties : schema.properties.map (fun property =>
          (property.1, propertyShape doc (expand doc depth inside) property)) =
        schema.properties.map fun property => (property.1, node property) :=
      List.map_congr_left fun property hmem => by rw [hnode property hmem]
    rw [hproperties]

/-- An expansion has one result. -/
theorem Expansion.unique {inside : List String} {name : String} {schema : RefOr Schema}
    {result other : Option Shape} (run : Expansion doc inside name schema result)
    (run' : Expansion doc inside name schema other) : result = other := by
  have hsuffices : Suffices doc ((doc.pending inside).card + 1) inside schema :=
    .inl (Nat.lt_succ_self _)
  rw [← run.eq_shapeOfRef hsuffices, run'.eq_shapeOfRef hsuffices]

end

/-- **Every expansion comes to an end, and with the shape of the schema**, whatever cycles the
    components have. -/
theorem expansion_iff {doc : Document} {name : String} {schema : RefOr Schema}
    {result : Option Shape} :
    Expansion doc [] name schema result ↔ doc.shape? name schema = result := by
  have hsuffices : Suffices doc (doc.schemaReferences.length + 1) [] schema :=
    .inl (Nat.lt_succ_of_le (card_pending_nil_le doc))
  constructor
  · exact fun run => run.eq_shapeOfRef hsuffices
  · rintro rfl
    exact expansion_of_suffices _ hsuffices name

end ApiKinds
