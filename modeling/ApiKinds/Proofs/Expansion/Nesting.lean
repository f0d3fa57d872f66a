/-
  A component is expanded once only on the way down a shape.

  * `Shape.PartOf`: the nodes right below a node.
  * `Shape.Unrepeated`: of the components being expanded only stubs occur in a shape, and
    the parts of a node have no more than stubs of its own component. A run keeps this
    (`Expansion.unrepeated`).
  * `expansion_unrepeated`: every expansion ends, and below the node of a component each
    further node of that component is a stub.

  A component is known by the name that a reference spells, as both the guard and the nodes
  have it; one that is spelled in two ways (`a~b` and `a~0b`) counts as two.
-/
import ApiKinds.Proofs.Expansion.Run
import Mathlib.Logic.Relation

namespace ApiKinds

open Api

/-! ## Nodes of shapes -/

namespace Shape

/-- A node stands right below another, as a property or as its items. -/
inductive PartOf : Shape → Shape → Prop
  | property {key part shape} : (key, part) ∈ shape.properties → PartOf part shape
  | items {part shape} : shape.items = some part → PartOf part shape

/-- A node has nothing below it. -/
def IsBare (shape : Shape) : Prop :=
  shape.properties = [] ∧ shape.items = none

theorem IsBare.not_partOf {part shape : Shape} (h : shape.IsBare) : ¬ PartOf part shape := by
  rintro (hmem | hitems)
  · rw [h.1] at hmem
    cases hmem
  · rw [h.2] at hitems
    cases hitems

/-- What stands below a node depends on its properties and items only. -/
theorem PartOf.of_eq {part shape other : Shape} (h : PartOf part shape)
    (hproperties : shape.properties = other.properties) (hitems : shape.items = other.items) :
    PartOf part other := by
  cases h with
  | property hmem => exact .property (hproperties ▸ hmem)
  | items hpart => exact .items (hitems ▸ hpart)

/-- Inside the expansion of some components, nodes of these are bare, and those of a
    component whose node is passed on the way down are too. -/
inductive Unrepeated : List String → Shape → Prop
  | intro {inside shape} :
      (∀ component ∈ inside, shape.component = some component → shape.IsBare) →
      (∀ part, PartOf part shape → Unrepeated (shape.component.toList ++ inside) part) →
      Unrepeated inside shape

namespace Unrepeated

variable {inside : List String} {shape : Shape}

theorem of_isBare (h : shape.IsBare) : Unrepeated inside shape :=
  .intro (fun _ _ _ => h) fun _ hpart => absurd hpart h.not_partOf

/-- Inside fewer components less is asked. -/
theorem anti {fewer : List String} (h : Unrepeated inside shape)
    (hsub : ∀ component ∈ fewer, component ∈ inside) : Unrepeated fewer shape := by
  induction h generalizing fewer with
  | intro hbare _ ih =>
    refine .intro (fun component hmem => hbare component (hsub component hmem)) ?_
    refine fun part hpart => ih part hpart fun component hmem => ?_
    rw [List.mem_append] at hmem ⊢
    exact hmem.imp_right (hsub component)

theorem under {wrapper : Facets} (h : Unrepeated inside shape) :
    Unrepeated inside (shape.under wrapper) := by
  obtain ⟨hbare, hparts⟩ := h
  exact .intro hbare fun part hpart => hparts part (hpart.of_eq rfl rfl)

/-- The node of a component that was not being expanded. -/
theorem enter {component : String} (h : Unrepeated (component :: inside) shape)
    (hcomponent : component ∉ inside) :
    Unrepeated inside { shape with component := some component } := by
  obtain ⟨-, hparts⟩ := h
  refine .intro ?_ fun part hpart => ?_
  · rintro other hmem heq
    cases heq
    exact absurd hmem hcomponent
  · refine (hparts part (hpart.of_eq rfl rfl)).anti fun other hmem => ?_
    exact List.mem_append_right _ hmem

/-- The nodes of a shape are inside the same components and those passed on the way. -/
theorem within {node : Shape} (h : Unrepeated inside shape)
    (hnode : Relation.ReflTransGen PartOf node shape) : ∃ passed, Unrepeated passed node := by
  induction hnode generalizing inside with
  | refl => exact ⟨inside, h⟩
  | tail _ hpart ih =>
    obtain ⟨-, hparts⟩ := h
    exact ih (hparts _ hpart)

/-- Below the node of a component its further nodes are bare. -/
theorem isBare_below {node : Shape} {component : String} (h : Unrepeated inside shape)
    (hbelow : Relation.TransGen PartOf node shape) (hnode : node.component = some component)
    (hcomponent : component ∈ shape.component.toList ++ inside) : node.IsBare := by
  induction hbelow generalizing inside with
  | single hpart =>
    obtain ⟨-, hparts⟩ := h
    obtain ⟨hbare, -⟩ := hparts _ hpart
    exact hbare component hcomponent hnode
  | tail _ hpart ih =>
    obtain ⟨-, hparts⟩ := h
    exact ih (hparts _ hpart) (List.mem_append_right _ hcomponent)

end Unrepeated

end Shape

/-! ## Runs -/

theorem isBare_stub (name component : String) (target : Schema) :
    (stub name component target).IsBare :=
  ⟨rfl, rfl⟩

theorem isBare_linked (doc : Document) (name reference : String) (property : RefOr Schema) :
    (linked doc name reference property).IsBare := by
  unfold linked
  cases doc.schema? (.ref reference) <;> cases property <;> exact ⟨rfl, rfl⟩

/-- Right below the node of a schema that wraps no member stand the nodes of its references, and
    those of the parts that are written in place. -/
theorem Shape.PartOf.of_plain {doc : Document} {schema : Schema} {t : Trait} {part : Shape}
    {node : String × RefOr Schema → Shape} {items : Option Shape}
    (hlinked : ∀ property ∈ schema.properties, ∀ reference, linkOf? property.2 = some reference →
      node property = linked doc property.1 reference property.2)
    (hnone : schema.items = none → items = none)
    (hpart : PartOf part
      ⟨t, schema.properties.map fun property => (property.1, node property), items⟩) :
    (∃ property ∈ schema.properties, ∃ reference, linkOf? property.2 = some reference ∧
      part = linked doc property.1 reference property.2) ∨
    (∃ property ∈ schema.properties, linkOf? property.2 = none ∧ part = node property) ∨
    ∃ inner, schema.items = some inner ∧ items = some part := by
  rcases hpart with hmem | hitems
  · obtain ⟨property, hproperty, hpair⟩ := List.mem_map.1 hmem
    cases hpair
    cases hlink : linkOf? property.2 with
    | some reference =>
      exact .inl ⟨property, hproperty, reference, hlink, hlinked property hproperty reference hlink⟩
    | none => exact .inr (.inl ⟨property, hproperty, hlink, rfl⟩)
  · cases hschema : schema.items with
    | none => cases (hnone hschema).symm.trans hitems
    | some inner => exact .inr (.inr ⟨inner, rfl, hitems⟩)

/-- A run repeats no component on the way down. -/
theorem Expansion.unrepeated {doc : Document} {inside : List String} {name : String}
    {schema : RefOr Schema} {result : Option Shape} (run : Expansion doc inside name schema result) :
    ∀ shape, result = some shape → shape.Unrepeated inside := by
  induction run with
  | dangling => rintro shape ⟨⟩
  | cut =>
    rintro shape ⟨⟩
    exact .of_isBare (isBare_stub _ _ _)
  | entered _ hinside _ ih =>
    rintro shape ⟨⟩
    exact (ih _ rfl).enter hinside
  | wrapped _ _ ih =>
    rintro shape ⟨⟩
    exact (ih _ rfl).under
  | @plain inside name schema node items _ hlinked _ hnone _ _ ihproperty ihitems =>
    rintro shape ⟨⟩
    -- The node itself stands for no component, so nothing is added for its parts.
    refine .intro (fun component _ hcomponent => by cases hcomponent) fun part hpart => ?_
    obtain ⟨_, _, _, _, rfl⟩ | ⟨property, hproperty, hlink, rfl⟩ | ⟨inner, hinner, hitems⟩ :=
      hpart.of_plain hlinked hnone
    · exact .of_isBare (isBare_linked _ _ _ _)
    · exact ihproperty property hproperty hlink _ rfl
    · exact ihitems inner hinner part hitems

/-- **Every expansion comes to an end, with one result, and on the way down the shape each
    component is expanded once only**: below a node of a component its nodes are stubs. -/
theorem expansion_unrepeated (doc : Document) (name : String) (schema : RefOr Schema) :
    (∀ result, Expansion doc [] name schema result ↔ doc.shape? name schema = result) ∧
      ∀ shape, doc.shape? name schema = some shape → ∀ outer inner component,
        Relation.ReflTransGen Shape.PartOf outer shape →
        Relation.TransGen Shape.PartOf inner outer →
        outer.component = some component → inner.component = some component →
        inner.properties = [] ∧ inner.items = none := by
  refine ⟨fun result => expansion_iff, ?_⟩
  intro shape hshape outer inner component hwithin hbelow houter hinner
  obtain ⟨passed, hunrepeated⟩ := ((expansion_iff.2 hshape).unrepeated shape rfl).within hwithin
  refine hunrepeated.isBare_below hbelow hinner ?_
  simp [houter]

end ApiKinds
