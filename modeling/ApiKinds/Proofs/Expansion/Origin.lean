/-
  Where the component names in shapes come from.

  * `Shape.Shows`: a node of a shape stands for a component.
  * `Document.Uses`: a reference occurs in a schema, or in a component schema that it may lead
    to.
  * `exists_uses_of_shows`: every name shown in the shape of a schema is spelled by such a
    reference.
-/
import ApiKinds.Proofs.Expansion.Nesting

namespace ApiKinds

open Api

/-! ## Names in shapes -/

/-- A shape, or a node below it, stands for a component. -/
def Shape.Shows (component : String) (shape : Shape) : Prop :=
  ∃ node, Relation.ReflTransGen Shape.PartOf node shape ∧ node.component = some component

namespace Shape

variable {component : String} {shape : Shape}

theorem shows_iff : shape.Shows component ↔
    shape.component = some component ∨ ∃ part, PartOf part shape ∧ part.Shows component := by
  constructor
  · rintro ⟨node, hnode, hcomponent⟩
    obtain rfl | ⟨part, hbelow, hpart⟩ := hnode.cases_tail
    · exact .inl hcomponent
    · exact .inr ⟨part, hpart, node, hbelow, hcomponent⟩
  · rintro (hcomponent | ⟨part, hpart, node, hbelow, hcomponent⟩)
    · exact ⟨shape, .refl, hcomponent⟩
    · exact ⟨node, hbelow.tail hpart, hcomponent⟩

theorem IsBare.shows_iff (h : shape.IsBare) :
    shape.Shows component ↔ shape.component = some component := by
  rw [Shape.shows_iff, or_iff_left]
  rintro ⟨part, hpart, -⟩
  exact h.not_partOf hpart

/-- The names below a node do not depend on what the node says of itself. -/
theorem Shows.of_eq (h : shape.Shows component) (other : Shape)
    (hproperties : shape.properties = other.properties) (hitems : shape.items = other.items) :
    shape.component = some component ∨ other.Shows component := by
  refine (Shape.shows_iff.1 h).imp_right ?_
  rintro ⟨part, hpart, hshows⟩
  exact Shape.shows_iff.2 (.inr ⟨part, hpart.of_eq hproperties hitems, hshows⟩)

end Shape

/-! ## Names in runs -/

/-- A reference occurs in a schema, or in a component schema that it may lead to. -/
def Api.Document.Uses (doc : Document) (schema : RefOr Schema) (reference : String) : Prop :=
  Schema.Mentions reference schema ∨ reference ∈ doc.schemaReferences

section
variable {doc : Document} {reference : String} {schema part : RefOr Schema}

theorem Api.Document.Uses.of_part (h : doc.Uses part reference)
    (hpart : Schema.Mentions reference part → Schema.Mentions reference schema) :
    doc.Uses schema reference :=
  h.imp_left hpart

theorem mentions_of_linkOf? (h : linkOf? schema = some reference) :
    Schema.Mentions reference schema := by
  cases schema with
  | ref target =>
    cases h
    exact .here
  | inline schema =>
    obtain ⟨member, hmember, htarget⟩ := Option.bind_eq_some_iff.1 h
    cases member with
    | ref target =>
      cases htarget
      exact .member (mem_allOf_of_wrapped? hmember) .here
    | inline schema => cases htarget

theorem component_linked (doc : Document) (name reference : String) (property : RefOr Schema) :
    (linked doc name reference property).component = some (lastSegment reference) := by
  unfold linked
  cases doc.schema? (.ref reference) <;> cases property <;> rfl

/-- A run shows no names but those that references in use spell. -/
theorem Expansion.exists_uses {inside : List String} {name : String} {schema : RefOr Schema}
    {result : Option Shape} (run : Expansion doc inside name schema result) :
    ∀ shape component, result = some shape → shape.Shows component →
      ∃ reference, doc.Uses schema reference ∧ lastSegment reference = component := by
  -- On the run: a name is that of the node that the run puts there, spelled by the reference it
  -- is at, or lies in a part that has its own run.
  induction run with
  | dangling => rintro shape component ⟨⟩
  | cut =>
    rintro shape component ⟨⟩ hshows
    cases (isBare_stub _ _ _).shows_iff.1 hshows
    exact ⟨_, .inl .here, rfl⟩
  | @entered inside name reference target shape htarget _ _ ih =>
    rintro _ component ⟨⟩ hshows
    obtain hcomponent | hinner := hshows.of_eq shape rfl rfl
    · cases hcomponent
      exact ⟨_, .inl .here, rfl⟩
    · -- Inside a component every reference is one among the component schemas.
      obtain ⟨reference, huses, hname⟩ := ih _ component rfl hinner
      exact ⟨reference, .inr (huses.elim (mem_schemaReferences htarget) id), hname⟩
  | @wrapped inside name schema member shape hwrapped _ ih =>
    rintro _ component ⟨⟩ hshows
    have hmember : shape.Shows component := (hshows.of_eq shape rfl rfl).elim
      (fun hcomponent => Shape.shows_iff.2 (.inl hcomponent)) id
    obtain ⟨reference, huses, hname⟩ := ih _ component rfl hmember
    exact ⟨reference, huses.of_part (.member (mem_allOf_of_wrapped? hwrapped)), hname⟩
  | @plain inside name schema node items _ hlinked _ hnone _ _ ihproperty ihitems =>
    rintro shape component ⟨⟩ hshows
    obtain hcomponent | ⟨part, hpart, hshows⟩ := Shape.shows_iff.1 hshows
    · cases hcomponent
    obtain ⟨property, hproperty, reference, hlink, rfl⟩ | ⟨property, hproperty, hlink, rfl⟩ |
      ⟨inner, hinner, hitems⟩ := hpart.of_plain hlinked hnone
    · rw [(isBare_linked _ _ _ _).shows_iff, component_linked, Option.some.injEq] at hshows
      exact ⟨reference, .inl (.property hproperty (mentions_of_linkOf? hlink)), hshows⟩
    · obtain ⟨reference, huses, hname⟩ :=
        ihproperty property hproperty hlink _ component rfl hshows
      exact ⟨reference, huses.of_part (.property hproperty), hname⟩
    · obtain ⟨reference, huses, hname⟩ := ihitems inner hinner part component hitems hshows
      exact ⟨reference, huses.of_part (.items hinner), hname⟩

/-- A name that is shown in the shape of a schema is spelled by a reference in use. -/
theorem exists_uses_of_shows {name component : String} {schema : RefOr Schema} {shape : Shape}
    (hshape : doc.shape? name schema = some shape) (hshows : shape.Shows component) :
    ∃ reference, doc.Uses schema reference ∧ lastSegment reference = component :=
  (expansion_iff.2 hshape).exists_uses shape component rfl hshows

end

end ApiKinds
