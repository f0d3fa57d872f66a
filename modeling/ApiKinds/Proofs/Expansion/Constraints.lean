/-
  What a schema declares is carried by its shape, at every place.

  * `Shape.Carries`: type, format, default, enumeration, required fields and bounds of a
    schema are those of a node.
  * `Schema.GivesWay`: a schema is taken for the member that it wraps. Then its description
    and nullability are all that is kept of it.
  * `Schema.Reaches`: a schema that is written in place is found on a path of properties and
    items; the wrapped member of a schema is in the place of the schema.
  * `constraints_kept`: in the shape the same path leads to a node that carries the schema,
    if that does not give way.
-/
import ApiKinds.Proofs.Dict
import ApiKinds.Proofs.Expansion.Run

namespace ApiKinds

open Api

/-! ## Places -/

/-- A step from a schema or a node to one inside it. -/
inductive Step where
  | property (key : String)
  | items
deriving DecidableEq, Repr

/-- The node at the end of a path. -/
def Shape.at? : Shape → List Step → Option Shape
  | shape, [] => some shape
  | shape, .property key :: path => (Entries.get? key shape.properties).bind (·.at? path)
  | shape, .items :: path => shape.items.bind (·.at? path)

namespace Api.Schema

/-- A schema gives way to the member that it wraps: to one that stands for a schema, and as a
    property to any reference. -/
def GivesWay (doc : Document) (asProperty : Bool) (schema : Schema) : Prop :=
  ∃ member, schema.wrapped? = some member ∧
    ((doc.schema? member).isSome ∨ asProperty ∧ member.target?.isSome)

/-- On a path from a schema another one is written in place, each of them as a property or
    not. What lies inside a schema that gives way is not on a path, but for its member. -/
inductive Reaches (doc : Document) : Bool → Schema → List Step → Bool → Schema → Prop
  | here {asProperty schema} : Reaches doc asProperty schema [] asProperty schema
  | property {asProperty schema key part path asProperty' node} :
      ¬ schema.GivesWay doc asProperty →
      Entries.get? key schema.properties = some (.inline part) →
      Reaches doc true part path asProperty' node →
      Reaches doc asProperty schema (.property key :: path) asProperty' node
  | items {asProperty schema part path asProperty' node} :
      ¬ schema.GivesWay doc asProperty → schema.items = some (.inline part) →
      Reaches doc false part path asProperty' node →
      Reaches doc asProperty schema (.items :: path) asProperty' node
  | member {asProperty schema part path asProperty' node} :
      schema.wrapped? = some (.inline part) → Reaches doc false part path asProperty' node →
      Reaches doc asProperty schema path asProperty' node

end Api.Schema

/-! ## What is carried -/

/-- A node carries what a schema declares, wherever that is set. -/
structure Shape.Carries (shape : Shape) (schema : Schema) : Prop where
  type : ∀ name, schema.primaryType? = some name → shape.type = some name
  format : ∀ format, schema.format = some format → shape.format = some format
  default : ∀ value, schema.default = some value → shape.default = some (.ofJson value)
  enum : schema.enum ≠ [] → shape.enum = schema.enum.map .ofJson
  required : schema.required ≠ [] → shape.required = schema.required
  minLength : ∀ bound, schema.minLength = some bound → shape.minLength = some bound
  maxLength : ∀ bound, schema.maxLength = some bound → shape.maxLength = some bound
  minimum : ∀ bound, schema.minimum = some bound → shape.minimum = some bound
  maximum : ∀ bound, schema.maximum = some bound → shape.maximum = some bound
  pattern : ∀ pattern, schema.pattern = some pattern → shape.pattern = some pattern
  minItems : ∀ bound, schema.minItems = some bound → shape.minItems = some bound
  maxItems : ∀ bound, schema.maxItems = some bound → shape.maxItems = some bound

/-- A node keeps a schema: it is nullable if the schema is, and carries what the schema
    declares, unless that gives way. -/
structure Shape.Keeps (doc : Document) (asProperty : Bool) (shape : Shape) (schema : Schema) :
    Prop where
  nullable : schema.nullable ∨ "null" ∈ schema.types → shape.nullable
  carries : ¬ schema.GivesWay doc asProperty → shape.Carries schema

theorem carries_trait (schema : Schema) (name : String) (properties : List (String × Shape))
    (items : Option Shape) : Shape.Carries ⟨schema.trait name, properties, items⟩ schema where
  type name h := by simp [Schema.trait, Schema.impliedType, h]
  format _ h := h
  default value h := by simp [Schema.trait, h]
  enum _ := rfl
  required _ := rfl
  minLength _ h := h
  maxLength _ h := h
  minimum _ h := h
  maximum _ h := h
  pattern _ h := h
  minItems _ h := h
  maxItems _ h := h

section
variable {doc : Document} {asProperty : Bool}

/-- Under a wrapper a node keeps what it kept. -/
theorem Shape.Keeps.under {shape : Shape} {schema : Schema}
    (h : shape.Keeps doc asProperty schema) (wrapper : Facets) :
    (shape.under wrapper).Keeps doc asProperty schema where
  nullable hnullable := by simp [Shape.under, h.nullable hnullable]
  carries hstays := { h.carries hstays with }

/-- So do the nodes inside it, which are the same. -/
theorem exists_keeps_under {shape : Shape} {schema : Schema} {path : List Step}
    (h : ∃ node, shape.at? path = some node ∧ node.Keeps doc asProperty schema)
    (wrapper : Facets) :
    ∃ node, (shape.under wrapper).at? path = some node ∧ node.Keeps doc asProperty schema := by
  obtain ⟨node, hnode, hkeeps⟩ := h
  cases path with
  | nil =>
    cases hnode
    exact ⟨shape.under wrapper, rfl, hkeeps.under wrapper⟩
  | cons step path =>
    refine ⟨node, ?_, hkeeps⟩
    cases step <;> exact hnode

/-! ## Nodes of schemas -/

/-- A node is that of a schema written in place: the end of a run or, for a property that wraps
    a reference, the node that stands for the reference. -/
inductive Shape.NodeOf (doc : Document) (schema : Schema) : Bool → Shape → Prop
  | run {asProperty inside name shape} :
      Expansion doc inside name (.inline schema) (some shape) → NodeOf doc schema asProperty shape
  | linked {name reference} : linkOf? (.inline schema) = some reference →
      NodeOf doc schema true (linked doc name reference (.inline schema))

/-- A schema written in place has a shape. -/
theorem Expansion.ne_none {inside : List String} {name : String} {schema : Schema}
    {result : Option Shape} (run : Expansion doc inside name (.inline schema) result) :
    ∃ shape, result = some shape := by
  cases run with
  | wrapped => exact ⟨_, rfl⟩
  | plain => exact ⟨_, rfl⟩

/-- What has a shape stands for a schema. -/
theorem Expansion.schema?_isSome {inside : List String} {name : String} {schema : RefOr Schema}
    {shape : Shape} (run : Expansion doc inside name schema (some shape)) :
    (doc.schema? schema).isSome := by
  cases run with
  | cut htarget => rw [htarget]; rfl
  | entered htarget => rw [htarget]; rfl
  | wrapped => rfl
  | plain => rfl

/-- A wrapper gives way to a member that has a shape. -/
theorem givesWay_of_run {inside : List String} {name : String} {schema : Schema}
    {member : RefOr Schema} {shape : Shape} (hwrapped : schema.wrapped? = some member)
    (run : Expansion doc inside name member (some shape)) : schema.GivesWay doc asProperty :=
  ⟨member, hwrapped, .inl run.schema?_isSome⟩

/-- A property that wraps a reference gives way to it. -/
theorem givesWay_of_link {schema : Schema} {reference : String}
    (h : linkOf? (.inline schema) = some reference) : schema.GivesWay doc true := by
  obtain ⟨member, hwrapped, htarget⟩ := Option.bind_eq_some_iff.1 h
  exact ⟨member, hwrapped, .inr ⟨rfl, Option.isSome_of_mem htarget⟩⟩

theorem Shape.NodeOf.keeps {schema : Schema} {shape : Shape}
    (h : NodeOf doc schema asProperty shape) : shape.Keeps doc asProperty schema := by
  cases h with
  | run run =>
    cases run with
    | wrapped hwrapped run =>
      obtain ⟨-, htypes, -⟩ := wrapped?_eq_some_iff.1 hwrapped
      refine ⟨fun hnullable => ?_, fun hstays => absurd (givesWay_of_run hwrapped run) hstays⟩
      have hown : schema.nullable := hnullable.resolve_right (by simp [htypes])
      simp [Shape.under, hown]
    | plain =>
      refine ⟨fun hnullable => ?_, fun _ => carries_trait _ _ _ _⟩
      simpa [Schema.trait] using hnullable
  | linked hlink =>
    obtain ⟨member, hwrapped, -⟩ := Option.bind_eq_some_iff.1 hlink
    obtain ⟨-, htypes, -⟩ := wrapped?_eq_some_iff.1 hwrapped
    refine ⟨fun hnullable => ?_, fun hstays => absurd (givesWay_of_link hlink) hstays⟩
    have hown : schema.nullable := hnullable.resolve_right (by simp [htypes])
    simp [ApiKinds.linked, Shape.under, hown]

/-! ## Steps down -/

section
variable {schema part : Schema} {shape : Shape}

/-- A property that is written in place has its node under the same key. -/
theorem Shape.NodeOf.property {key : String} (h : NodeOf doc schema asProperty shape)
    (hstays : ¬ schema.GivesWay doc asProperty)
    (hpart : Entries.get? key schema.properties = some (.inline part)) :
    ∃ node, Entries.get? key shape.properties = some node ∧ NodeOf doc part true node := by
  cases h with
  | linked hlink => exact absurd (givesWay_of_link hlink) hstays
  | run run =>
    cases run with
    | wrapped hwrapped run => exact absurd (givesWay_of_run hwrapped run) hstays
    | plain node items _ hlinked hrun =>
      have hmem := Entries.mem_of_get? hpart
      refine ⟨node (key, .inline part), ?_, ?_⟩
      · rw [Entries.get?_map key (fun key part => node (key, part)), hpart, Option.map_some]
      · cases hlink : linkOf? (.inline part) with
        | some reference =>
          rw [hlinked _ hmem reference hlink]
          exact .linked hlink
        | none => exact .run (hrun _ hmem hlink)

/-- Items that are written in place have their node under the items. -/
theorem Shape.NodeOf.items (h : NodeOf doc schema asProperty shape)
    (hstays : ¬ schema.GivesWay doc asProperty) (hpart : schema.items = some (.inline part)) :
    ∃ node, shape.items = some node ∧ NodeOf doc part false node := by
  cases h with
  | linked hlink => exact absurd (givesWay_of_link hlink) hstays
  | run run =>
    cases run with
    | wrapped hwrapped run => exact absurd (givesWay_of_run hwrapped run) hstays
    | plain node items _ _ _ _ hrun =>
      obtain ⟨inner, rfl⟩ := (hrun _ hpart).ne_none
      exact ⟨inner, rfl, .run (hrun _ hpart)⟩

/-- A wrapped member that is written in place has the node of its wrapper, but for what the
    wrapper says of itself. -/
theorem Shape.NodeOf.member (h : NodeOf doc schema asProperty shape)
    (hmember : schema.wrapped? = some (.inline part)) :
    ∃ node, shape = node.under schema.toFacets ∧ NodeOf doc part false node := by
  cases h with
  | linked hlink =>
    rw [linkOf?, hmember] at hlink
    cases hlink
  | run run =>
    cases run with
    | wrapped hwrapped run =>
      cases hwrapped.symm.trans hmember
      exact ⟨_, rfl, .run run⟩
    | plain _ _ hnone =>
      obtain ⟨_, hsome⟩ := (hnone _ hmember).ne_none
      cases hsome

/-- On every path from a schema its node leads to one that keeps what is found there. -/
theorem Shape.NodeOf.exists_keeps {asProperty' : Bool} {path : List Step} {node : Schema}
    (hpath : schema.Reaches doc asProperty path asProperty' node)
    (h : NodeOf doc schema asProperty shape) :
    ∃ part, shape.at? path = some part ∧ part.Keeps doc asProperty' node := by
  -- On the path: a step on it is a step in the shape, and a member stays at the same node.
  induction hpath generalizing shape with
  | here => exact ⟨shape, rfl, h.keeps⟩
  | property hstays hpart _ ih =>
    obtain ⟨child, hchild, hnode⟩ := h.property hstays hpart
    rw [Shape.at?, hchild, Option.bind_some]
    exact ih hnode
  | items hstays hpart _ ih =>
    obtain ⟨child, hchild, hnode⟩ := h.items hstays hpart
    rw [Shape.at?, hchild, Option.bind_some]
    exact ih hnode
  | member hmember _ ih =>
    obtain ⟨inner, rfl, hnode⟩ := h.member hmember
    exact exists_keeps_under (ih hnode) _

end

end

/-- **What a schema declares is carried by its shape**, and so is what each schema inside it
    does: on the same path there is a node that is nullable if the schema there is, and that
    carries all it declares unless it gives way to a member that it wraps. -/
theorem constraints_kept (doc : Document) (name : String) (schema : Schema) :
    ∃ shape, doc.shape? name (.inline schema) = some shape ∧
      ∀ path asProperty node, schema.Reaches doc false path asProperty node →
        ∃ part, shape.at? path = some part ∧
          (node.nullable ∨ "null" ∈ node.types → part.nullable) ∧
          (¬ node.GivesWay doc asProperty → part.Carries node) := by
  obtain ⟨shape, hshape⟩ := (expansion_iff.2 rfl : Expansion doc [] name (.inline schema) _).ne_none
  refine ⟨shape, hshape, fun path asProperty node hpath => ?_⟩
  have hnode : Shape.NodeOf doc schema false shape := .run (expansion_iff.2 hshape)
  obtain ⟨part, hpart, hkeeps⟩ := hnode.exists_keeps hpath
  exact ⟨part, hpart, hkeeps.nullable, hkeeps.carries⟩

/-- A schema that wraps a text and declares a default, a bound and a required field. -/
def defaulted : Schema where
  default := some (.string "cat")
  minLength := some 1
  required := ["name"]
  allOf := [.inline { types := ["string"] }]

/-- A schema that wraps a member loses what else it declares. -/
theorem constraints_lost_of_defaulted :
    (({} : Document).shape? "kind" (.inline defaulted)).map (fun shape =>
      (shape.type, shape.default.isSome, shape.minLength, shape.required)) =
        some (some "string", false, none, []) := by
  decide +kernel

end ApiKinds
