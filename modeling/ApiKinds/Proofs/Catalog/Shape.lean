/-
  Literals and shapes that are written and read back.

  * `Literal.Storable`: integers have 64 bits with a sign, doubles are finite, and maps are in
    key order. `storable_ofJson`: so are the literals of regular values.
  * `Literal.read?_toJson`: each is read back as the sort it is, as no sort before it fits.
  * `Trait.Storable`, `Shape.Storable`: the numbers and literals of a shape can be stored, and no
    default is `null`, which would be taken for its absence.
  * `Shape.read?_toJson`: such shapes are read back.
-/
import ApiKinds.Catalog.Reading
import ApiKinds.Proofs.Json.RoundTrip

namespace ApiKinds

open Json

/-! ## Literals -/

namespace Literal

/-- The literals that are read back. -/
inductive Storable : Literal → Prop
  | null : Storable .null
  | bool {b} : Storable (.bool b)
  | integer {i} : Number.fitsSigned i → Storable (.integer i)
  | float {x} : Binary64.isFinite x → Storable (.float x)
  | text {s} : Storable (.text s)
  | list {items} : (∀ item ∈ items, Storable item) → Storable (.list items)
  | map {entries} : Entries.Sorted entries → (∀ p ∈ entries, Storable p.2) →
      Storable (.map entries)

/-- An integer beyond 64 bits with a sign becomes a finite double. -/
theorem storable_ofNumber {unique : Prop} {n : Number} (h : Regular unique (.number n)) :
    (ofNumber n).Storable := by
  cases h with
  | @int i _ =>
    rw [ofNumber]
    split
    · next hfits => exact .integer hfits
    · exact .float (Binary64.isFinite_ofInt i)
  | real hfinite => exact .float hfinite

theorem ofItems_eq (items : List Json) : ofItems items = items.map ofJson := by
  induction items with
  | nil => rw [ofItems, List.map_nil]
  | cons item rest ih => rw [ofItems, ih, List.map_cons]

theorem ofMembers_eq (members : List (String × Json)) :
    ofMembers members = members.map fun m => (m.1, ofJson m.2) := by
  induction members with
  | nil => rw [ofMembers, List.map_nil]
  | cons m rest ih => rw [ofMembers, ih, List.map_cons]

theorem storable_ofJson {unique : Prop} {value : Json} (h : value.Regular unique) :
    (ofJson value).Storable := by
  induction h with
  | null =>
    rw [ofJson]
    exact .null
  | bool =>
    rw [ofJson]
    exact .bool
  | int hfits =>
    rw [ofJson]
    exact storable_ofNumber (.int hfits : Regular unique _)
  | real hfinite =>
    rw [ofJson]
    exact storable_ofNumber (.real hfinite : Regular unique _)
  | string =>
    rw [ofJson]
    exact .text
  | array _ ih =>
    rw [ofJson, ofItems_eq]
    exact .list (List.forall_mem_map.2 ih)
  | object _ _ ih =>
    rw [ofJson, ofMembers_eq]
    refine .map (Entries.sorted_ofList _) fun p hp => ?_
    obtain ⟨m, hm, rfl⟩ := List.mem_map.1 (Entries.mem_of_mem_ofList hp)
    exact ih m hm

theorem isNull_ofJson (value : Json) : (ofJson value).isNull = value.isNull := by
  cases value with
  | number n =>
    rw [ofJson]
    cases n with
    | int i =>
      rw [ofNumber]
      split <;> rfl
    | real x => rfl
  | _ =>
    rw [ofJson]
    rfl

theorem fits_of_fitsSigned {i : Int} (h : Number.fitsSigned i) : Number.fits i := by
  have hbound : twoTo 63 ≤ twoTo 64 := by decide
  simp only [Number.fitsSigned, Number.fits, Bool.and_eq_true, decide_eq_true_eq] at h ⊢
  omega

theorem readItems?_writeItems {items : List Literal}
    (h : ∀ item ∈ items, read? item.toJson = some item) :
    readItems? (writeItems items) = some items := by
  induction items with
  | nil => rw [writeItems, readItems?]
  | cons item rest ih =>
    obtain ⟨hitem, hrest⟩ := List.forall_mem_cons.1 h
    rw [writeItems, readItems?]
    exact bind_eq_some hitem (bind_eq_some (ih hrest) rfl)

theorem readMembers?_writeEntries {entries : List (String × Literal)}
    (h : ∀ p ∈ entries, read? p.2.toJson = some p.2) :
    readMembers? (writeEntries entries) = some entries := by
  induction entries with
  | nil => rw [writeEntries, readMembers?]
  | cons p rest ih =>
    obtain ⟨hp, hrest⟩ := List.forall_mem_cons.1 h
    rw [writeEntries, readMembers?]
    exact bind_eq_some hp (bind_eq_some (ih hrest) rfl)

/-- A literal that can be stored is read back as it was written. -/
theorem read?_toJson {literal : Literal} (h : literal.Storable) :
    read? literal.toJson = some literal := by
  induction h with
  | null =>
    rw [toJson]
    rfl
  | bool =>
    rw [toJson]
    rfl
  | @integer i hfits =>
    rw [toJson, ofInt_of_fits (fits_of_fitsSigned hfits)]
    simp [read?, readers, bool?, hfits]
  | float hfinite =>
    -- A double is no integer, even if it is whole.
    rw [toJson, ofDouble_of_isFinite hfinite]
    rfl
  | text =>
    rw [toJson]
    rfl
  | list _ ih =>
    rw [toJson, read?, readItems?_writeItems ih, Option.map_some]
  | map hsorted _ ih =>
    rw [toJson, read?, readMembers?_writeEntries ih, Option.map_some, Function.comp_apply,
      Entries.ofList_eq_self hsorted]

end Literal

/-! ## Shapes -/

/-- What a node says of itself can be stored. -/
structure Trait.Storable (t : Trait) : Prop where
  enum : ∀ literal ∈ t.enum, literal.Storable
  default : ∀ literal ∈ t.default, literal.Storable ∧ literal.isNull = false
  minLength : ∀ n ∈ t.minLength, Number.fits n
  maxLength : ∀ n ∈ t.maxLength, Number.fits n
  minimum : ∀ x ∈ t.minimum, x.isFinite
  maximum : ∀ x ∈ t.maximum, x.isFinite
  minItems : ∀ n ∈ t.minItems, Number.fits n
  maxItems : ∀ n ∈ t.maxItems, Number.fits n

namespace Shape

/-- The shapes that are read back. -/
inductive Storable : Shape → Prop
  | mk {shape : Shape} : shape.toTrait.Storable → Entries.Sorted shape.properties →
      (∀ p ∈ shape.properties, Storable p.2) →
      (∀ part, shape.items = some part → Storable part) → Storable shape

/-- The members of a shape that are written. -/
def members (shape : Shape) : List (String × Json) :=
  shape.leading ++
    [("properties", .object (writeEntries shape.properties)),
      ("items", .ofOption Shape.toJson shape.items)] ++
    shape.trailing

theorem toJson_eq (shape : Shape) : shape.toJson = .object shape.members := by
  obtain ⟨t, properties, items⟩ := shape
  cases items <;>
    rw [toJson] <;>
    rfl

/-- A literal that is not `null` is not written as `null`. -/
theorem isNull_toJson {literal : Literal} (h : literal.Storable) (hnull : literal.isNull = false) :
    literal.toJson.isNull = false := by
  cases h with
  | null => cases hnull
  | integer hfits =>
    rw [Literal.toJson, ofInt_of_fits (Literal.fits_of_fitsSigned hfits)]
    rfl
  | float hfinite =>
    rw [Literal.toJson, ofDouble_of_isFinite hfinite]
    rfl
  | _ =>
    rw [Literal.toJson]
    rfl

theorem trait_read? {shape : Shape} (h : shape.toTrait.Storable) :
    Trait.read? ⟨shape.members⟩ = some shape.toTrait := by
  unfold Trait.read?
  refine bind_eq_some (Record.required_of_find? rfl rfl) ?_
  refine bind_eq_some (Record.optional_string rfl) ?_
  refine bind_eq_some (Record.optional_string rfl) ?_
  refine bind_eq_some (Record.optional_string rfl) ?_
  refine bind_eq_some (Record.required_of_find? rfl (listOf?_ofList fun _ _ => rfl)) ?_
  refine bind_eq_some (Record.optional_string rfl) ?_
  refine bind_eq_some (Record.required_of_find? rfl
    (listOf?_ofList fun literal hmem => Literal.read?_toJson (h.enum literal hmem))) ?_
  refine bind_eq_some (Record.withDefault_of_find? rfl (nullable?_ofOption
    (fun literal hmem => isNull_toJson (h.default literal hmem).1 (h.default literal hmem).2)
    fun literal hmem => Literal.read?_toJson (h.default literal hmem).1)) ?_
  refine bind_eq_some (Record.required_of_find? rfl rfl) ?_
  refine bind_eq_some (Record.optional_natural rfl h.minLength) ?_
  refine bind_eq_some (Record.optional_natural rfl h.maxLength) ?_
  refine bind_eq_some (Record.optional_double rfl h.minimum) ?_
  refine bind_eq_some (Record.optional_double rfl h.maximum) ?_
  refine bind_eq_some (Record.optional_string rfl) ?_
  refine bind_eq_some (Record.optional_natural rfl h.minItems) ?_
  refine bind_eq_some (Record.optional_natural rfl h.maxItems) ?_
  rfl

theorem readEntries?_writeEntries {entries : List (String × Shape)}
    (h : ∀ p ∈ entries, read? p.2.toJson = some p.2) :
    readEntries? (writeEntries entries) = some entries := by
  induction entries with
  | nil => rw [writeEntries, readEntries?]
  | cons p rest ih =>
    obtain ⟨hp, hrest⟩ := List.forall_mem_cons.1 h
    rw [writeEntries, readEntries?]
    exact bind_eq_some hp (bind_eq_some (ih hrest) rfl)

theorem propertiesIn?_members (shape : Shape) :
    propertiesIn? shape.members = readEntries? (writeEntries shape.properties) := by
  simp [members, Trait.leading, propertiesIn?, readProperties?]

theorem itemsIn?_members (shape : Shape) :
    itemsIn? shape.members = nullable? read? (.ofOption toJson shape.items) := by
  simp [members, Trait.leading, itemsIn?, nullable?]

/-- A shape that can be stored is read back as it was written. -/
theorem read?_toJson {shape : Shape} (h : shape.Storable) : read? shape.toJson = some shape := by
  induction h with
  | @mk shape htrait hsorted _ _ hproperties hitems =>
    have hrecord : Record.ofMembers? fieldNames shape.members = some ⟨shape.members⟩ :=
      ofMembers?_self (.refl _) (by decide)
    have hitems' : itemsIn? shape.members = some shape.items := by
      rw [itemsIn?_members]
      exact nullable?_ofOption (fun part hpart => isNull_eq_false rfl (hitems part hpart)) hitems
    rw [toJson_eq, read?, hrecord, propertiesIn?_members, readEntries?_writeEntries hproperties,
      hitems', assemble?]
    refine bind_eq_some rfl (bind_eq_some (trait_read? htrait) ?_)
    simp only [Option.bind_eq_bind, Option.bind_some, Entries.ofList_eq_self hsorted]
    obtain ⟨t, properties, items⟩ := shape
    rfl

end Shape

end ApiKinds
