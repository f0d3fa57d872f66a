/-
  Schemas that are written and read back.

  * `Facets.Storable`, `Schema.Storable`: what has to hold of a schema to be read back: counts
    of 64 bits, finite doubles, no `null` for a default, values in canonical form, and no member
    that makes it a reference.
  * `storable_readSchemaRef?`: so it is with all schemas that are read from regular values.
  * `Schema.fields`, `toJson_eq`: the members of a schema that is written.
  * `readSchemaRef?_write`: schemas that can be stored are read back as they were written.
-/
import ApiKinds.Api.Reading
import ApiKinds.Api.Writing
import ApiKinds.Proofs.Api.Schema
import ApiKinds.Proofs.Json.RoundTrip

namespace ApiKinds.Api

open Json

variable {unique : Prop}

/-! ## References -/

/-- No member is a reference. -/
def NoReference (members : List (String × Json)) : Prop :=
  ∀ m ∈ members, m.1 = "$ref" → m.2.string? = none

theorem noReference_of_known {known : List String} {members : List (String × Json)}
    (hkeys : (members.map (·.1)).Sublist known) (hknown : "$ref" ∉ known) : NoReference members :=
  fun _ hm hkey => absurd (hkey ▸ hkeys.subset (List.mem_map_of_mem hm)) hknown

theorem NoReference.append {members others : List (String × Json)} (h : NoReference members)
    (hothers : NoReference others) : NoReference (members ++ others) :=
  List.forall_mem_append.2 ⟨h, hothers⟩

theorem reference?_eq_none {members : List (String × Json)} (h : NoReference members) :
    reference? (.object members) = none := by
  rw [reference?, Option.bind_eq_bind, Option.bind_eq_none_iff]
  intro r hr
  rw [Record.required, Option.bind_eq_none_iff]
  intro value hvalue
  rw [Record.ofMembers?] at hr
  split at hr
  · cases hr
    exact h ("$ref", value) (List.mem_filter.1 (Entries.mem_of_get? hvalue)).1 rfl
  · cases hr

theorem noReference_of_reference? {members : List (String × Json)}
    (h : reference? (.object members) = none) (hnodup : (members.map (·.1)).Nodup) :
    NoReference members := by
  rintro ⟨_, value⟩ hm rfl
  have hkeys : ((members.filter (["$ref"].contains ·.1)).map (·.1)).Nodup :=
    (List.filter_sublist.map _).nodup hnodup
  have hget : Entries.get? "$ref" (members.filter (["$ref"].contains ·.1)) = some value :=
    Entries.get?_of_nodup hkeys (List.mem_filter.2 ⟨hm, rfl⟩)
  rw [reference?, Record.ofMembers?, if_pos hkeys] at h
  have hrequired : Record.required ⟨members.filter (["$ref"].contains ·.1)⟩ "$ref" string? =
      none := h
  rwa [Record.required, Record.find?, hget] at hrequired

/-! ## Schemas -/

/-- The facets that can be written and read back. -/
structure Facets.Storable (facets : Facets) : Prop where
  enum : ∀ v ∈ facets.enum, Kept v
  default : ∀ v ∈ facets.default, Kept v ∧ v.isNull = false
  minLength : ∀ n ∈ facets.minLength, Number.fits n
  maxLength : ∀ n ∈ facets.maxLength, Number.fits n
  minimum : ∀ x ∈ facets.minimum, x.isFinite
  maximum : ∀ x ∈ facets.maximum, x.isFinite
  minItems : ∀ n ∈ facets.minItems, Number.fits n
  maxItems : ∀ n ∈ facets.maxItems, Number.fits n
  extensions : Others Schema.fieldNames facets.extensions

/-- The schemas that can be written and, if `unique`, read back. -/
inductive Schema.Storable (unique : Prop) : RefOr Schema → Prop
  | ref {target} : Storable unique (.ref target)
  | inline {schema : Schema} : schema.toFacets.Storable →
      (unique → NoReference schema.extensions) → Entries.Sorted schema.properties →
      (∀ p ∈ schema.properties, Storable unique p.2) →
      (∀ part, schema.items = some part → Storable unique part) →
      (∀ part ∈ schema.allOf, Storable unique part) → Storable unique (.inline schema)

/-! ### Schemas that were read -/

theorem storable_facets {members : List (String × Json)}
    (hmembers : ∀ m ∈ members, Json.Regular unique m.2) :
    ∀ facets ∈ Facets.read? members,
      facets.Storable ∧ facets.extensions = otherMembers Schema.fieldNames members := by
  unfold Facets.read?
  refine forall_mem_bind fun r hr => ?_
  have hregular := regular_of_ofMembers? hr hmembers
  refine forall_mem_bind fun types _ => ?_
  refine forall_mem_bind fun format _ => ?_
  refine forall_mem_bind fun description _ => ?_
  refine forall_mem_bind fun required _ => ?_
  refine forall_mem_bind fun enum henum => ?_
  refine forall_mem_bind fun default hdefault => ?_
  refine forall_mem_bind fun nullable _ => ?_
  refine forall_mem_bind fun minLength hminLength => ?_
  refine forall_mem_bind fun maxLength hmaxLength => ?_
  refine forall_mem_bind fun minimum hminimum => ?_
  refine forall_mem_bind fun maximum hmaximum => ?_
  refine forall_mem_bind fun pattern _ => ?_
  refine forall_mem_bind fun minItems hminItems => ?_
  refine forall_mem_bind fun maxItems hmaxItems => ?_
  rintro _ ⟨⟩
  refine ⟨?_, rfl⟩
  exact {
    enum := hregular.list henum yields_any?
    default := hregular.withDefault hdefault yields_nullable_any? (by simp)
    minLength := hregular.optional hminLength yields_natural?
    maxLength := hregular.optional hmaxLength yields_natural?
    minimum := hregular.optional hminimum yields_double?
    maximum := hregular.optional hmaximum yields_double?
    minItems := hregular.optional hminItems yields_natural?
    maxItems := hregular.optional hmaxItems yields_natural?
    extensions := others_otherMembers _ _ }

theorem noReference_otherMembers {known : List String} {members : List (String × Json)}
    (h : NoReference members) : NoReference (otherMembers known members) := by
  intro m hm hkey
  obtain ⟨value, hmem, -, heq⟩ := exists_of_mem_otherMembers hm
  have hnone := h _ hmem hkey
  rw [heq]
  cases value with
  | string s => cases hnone
  | _ => rfl

theorem storable_assemble {facets : Option Facets}
    {properties : Option (List (String × RefOr Schema))}
    {items : Option (Option (RefOr Schema))} {allOf : Option (List (RefOr Schema))}
    (hfacets : ∀ f ∈ facets, f.Storable ∧ (unique → NoReference f.extensions))
    (hproperties : ∀ entries ∈ properties, ∀ p ∈ entries, Schema.Storable unique p.2)
    (hitems : ∀ o ∈ items, ∀ part ∈ o, Schema.Storable unique part)
    (hallOf : ∀ parts ∈ allOf, ∀ part ∈ parts, Schema.Storable unique part) :
    ∀ schema ∈ Schema.assemble? facets properties items allOf,
      Schema.Storable unique (.inline schema) := by
  unfold Schema.assemble?
  refine forall_mem_bind fun f hf => ?_
  refine forall_mem_bind fun entries hentries => ?_
  refine forall_mem_bind fun o ho => ?_
  refine forall_mem_bind fun parts hparts => ?_
  rintro _ ⟨⟩
  obtain ⟨hstorable, hplain⟩ := hfacets f hf
  exact .inline hstorable hplain (Entries.sorted_ofList entries)
    (fun p hp => hproperties entries hentries p (Entries.mem_of_mem_ofList hp))
    (hitems o ho) (hallOf parts hparts)

mutual
theorem storable_readSchemaRef? : ∀ value, Json.Regular unique value →
    ∀ schema ∈ readSchemaRef? value, Schema.Storable unique schema
  | .object members, .object hkeys hmembers => by
    rw [readSchemaRef?]
    cases hreference : reference? (.object members) with
    | some target =>
      rintro _ ⟨⟩
      exact .ref
    | none =>
      intro _ hinline
      obtain ⟨schema, hschema, rfl⟩ := Option.map_eq_some_iff.1 hinline
      refine storable_assemble (fun f hf => ?_) (storable_propertiesIn members hmembers)
        (storable_itemsIn members hmembers) (storable_allOfIn members hmembers) schema hschema
      obtain ⟨hstorable, hextensions⟩ := storable_facets hmembers f hf
      refine ⟨hstorable, fun hunique => ?_⟩
      rw [hextensions]
      exact noReference_otherMembers (noReference_of_reference? hreference (hkeys hunique))
  | .null, _ | .bool _, _ | .number _, _ | .string _, _ | .array _, _ => by
    rw [readSchemaRef?]
    · rintro _ ⟨⟩
    · rintro _ ⟨⟩

theorem storable_propertiesIn : ∀ members : List (String × Json),
    (∀ m ∈ members, Json.Regular unique m.2) →
      ∀ entries ∈ propertiesIn? members, ∀ p ∈ entries, Schema.Storable unique p.2
  | [], _ => by
    rintro _ ⟨⟩ _ ⟨⟩
  | (key, value) :: rest, hmembers => by
    obtain ⟨hvalue, hrest⟩ := List.forall_mem_cons.1 hmembers
    rw [propertiesIn?]
    split
    · exact storable_readProperties value hvalue
    · exact storable_propertiesIn rest hrest

theorem storable_itemsIn : ∀ members : List (String × Json),
    (∀ m ∈ members, Json.Regular unique m.2) →
      ∀ o ∈ itemsIn? members, ∀ part ∈ o, Schema.Storable unique part
  | [], _ => by
    rintro _ ⟨⟩ _ ⟨⟩
  | (key, value) :: rest, hmembers => by
    obtain ⟨hvalue, hrest⟩ := List.forall_mem_cons.1 hmembers
    rw [itemsIn?]
    split
    · split
      · rintro _ ⟨⟩ _ ⟨⟩
      · rintro _ ho part ⟨⟩
        obtain ⟨part, hpart, ⟨⟩⟩ := Option.map_eq_some_iff.1 ho
        exact storable_readSchemaRef? value hvalue part hpart
    · exact storable_itemsIn rest hrest

theorem storable_allOfIn : ∀ members : List (String × Json),
    (∀ m ∈ members, Json.Regular unique m.2) →
      ∀ parts ∈ allOfIn? members, ∀ part ∈ parts, Schema.Storable unique part
  | [], _ => by
    rintro _ ⟨⟩ _ ⟨⟩
  | (key, value) :: rest, hmembers => by
    obtain ⟨hvalue, hrest⟩ := List.forall_mem_cons.1 hmembers
    rw [allOfIn?]
    split
    · exact storable_readAllOf value hvalue
    · exact storable_allOfIn rest hrest

theorem storable_readProperties : ∀ value, Json.Regular unique value →
    ∀ entries ∈ readProperties? value, ∀ p ∈ entries, Schema.Storable unique p.2
  | .object members, .object _ hmembers => by
    rw [readProperties?]
    exact storable_readEntries members hmembers
  | .null, _ | .bool _, _ | .number _, _ | .string _, _ | .array _, _ => by
    rw [readProperties?]
    · rintro _ ⟨⟩
    · rintro _ ⟨⟩

theorem storable_readAllOf : ∀ value, Json.Regular unique value →
    ∀ parts ∈ readAllOf? value, ∀ part ∈ parts, Schema.Storable unique part
  | .array items, .array hitems => by
    rw [readAllOf?]
    exact storable_readList items hitems
  | .null, _ | .bool _, _ | .number _, _ | .string _, _ | .object _, _ => by
    rw [readAllOf?]
    · rintro _ ⟨⟩
    · rintro _ ⟨⟩

theorem storable_readEntries : ∀ members : List (String × Json),
    (∀ m ∈ members, Json.Regular unique m.2) →
      ∀ entries ∈ readEntries? members, ∀ p ∈ entries, Schema.Storable unique p.2
  | [], _ => by
    rintro _ ⟨⟩ _ ⟨⟩
  | (key, value) :: rest, hmembers => by
    obtain ⟨hvalue, hrest⟩ := List.forall_mem_cons.1 hmembers
    rw [readEntries?]
    refine forall_mem_bind fun schema hschema => ?_
    refine forall_mem_bind fun entries hentries => ?_
    rintro _ ⟨⟩
    exact List.forall_mem_cons.2 ⟨storable_readSchemaRef? value hvalue schema hschema,
      storable_readEntries rest hrest entries hentries⟩

theorem storable_readList : ∀ items : List Json, (∀ item ∈ items, Json.Regular unique item) →
    ∀ parts ∈ readList? items, ∀ part ∈ parts, Schema.Storable unique part
  | [], _ => by
    rintro _ ⟨⟩ _ ⟨⟩
  | value :: rest, hitems => by
    obtain ⟨hvalue, hrest⟩ := List.forall_mem_cons.1 hitems
    rw [readList?]
    refine forall_mem_bind fun schema hschema => ?_
    refine forall_mem_bind fun schemas hschemas => ?_
    rintro _ ⟨⟩
    exact List.forall_mem_cons.2 ⟨storable_readSchemaRef? value hvalue schema hschema,
      storable_readList rest hrest schemas hschemas⟩
end

/-! ### Schemas that are read back -/

/-- The known members of a schema with their values, of which those are written that are
    present. -/
def Schema.fields (schema : Schema) : List (String × Option Json) :=
  [("type", filled (.ofList .string) schema.types),
    ("format", schema.format.map .string),
    ("description", schema.description.map .string),
    ("properties", filled (fun entries => .object (writeEntries entries)) schema.properties),
    ("required", filled (.ofList .string) schema.required),
    ("items", schema.items.map writeSchemaRef),
    ("allOf", filled (fun parts => .array (writeList parts)) schema.allOf),
    ("enum", filled (.ofList id) schema.enum),
    ("default", schema.default),
    ("nullable", if schema.nullable then some (.bool true) else none),
    ("minLength", schema.minLength.map .ofNat),
    ("maxLength", schema.maxLength.map .ofNat),
    ("minimum", schema.minimum.map .ofDouble),
    ("maximum", schema.maximum.map .ofDouble),
    ("pattern", schema.pattern.map .string),
    ("minItems", schema.minItems.map .ofNat),
    ("maxItems", schema.maxItems.map .ofNat)]

/-- The known members of a schema that are written. -/
def Schema.known (schema : Schema) : List (String × Json) :=
  written schema.fields

theorem present_eq {α : Type} (name : String) (write : α → Json) (o : Option α) :
    present name write o = ((o.map write).map (name, ·)).toList := by
  cases o <;> rfl

theorem toJson_eq (schema : Schema) :
    schema.toJson = .object (schema.known ++ schema.extensions) := by
  have hfilled (c : Bool) (name : String) (value : Json) : (if c then [] else [(name, value)]) =
      ((if c then none else some value).map (name, ·)).toList := by cases c <;> rfl
  have hflag (c : Bool) (name : String) (value : Json) : (if c then [(name, value)] else []) =
      ((if c then some value else none).map (name, ·)).toList := by cases c <;> rfl
  obtain ⟨facets, properties, items, allOf⟩ := schema
  rw [Schema.known, written, Schema.fields, List.filterMap_eq_flatMap_toList]
  cases items <;>
    simp only [Schema.toJson, Facets.leading, Facets.trailing, List.flatMap_cons, List.flatMap_nil,
      present_eq, nonempty, hfilled, hflag, filled, Option.map_id, List.append_assoc,
      List.append_nil, Option.map_none, Option.map_some, Option.toList_none, Option.toList_some,
      List.nil_append, id_eq]

section
variable (schema : Schema)

theorem keys_known : (schema.known.map (·.1)).Sublist Schema.fieldNames :=
  sublist_keys_written schema.fields

theorem get?_known {name : String} {value : Option Json}
    (h : Entries.get? name schema.fields = some value) :
    Entries.get? name schema.known = value := by
  have hkeys : (schema.fields.map (·.1)).Nodup := (by decide : Schema.fieldNames.Nodup)
  exact get?_written hkeys h

theorem types?_ofList (types : List String) : types? (.ofList .string types) = some types := by
  rw [ofList, types?]
  · exact listOf?_ofList fun _ _ => rfl
  · rintro _ ⟨⟩

theorem facets_read? (h : schema.toFacets.Storable) :
    Facets.read? (schema.known ++ schema.extensions) = some schema.toFacets := by
  have hothers : otherMembers Schema.fieldNames (schema.known ++ schema.extensions) =
      schema.extensions :=
    otherMembers_append (fun m hm => (keys_known schema).subset (List.mem_map_of_mem hm))
      h.extensions
  have hfind {name : String} {value : Option Json}
      (hfield : Entries.get? name schema.fields = some value) :
      Record.find? ⟨schema.known⟩ name = value := get?_known schema hfield
  have htext {name : String} {o : Option String}
      (hfield : Entries.get? name schema.fields = some (o.map .string)) :
      Record.optional ⟨schema.known⟩ name string? = some o :=
    Record.optional_present (hfind hfield) (fun _ _ => rfl) fun _ _ => rfl
  have hdouble {name : String} {o : Option Binary64}
      (hfield : Entries.get? name schema.fields = some (o.map .ofDouble))
      (hfinite : ∀ x ∈ o, x.isFinite) : Record.optional ⟨schema.known⟩ name double? = some o := by
    have hread (x) (hx : x ∈ o) := double?_ofDouble (hfinite x hx)
    exact Record.optional_present (hfind hfield) (fun x hx => isNull_eq_false rfl (hread x hx))
      hread
  have hcount {name : String} {o : Option Nat}
      (hfield : Entries.get? name schema.fields = some (o.map .ofNat))
      (hfits : ∀ n ∈ o, Number.fits n) :
      Record.optional ⟨schema.known⟩ name natural? = some o := by
    have hread (n) (hn : n ∈ o) := natural?_ofNat (hfits n hn)
    exact Record.optional_present (hfind hfield) (fun n hn => isNull_eq_false rfl (hread n hn))
      hread
  have hdefault : Record.find? ⟨schema.known⟩ "default" = schema.default.map id := by
    rw [Option.map_id]
    exact hfind rfl
  unfold Facets.read?
  refine bind_eq_some (ofMembers?_append (keys_known schema) (by decide) h.extensions) ?_
  refine bind_eq_some (Record.withDefault_filled (hfind rfl) (types?_ofList schema.types)) ?_
  refine bind_eq_some (htext rfl) ?_
  refine bind_eq_some (htext rfl) ?_
  refine bind_eq_some
    (Record.withDefault_filled (hfind rfl) (listOf?_ofList fun _ _ => rfl)) ?_
  refine bind_eq_some (Record.withDefault_filled (hfind rfl)
    (listOf?_ofList fun v hv => any?_of_isCanonical (h.enum v hv).isCanonical)) ?_
  refine bind_eq_some (Record.optional_present hdefault (fun v hv => (h.default v hv).2)
    fun v hv => any?_of_isCanonical (h.default v hv).1.isCanonical) ?_
  refine bind_eq_some (Record.flag_raised (hfind rfl)) ?_
  refine bind_eq_some (hcount rfl h.minLength) ?_
  refine bind_eq_some (hcount rfl h.maxLength) ?_
  refine bind_eq_some (hdouble rfl h.minimum) ?_
  refine bind_eq_some (hdouble rfl h.maximum) ?_
  refine bind_eq_some (htext rfl) ?_
  refine bind_eq_some (hcount rfl h.minItems) ?_
  refine bind_eq_some (hcount rfl h.maxItems) ?_
  rw [hothers]

end

/-! The schemas inside a schema are looked up by their keywords. -/

theorem propertiesIn?_eq (members : List (String × Json)) :
    propertiesIn? members = (Entries.get? "properties" members).elim (some []) readProperties? := by
  induction members with
  | nil => rw [propertiesIn?]; rfl
  | cons m rest ih =>
    rw [propertiesIn?, Entries.get?, ih]
    by_cases hkey : m.1 = "properties"
    · rw [if_pos hkey, if_pos hkey.symm]
      rfl
    · rw [if_neg hkey, if_neg (Ne.symm hkey)]

theorem itemsIn?_eq (members : List (String × Json)) :
    itemsIn? members =
      (Entries.get? "items" members).elim (some none) (nullable? readSchemaRef?) := by
  induction members with
  | nil => rw [itemsIn?]; rfl
  | cons m rest ih =>
    rw [itemsIn?, Entries.get?, ih]
    by_cases hkey : m.1 = "items"
    · rw [if_pos hkey, if_pos hkey.symm]
      rfl
    · rw [if_neg hkey, if_neg (Ne.symm hkey)]

theorem allOfIn?_eq (members : List (String × Json)) :
    allOfIn? members = (Entries.get? "allOf" members).elim (some []) readAllOf? := by
  induction members with
  | nil => rw [allOfIn?]; rfl
  | cons m rest ih =>
    rw [allOfIn?, Entries.get?, ih]
    by_cases hkey : m.1 = "allOf"
    · rw [if_pos hkey, if_pos hkey.symm]
      rfl
    · rw [if_neg hkey, if_neg (Ne.symm hkey)]

theorem readEntries?_writeEntries {entries : List (String × RefOr Schema)}
    (h : ∀ p ∈ entries, readSchemaRef? (writeSchemaRef p.2) = some p.2) :
    readEntries? (writeEntries entries) = some entries := by
  induction entries with
  | nil => rw [writeEntries, readEntries?]
  | cons p rest ih =>
    obtain ⟨hp, hrest⟩ := List.forall_mem_cons.1 h
    rw [writeEntries, readEntries?]
    exact bind_eq_some hp (bind_eq_some (ih hrest) rfl)

theorem readList?_writeList {schemas : List (RefOr Schema)}
    (h : ∀ schema ∈ schemas, readSchemaRef? (writeSchemaRef schema) = some schema) :
    readList? (writeList schemas) = some schemas := by
  induction schemas with
  | nil => rw [writeList, readList?]
  | cons schema rest ih =>
    obtain ⟨hschema, hrest⟩ := List.forall_mem_cons.1 h
    rw [writeList, readList?]
    exact bind_eq_some hschema (bind_eq_some (ih hrest) rfl)

/-- A schema that can be stored is read back as it was written. -/
theorem readSchemaRef?_write {unique : Prop} (hunique : unique) {schema : RefOr Schema}
    (h : Schema.Storable unique schema) :
    readSchemaRef? (writeSchemaRef schema) = some schema := by
  induction h with
  | ref => rfl
  | @inline schema hfacets hplain hsorted _ _ _ hproperties hitems hmembers =>
    have hget {name : String} {value : Option Json} (hname : name ∈ Schema.fieldNames)
        (hfield : Entries.get? name schema.fields = some value) :
        Entries.get? name (schema.known ++ schema.extensions) = value := by
      have hnone : Entries.get? name schema.extensions = none :=
        Entries.get?_eq_none_of_not_mem fun m hm heq =>
          hfacets.extensions.unknown m hm (heq ▸ hname)
      rw [Entries.get?_append, hnone, get?_known schema hfield, Option.or_none]
    have hreference : reference? (.object (schema.known ++ schema.extensions)) = none :=
      reference?_eq_none
        ((noReference_of_known (keys_known schema) (by decide)).append (hplain hunique))
    have hproperties' : propertiesIn? (schema.known ++ schema.extensions) =
        some schema.properties := by
      rw [propertiesIn?_eq, hget (by decide) rfl]
      exact elim_filled (readEntries?_writeEntries hproperties)
    have hitems' : itemsIn? (schema.known ++ schema.extensions) = some schema.items := by
      rw [itemsIn?_eq, hget (by decide) rfl]
      exact elim_map (fun part hpart => isNull_eq_false rfl (hitems part hpart)) hitems
    have hmembers' : allOfIn? (schema.known ++ schema.extensions) = some schema.allOf := by
      rw [allOfIn?_eq, hget (by decide) rfl]
      exact elim_filled (readList?_writeList hmembers)
    rw [writeSchemaRef, toJson_eq, readSchemaRef?, hreference, facets_read? schema hfacets,
      hproperties', hitems', hmembers']
    simp only [Schema.assemble?, Option.bind_eq_bind, Option.bind_some,
      Entries.ofList_eq_self hsorted, Option.map_some]
    obtain ⟨facets, properties, items, allOf⟩ := schema
    rfl

end ApiKinds.Api
