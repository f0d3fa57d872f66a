/-
  The values that bytes hold are regular.

  * `regular_of_readWith?`: so it is with JSON, though its objects may have a key twice.
  * `Yaml.Value.Short`: the integers of a YAML value have 64 bits, as those of every value that is
    read do (`Yaml.short_of_read?`); its doubles may be infinite, but that is lost in JSON.
  * `regular_of_jsonOfYaml`: so the JSON that a YAML text stands for is regular, and has every key
    once.
  * `Swagger.regular_listTypes`: putting type names into lists keeps a value regular.
-/
import ApiKinds.Proofs.Json.RoundTrip
import ApiKinds.Proofs.Swagger.TypeList
import ApiKinds.Proofs.Yaml.ToJson
import ApiKinds.Source

namespace ApiKinds

/-! ## JSON -/

namespace Json

theorem regular_of_numeral {unique : Prop} {numeral : Numeral} {n : Number}
    (h : numeral.value? = some n) : Regular unique (.number n) := by
  cases numeral with
  | integer negative magnitude =>
    simp only [Numeral.value?] at h
    generalize (if negative then -(magnitude : Int) else magnitude) = i at h
    split at h
    · next hfits =>
      cases h
      exact .int (Bool.and_eq_true_iff.1 hfits).1
    · obtain ⟨x, hx, rfl⟩ := Option.map_eq_some_iff.1 h
      exact .real (Binary64.isFinite_of_ofDecimal? hx)
  | decimal value =>
    obtain ⟨x, hx, rfl⟩ := Option.map_eq_some_iff.1 h
    exact .real (Binary64.isFinite_of_ofDecimal? hx)

section
variable {σ : Type} (layout : Layout σ)

namespace Written

mutual
theorem regular_of_value? : ∀ (written : Written) (position : σ) (depth : Nat),
    ∀ value ∈ written.value? layout position depth, Regular False value
  | .null, _, _ => by
    rintro _ ⟨⟩
    exact .null
  | .bool _, _, _ => by
    rintro _ ⟨⟩
    exact .bool
  | .number numeral, _, _ => by
    intro _ h
    rw [value?] at h
    obtain ⟨n, hn, rfl⟩ := Option.map_eq_some_iff.1 h
    exact regular_of_numeral hn
  | .string body, _, _ => by
    intro _ h
    rw [value?] at h
    obtain ⟨s, -, rfl⟩ := Option.map_eq_some_iff.1 h
    exact .string
  | .array items, position, depth => by
    intro _ h
    cases depth with
    | zero => cases h
    | succ depth =>
      obtain ⟨values, hvalues, rfl⟩ := Option.map_eq_some_iff.1 h
      exact .array (regular_of_itemValues? items position depth 0 values hvalues)
  | .object members, position, depth => by
    intro _ h
    cases depth with
    | zero => cases h
    | succ depth =>
      obtain ⟨values, hvalues, rfl⟩ := Option.map_eq_some_iff.1 h
      exact .object False.elim (regular_of_memberValues? members position depth values hvalues)

theorem regular_of_itemValues? : ∀ (items : List Written) (position : σ) (depth index : Nat),
    ∀ values ∈ itemValues? layout position depth index items,
      ∀ value ∈ values, Regular False value
  | [], _, _, _ => by
    rintro _ ⟨⟩ _ ⟨⟩
  | item :: rest, position, depth, index => by
    rw [itemValues?]
    refine forall_mem_bind fun value hvalue => ?_
    refine forall_mem_bind fun values hvalues => ?_
    rintro _ ⟨⟩
    exact List.forall_mem_cons.2 ⟨regular_of_value? item _ depth value hvalue,
      regular_of_itemValues? rest position depth _ values hvalues⟩

theorem regular_of_memberValues? : ∀ (members : List (List UInt8 × Written)) (position : σ)
    (depth : Nat), ∀ values ∈ memberValues? layout position depth members,
      ∀ m ∈ values, Regular False m.2
  | [], _, _ => by
    rintro _ ⟨⟩ _ ⟨⟩
  | (body, member) :: rest, position, depth => by
    rw [memberValues?]
    refine forall_mem_bind fun key _ => ?_
    split
    · exact regular_of_memberValues? rest position depth
    · refine forall_mem_bind fun value hvalue => ?_
      refine forall_mem_bind fun values hvalues => ?_
      rintro _ ⟨⟩
      exact List.forall_mem_cons.2 ⟨regular_of_value? member _ depth value hvalue,
        regular_of_memberValues? rest position depth values hvalues⟩
end

end Written

theorem regular_of_readWith? {start : σ} {bytes : List UInt8} {value : Json}
    (h : readWith? layout start bytes = some value) : Regular False value := by
  obtain ⟨written, -, hvalue⟩ := Option.bind_eq_some_iff.1 h
  exact written.regular_of_value? layout start maxDepth value hvalue

end

end Json

/-! ## YAML -/

namespace Yaml

/-- A value with integers of 64 bits; its keys may be any. -/
inductive Value.Short : Value → Prop
  | null : Short .null
  | bool {b} : Short (.bool b)
  | int {i} : Json.Number.fits i → Short (.number (.int i))
  | real {x} : Short (.number (.real x))
  | string {s} : Short (.string s)
  | sequence {items} : (∀ item ∈ items, Short item) → Short (.sequence items)
  | mapping {pairs} : (∀ p ∈ pairs, Short p.2) → Short (.mapping pairs)
  | tagged {tag value} : Short value → Short (.tagged tag value)

theorem short_of_shortInteger? {i : Int} : ∀ value ∈ shortInteger? i, value.Short := by
  intro value h
  rw [shortInteger?] at h
  split at h
  · next hfits =>
    cases h
    exact .int hfits
  · cases h

theorem short_otherValue (s : String) : (otherValue s).Short := by
  rw [otherValue]
  split
  · exact .string
  split
  · exact .real
  · exact .string

theorem short_of_plainValue? (s : String) : ∀ value ∈ plainValue? s, value.Short := by
  intro value h
  rw [plainValue?] at h
  split at h
  · cases h
    exact .null
  split at h
  · cases h
    exact .bool
  split at h
  · exact short_of_shortInteger? value h
  · cases h
    exact short_otherValue s

theorem short_of_untaggedValue? (s : Scalar) : ∀ value ∈ untaggedValue? s, value.Short := by
  intro value h
  rw [untaggedValue?] at h
  split at h
  · exact short_of_plainValue? s.text value h
  · cases h
    exact .string

theorem Value.Short.withTag {value : Value} (h : value.Short) (tag : Option String) :
    (Yaml.withTag tag value).Short := by
  rw [Yaml.withTag]
  split
  · exact h
  · exact .tagged h

theorem short_of_typedValue? (tag text : String) : ∀ value ∈ typedValue? tag text, value.Short := by
  intro value h
  rw [typedValue?] at h
  split at h
  · obtain ⟨b, -, rfl⟩ := Option.map_eq_some_iff.1 h
    exact .bool
  split at h
  · obtain ⟨i, -, hi⟩ := Option.bind_eq_some_iff.1 h
    exact short_of_shortInteger? value hi
  split at h
  · obtain ⟨x, -, rfl⟩ := Option.map_eq_some_iff.1 h
    exact .real
  split at h
  · split at h
    · cases h
      exact .null
    · cases h
  · cases h
    exact .string

theorem short_of_scalarValue? (s : Scalar) : ∀ value ∈ scalarValue? s, value.Short := by
  intro value h
  rw [scalarValue?] at h
  split at h
  · exact short_of_untaggedValue? s value h
  split at h
  · obtain ⟨plain, hplain, rfl⟩ := Option.map_eq_some_iff.1 h
    exact (short_of_untaggedValue? s plain hplain).withTag s.tag
  · exact short_of_typedValue? _ _ value h

/-- The values of aliases have only such integers. -/
def ShortAliases (enter : Nat → Nat → Nat → Option (Value × Nat)) : Prop :=
  ∀ number depth jumps, ∀ found ∈ enter number depth jumps, found.1.Short

section
variable {enter : Nat → Nat → Nat → Option (Value × Nat)}

mutual
theorem short_of_value? (henter : ShortAliases enter) : ∀ (node : Node) (depth jumps : Nat),
    ∀ found ∈ node.value? enter depth jumps, found.1.Short
  | .alias number, depth, jumps => by
    rw [Node.value?]
    exact henter number depth jumps
  | .scalar s, _, _ => by
    intro _ h
    rw [Node.value?] at h
    obtain ⟨value, hvalue, rfl⟩ := Option.map_eq_some_iff.1 h
    exact short_of_scalarValue? s value hvalue
  | .sequence tag items, 0, _ => by
    rintro _ ⟨⟩
  | .sequence tag items, depth + 1, jumps => by
    rw [Node.value?]
    refine forall_mem_bind fun found hfound => ?_
    rintro _ ⟨⟩
    have hitems := short_of_itemValues? henter items depth jumps found hfound
    exact (Value.Short.sequence hitems).withTag tag
  | .mapping tag pairs, 0, _ => by
    rintro _ ⟨⟩
  | .mapping tag pairs, depth + 1, jumps => by
    rw [Node.value?]
    refine forall_mem_bind fun found hfound => ?_
    rintro _ ⟨⟩
    have hpairs := short_of_pairValues? henter pairs depth jumps [] found hfound
    exact (Value.Short.mapping hpairs).withTag tag

theorem short_of_itemValues? (henter : ShortAliases enter) : ∀ (items : List Node)
    (depth jumps : Nat), ∀ found ∈ itemValues? enter depth jumps items,
      ∀ value ∈ found.1, value.Short
  | [], _, _ => by
    rintro _ ⟨⟩ _ ⟨⟩
  | item :: rest, depth, jumps => by
    rw [itemValues?]
    refine forall_mem_bind fun first hfirst => ?_
    refine forall_mem_bind fun others hothers => ?_
    rintro _ ⟨⟩
    exact List.forall_mem_cons.2 ⟨short_of_value? henter item depth jumps first hfirst,
      short_of_itemValues? henter rest depth first.2 others hothers⟩

theorem short_of_pairValues? (henter : ShortAliases enter) : ∀ (pairs : List (Node × Node))
    (depth jumps : Nat) (seen : List Value), ∀ found ∈ pairValues? enter depth jumps seen pairs,
      ∀ p ∈ found.1, p.2.Short
  | [], _, _, _ => by
    rintro _ ⟨⟩ _ ⟨⟩
  | (key, value) :: rest, depth, jumps, seen => by
    rw [pairValues?]
    refine forall_mem_bind fun ⟨k, jumps⟩ _ => ?_
    dsimp only
    split
    · rintro _ ⟨⟩
    · refine forall_mem_bind fun second hsecond => ?_
      refine forall_mem_bind fun others hothers => ?_
      rintro _ ⟨⟩
      exact List.forall_mem_cons.2 ⟨short_of_value? henter value depth jumps second hsecond,
        short_of_pairValues? henter rest depth second.2 _ others hothers⟩
end

end

theorem shortAliases_aliasValue? (doc : Document) (levels : Nat) :
    ShortAliases (doc.aliasValue? levels) := by
  induction levels with
  | zero =>
    rintro _ _ _ _ ⟨⟩
  | succ levels ih =>
    intro number depth jumps
    cases jumps with
    | zero => rintro _ ⟨⟩
    | succ jumps =>
      rw [Document.aliasValue?]
      exact forall_mem_bind fun node _ => short_of_value? ih node depth jumps

/-- The integers of a value that is read have 64 bits. -/
theorem short_of_read? {bytes : List UInt8} : ∀ value ∈ Value.read? bytes, value.Short := by
  refine forall_mem_bind fun found _ => ?_
  cases found with
  | none =>
    rintro _ ⟨⟩
    exact .null
  | some doc =>
    intro value h
    obtain ⟨root, hroot, rfl⟩ := Option.map_eq_some_iff.1 h
    exact short_of_value? (shortAliases_aliasValue? doc _) doc.root _ _ root hroot

/-! ### YAML as JSON -/

open Json Value in
theorem regular_toJson {unique : Prop} {value : Value} (h : value.Short) :
    Regular unique value.toJson := by
  induction h with
  | null | bool | string =>
    rw [toJson]
    constructor
  | int hfits =>
    rw [toJson, jsonNumber_of_fits hfits]
    exact .int hfits
  | real => exact regular_ofDouble _
  | sequence _ ih =>
    rw [toJson, itemsToJson_eq]
    exact .array (List.forall_mem_map.2 ih)
  | mapping _ ih =>
    rw [toJson, pairsToJson_eq]
    refine .object (fun _ => Entries.nodup_keys_of_sorted (Entries.sorted_ofList _)) fun m hm => ?_
    obtain ⟨p, hp, rfl⟩ := List.mem_map.1 (Entries.mem_of_mem_ofList hm)
    exact ih p hp
  | tagged _ ih =>
    rw [toJson]
    exact ih

end Yaml

theorem regular_of_jsonOfYaml {unique : Prop} {bytes : List UInt8} {value : Json}
    (h : jsonOfYaml bytes = .ok value) : value.Regular unique := by
  rw [jsonOfYaml] at h
  split at h
  · next source hsource =>
    cases h
    exact Yaml.regular_toJson (Yaml.short_of_read? source hsource)
  · cases h

theorem Swagger.regular_listTypes {unique : Prop} {value : Json} (h : value.Regular unique) :
    (listTypes value).Regular unique := by
  induction h with
  | null => exact .null
  | bool => exact .bool
  | int hfits => exact .int hfits
  | real hfinite => exact .real hfinite
  | string => exact .string
  | array _ ih =>
    rw [listTypes, listTypesIn_eq]
    exact .array (List.forall_mem_map.2 ih)
  | object hkeys hmembers ih =>
    rw [listTypes, listTypesOf_eq]
    refine .object (fun hunique => ?_) (List.forall_mem_map.2 fun m hm => ?_)
    · rw [List.map_map]
      exact hkeys hunique
    · rw [listed]
      split
      · exact .array (List.forall_mem_singleton.2 (hmembers m hm))
      · exact ih m hm

end ApiKinds
