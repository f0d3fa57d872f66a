/-
  JSON values as they are held in memory, and values in canonical form.

  * `Json.induction`: what holds of a value whenever it holds of the values in it, holds of all.
  * `Json.Regular`: the integers of a value have 64 bits and its doubles are finite; if
    `unique`, no object has a key twice.
  * `Json.IsCanonical`: the members of every object stand in key order, each key once.
  * `Json.Kept`: a regular value in this form; `kept_canonical`: such is the canonical form of
    any regular value.
-/
import ApiKinds.Json.Basic
import ApiKinds.Proofs.Decimal
import ApiKinds.Proofs.Dict

namespace ApiKinds.Json

/-! ## Induction -/

theorem sizeOf_snd_lt_of_mem {members : List (String × Json)} {m : String × Json} (h : m ∈ members) :
    sizeOf m.2 < sizeOf members := by
  have hmember : sizeOf m < sizeOf members := List.sizeOf_lt_of_mem h
  obtain ⟨key, value⟩ := m
  simp only [Prod.mk.sizeOf_spec] at hmember ⊢
  omega

/-- What holds of values without parts, and of a list or an object whenever it holds of the
    values in it, holds of all values. -/
@[elab_as_elim]
theorem induction {motive : Json → Prop} (null : motive .null) (bool : ∀ b, motive (.bool b))
    (number : ∀ n, motive (.number n)) (string : ∀ s, motive (.string s))
    (array : ∀ items, (∀ item ∈ items, motive item) → motive (.array items))
    (object : ∀ members : List (String × Json), (∀ m ∈ members, motive m.2) →
      motive (.object members)) : ∀ value, motive value
  | .null => null
  | .bool b => bool b
  | .number n => number n
  | .string s => string s
  | .array items => array items fun item _ => induction null bool number string array object item
  | .object members =>
    object members fun m _ => induction null bool number string array object m.2
termination_by value => sizeOf value
decreasing_by
  · have := List.sizeOf_lt_of_mem (by assumption)
    simp only [Json.array.sizeOf_spec]
    omega
  · have := sizeOf_snd_lt_of_mem (by assumption)
    simp only [Json.object.sizeOf_spec]
    omega

/-! ## Regular values -/

/-- A value with integers of 64 bits and finite doubles and, if `unique`, with no key twice in an
    object. -/
inductive Regular (unique : Prop) : Json → Prop
  | null : Regular unique .null
  | bool {b} : Regular unique (.bool b)
  | int {i} : Number.fits i → Regular unique (.number (.int i))
  | real {x} : Binary64.isFinite x → Regular unique (.number (.real x))
  | string {s} : Regular unique (.string s)
  | array {items} : (∀ item ∈ items, Regular unique item) → Regular unique (.array items)
  | object {members} : (unique → (members.map (·.1)).Nodup) →
      (∀ m ∈ members, Regular unique m.2) → Regular unique (.object members)

section
variable {unique : Prop}

theorem ofInt_of_fits {i : Int} (h : Number.fits i) : ofInt i = .number (.int i) := by
  rw [ofInt, if_pos h]

theorem ofDouble_of_isFinite {x : Binary64} (h : x.isFinite) : ofDouble x = .number (.real x) := by
  rw [ofDouble, if_pos h]

theorem regular_ofDouble (x : Binary64) : Regular unique (ofDouble x) := by
  rw [ofDouble]
  split
  · next hfinite => exact .real hfinite
  · exact .null

end

/-! ## Canonical values -/

theorem canonicalItems_eq (items : List Json) : canonicalItems items = items.map canonical := by
  induction items with
  | nil => rfl
  | cons item rest ih => rw [canonicalItems, ih, List.map_cons]

theorem canonicalMembers_eq (members : List (String × Json)) :
    canonicalMembers members = members.map fun m => (m.1, m.2.canonical) := by
  induction members with
  | nil => rfl
  | cons m rest ih => rw [canonicalMembers, ih, List.map_cons]

/-- A value that is its own canonical form. -/
inductive IsCanonical : Json → Prop
  | null : IsCanonical .null
  | bool {b} : IsCanonical (.bool b)
  | number {n} : IsCanonical (.number n)
  | string {s} : IsCanonical (.string s)
  | array {items} : (∀ item ∈ items, IsCanonical item) → IsCanonical (.array items)
  | object {members} : Entries.Sorted members → (∀ m ∈ members, IsCanonical m.2) →
      IsCanonical (.object members)

theorem IsCanonical.eq {value : Json} (h : IsCanonical value) : value.canonical = value := by
  induction h with
  | null | bool | number | string => rw [canonical]
  | array _ ih =>
    rw [canonical, canonicalItems_eq, List.map_congr_left ih, List.map_id']
  | @object members hsorted _ ih =>
    have hmembers (m) (hm : m ∈ members) : (m.1, m.2.canonical) = m := by rw [ih m hm]
    rw [canonical, canonicalMembers_eq, List.map_congr_left hmembers, List.map_id',
      Entries.ofList_eq_self hsorted]

theorem isCanonical_canonical (value : Json) : IsCanonical value.canonical := by
  induction value using Json.induction with
  | null | bool | number | string =>
    rw [canonical]
    constructor
  | array items ih =>
    rw [canonical, canonicalItems_eq]
    exact .array (List.forall_mem_map.2 ih)
  | object members ih =>
    rw [canonical, canonicalMembers_eq]
    refine .object (Entries.sorted_ofList _) fun m hm => ?_
    obtain ⟨source, hsource, rfl⟩ := List.mem_map.1 (Entries.mem_of_mem_ofList hm)
    exact ih source hsource

/-! ## Kept values -/

/-- A value as it is kept when it is read: regular, and in canonical form. -/
structure Kept (value : Json) : Prop where
  isCanonical : IsCanonical value
  regular : Regular True value

theorem regular_canonical {unique : Prop} {value : Json} (h : Regular unique value) :
    Regular True value.canonical := by
  induction h with
  | null | bool | string =>
    rw [canonical]
    constructor
  | int hfits =>
    rw [canonical]
    exact .int hfits
  | real hfinite =>
    rw [canonical]
    exact .real hfinite
  | array _ ih =>
    rw [canonical, canonicalItems_eq]
    exact .array (List.forall_mem_map.2 ih)
  | object _ _ ih =>
    rw [canonical, canonicalMembers_eq]
    refine .object (fun _ => Entries.nodup_keys_of_sorted (Entries.sorted_ofList _)) fun m hm => ?_
    obtain ⟨source, hsource, rfl⟩ := List.mem_map.1 (Entries.mem_of_mem_ofList hm)
    exact ih source hsource

theorem kept_canonical {unique : Prop} {value : Json} (h : Regular unique value) :
    Kept value.canonical :=
  ⟨isCanonical_canonical value, regular_canonical h⟩

end ApiKinds.Json
