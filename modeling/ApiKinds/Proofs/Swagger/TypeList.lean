/-
  Reading values whose type names have been put into lists.

  * `listed`: what becomes of the value of a member.
  * `canonical_listTypes`: listing and sorting go together.
  * `listTypes_eq_self_iff`: a value stays the same just if it has no type name, which
    `NamesType` says without computing.
  * `Follows`: what a reader reads from a value it reads, changed by some function, from the
    value with its type names listed; `Follows.listOf` and its like say so of lists and maps,
    `Listed` of the fields of records.
-/
import ApiKinds.Api.Reading
import ApiKinds.Proofs.Json.Value
import ApiKinds.Swagger.TypeList

namespace ApiKinds

namespace Swagger

open Json Api

/-! ## Values -/

/-- The value of a member with its type names listed. -/
def listed (key : String) (value : Json) : Json :=
  if isTypeName key value then .array [value] else listTypes value

theorem listTypesOf_eq (members : List (String × Json)) :
    listTypesOf members = members.map fun m => (m.1, listed m.1 m.2) := by
  induction members with
  | nil => rfl
  | cons m rest ih => rw [listTypesOf, ih]; rfl

theorem listTypesIn_eq (items : List Json) : listTypesIn items = items.map listTypes := by
  induction items with
  | nil => rfl
  | cons item rest ih => rw [listTypesIn, ih]; rfl

theorem listed_of_ne {key : String} (h : key ≠ "type") (value : Json) :
    listed key value = listTypes value := by
  simp [listed, isTypeName, h]

theorem isTypeName_canonical (key : String) (value : Json) :
    isTypeName key value.canonical = isTypeName key value := by
  cases value <;> rfl

theorem isTypeName_iff {key : String} {value : Json} :
    isTypeName key value ↔ key = "type" ∧ ∃ name, value = .string name := by
  cases value <;> simp [isTypeName]

/-- The type names of a value in key order are those of the value. -/
theorem canonical_listTypes (value : Json) :
    (listTypes value).canonical = listTypes value.canonical := by
  induction value using Json.induction with
  | null | bool | number | string => rfl
  | array items ih =>
    rw [listTypes, canonical, canonical, listTypes, canonicalItems_eq, canonicalItems_eq,
      listTypesIn_eq, listTypesIn_eq, List.map_map, List.map_map, array.injEq]
    exact List.map_congr_left ih
  | object members ih =>
    have hmembers (m) (hm : m ∈ members) :
        (listed m.1 m.2).canonical = listed m.1 m.2.canonical := by
      rw [listed, listed, isTypeName_canonical]
      cases htype : isTypeName m.1 m.2 with
      | false => exact ih m hm
      | true =>
        obtain ⟨-, name, hname⟩ := isTypeName_iff.1 htype
        rw [hname]
        rfl
    rw [listTypes, canonical, canonical, listTypes, canonicalMembers_eq, canonicalMembers_eq,
      listTypesOf_eq, listTypesOf_eq, ← Entries.ofList_map, List.map_map, List.map_map]
    exact congrArg (fun pairs => object (Entries.ofList pairs))
      (List.map_congr_left fun m hm => Prod.ext rfl (hmembers m hm))

/-- A value in which an object, at some depth, has a text under `type`. -/
inductive NamesType : Json → Prop
  | here {members : List (String × Json)} {name : String} :
      ("type", .string name) ∈ members → NamesType (.object members)
  | member {members : List (String × Json)} {key : String} {value : Json} :
      (key, value) ∈ members → NamesType value → NamesType (.object members)
  | item {items : List Json} {value : Json} :
      value ∈ items → NamesType value → NamesType (.array items)

theorem namesType_array_iff {items : List Json} :
    NamesType (.array items) ↔ ∃ value ∈ items, NamesType value := by
  constructor
  · rintro (_ | _ | ⟨hmem, h⟩)
    exact ⟨_, hmem, h⟩
  · rintro ⟨value, hmem, h⟩
    exact .item hmem h

theorem namesType_object_iff {members : List (String × Json)} : NamesType (.object members) ↔
    ∃ m ∈ members, isTypeName m.1 m.2 ∨ NamesType m.2 := by
  constructor
  · rintro (hmem | ⟨hmem, h⟩ | _)
    · exact ⟨_, hmem, .inl rfl⟩
    · exact ⟨_, hmem, .inr h⟩
  · rintro ⟨⟨key, value⟩, hmem, htype | h⟩
    · obtain ⟨rfl, name, rfl⟩ := isTypeName_iff.1 htype
      exact .here hmem
    · exact .member hmem h

/-- Listing the type names changes just the values that have one. -/
theorem listTypes_eq_self_iff (value : Json) : listTypes value = value ↔ ¬ NamesType value := by
  induction value using Json.induction with
  | null | bool | number | string => exact iff_of_true rfl (by rintro ⟨⟩)
  | array items ih =>
    rw [listTypes, array.injEq, listTypesIn_eq, map_eq_self_iff, namesType_array_iff]
    push Not
    exact forall₂_congr ih
  | object members ih =>
    rw [listTypes, object.injEq, listTypesOf_eq, map_eq_self_iff, namesType_object_iff]
    push Not
    refine forall₂_congr fun m hm => ?_
    rw [Prod.ext_iff, and_iff_right rfl, listed]
    cases htype : isTypeName m.1 m.2 with
    | false => simpa using ih m hm
    | true =>
      obtain ⟨-, name, hname⟩ := isTypeName_iff.1 htype
      simp [hname]

/-! ## Readers -/

section
variable {α β γ δ : Type}

/-- What one of two optional values has, the other has too, changed. -/
def Tracks (f : α → β) (x : Option α) (y : Option β) : Prop :=
  ∀ a, x = some a → y = some (f a)

theorem Tracks.bind {f : α → β} {g : γ → δ} {x : Option α} {y : Option β} {k : α → Option γ}
    {k' : β → Option δ} (h : Tracks f x y) (hk : ∀ a, Tracks g (k a) (k' (f a))) :
    Tracks g (x >>= k) (y >>= k') := by
  intro c hc
  obtain ⟨a, ha, hc⟩ := Option.bind_eq_some_iff.1 hc
  rw [h a ha]
  exact hk a c hc

theorem Tracks.some {f : α → β} {a : α} {b : β} (h : b = f a) : Tracks f (some a) (some b) := by
  rintro _ ⟨⟩
  rw [h]

theorem Tracks.refl (x : Option α) : Tracks id x x :=
  fun _ ha => ha

theorem Tracks.map {f : α → β} {g : γ → δ} {x : Option α} {y : Option β} {k : α → γ}
    {k' : β → δ} (h : Tracks f x y) (hk : ∀ a, k' (f a) = g (k a)) :
    Tracks g (x.map k) (y.map k') := by
  intro c hc
  obtain ⟨a, ha, rfl⟩ := Option.map_eq_some_iff.1 hc
  rw [h a ha, Option.map_some, hk]

theorem Tracks.mapM {f : α → β} {g : γ → δ} {read : α → Option γ} {read' : β → Option δ}
    (items : List α) (h : ∀ a ∈ items, Tracks g (read a) (read' (f a))) :
    Tracks (List.map g) (items.mapM read) ((items.map f).mapM read') := by
  induction items with
  | nil => exact .some rfl
  | cons a rest ih =>
    rw [List.map_cons, List.mapM_cons, List.mapM_cons]
    refine (h a List.mem_cons_self).bind fun c => ?_
    refine (ih fun a ha => h a (List.mem_cons_of_mem _ ha)).bind fun cs => ?_
    exact .some rfl

/-- What a reader reads from a value, it reads changed from the value with its type names
    listed. -/
def Follows (f : α → α) (read : Json → Option α) : Prop :=
  ∀ value, Tracks f (read value) (read (listTypes value))

theorem Follows.of_eq {read : Json → Option α} (h : ∀ value, read (listTypes value) = read value) :
    Follows id read :=
  fun value _ ha => (h value).trans ha

theorem string?_listTypes (value : Json) : string? (listTypes value) = string? value := by
  cases value <;> rfl

theorem isNull_listTypes (value : Json) : (listTypes value).isNull = value.isNull := by
  cases value <;> rfl

theorem follows_string? : Follows id string? :=
  .of_eq string?_listTypes

theorem follows_bool? : Follows id bool? :=
  .of_eq fun value => by cases value <;> rfl

theorem follows_natural? : Follows id natural? :=
  .of_eq fun value => by cases value <;> rfl

theorem follows_double? : Follows id double? :=
  .of_eq fun value => by cases value <;> rfl

theorem follows_versionText? : Follows id versionText? :=
  .of_eq fun value => by cases value <;> rfl

/-- A value that is kept as it is keeps its type names listed. -/
theorem follows_any? : Follows listTypes any? :=
  fun value => .some (canonical_listTypes value)

/-- One type name is the list of it, so schemas have the same types. -/
theorem types?_listed (value : Json) : types? (listed "type" value) = types? value := by
  cases value with
  | array items =>
    change (listTypesIn items).mapM string? = items.mapM string?
    rw [listTypesIn_eq, List.mapM_map]
    exact congrArg (items.mapM ·) (funext string?_listTypes)
  | _ => rfl

section
variable {f : α → α} {read : Json → Option α} (h : Follows f read)
include h

theorem Follows.listOf : Follows (List.map f) (listOf? read) := by
  intro value
  cases value with
  | array items =>
    rw [listTypes, listTypesIn_eq]
    exact Tracks.mapM items fun value _ => h value
  | _ => rintro _ ⟨⟩

/-- The values of a map, if none of them is read from a text, as that may be a type name. -/
theorem Follows.dictOf (htext : ∀ s, read (.string s) = none) :
    Follows (Dict.map fun _ => f) (dictOf? read) := by
  intro value
  cases value with
  | object members =>
    rw [listTypes, listTypesOf_eq]
    have hentries : Tracks (List.map fun p => (p.1, f p.2))
        (entriesOf? read (.object members))
        (entriesOf? read (.object (members.map fun m => (m.1, listed m.1 m.2)))) := by
      refine Tracks.mapM members fun m _ => ?_
      cases htype : isTypeName m.1 m.2 with
      | false =>
        simp only [listed, htype, Bool.false_eq_true, if_false]
        exact (h m.2).map fun _ => rfl
      | true =>
        obtain ⟨-, name, hname⟩ := isTypeName_iff.1 htype
        rw [hname, htext]
        rintro _ ⟨⟩
    exact hentries.map fun entries => Dict.ofList_map (fun _ => f) entries
  | _ => rintro _ ⟨⟩

theorem Follows.nullable : Follows (Option.map f) (nullable? read) := by
  intro value
  rw [nullable?, nullable?, isNull_listTypes]
  cases value.isNull with
  | true => exact .some rfl
  | false => exact (h value).map fun _ => rfl

end

/-! ## Records -/

/-- A record has the fields of another with their type names listed. -/
structure Listed (r r' : Record) : Prop where
  find? : ∀ name, name ≠ "type" → r'.find? name = (r.find? name).map listTypes
  types : r'.withDefault "type" [] types? = r.withDefault "type" [] types?

theorem types?_listTypes (value : Json) : types? (listTypes value) = types? value := by
  cases value with
  | array items => exact types?_listed (.array items)
  | _ => rfl

theorem listed_listTypesOf (fields : List (String × Json)) :
    Listed ⟨fields⟩ ⟨listTypesOf fields⟩ := by
  have hfind : ∀ name, Record.find? ⟨listTypesOf fields⟩ name =
      (Record.find? ⟨fields⟩ name).map (listed name) := by
    intro name
    simp only [Record.find?, listTypesOf_eq]
    exact Entries.get?_map name listed fields
  constructor
  · intro name hname
    rw [hfind, funext (listed_of_ne hname)]
  · simp only [Record.withDefault, hfind]
    cases Record.find? ⟨fields⟩ "type" with
    | none => rfl
    | some value => exact types?_listed value

theorem listed_zip (known : List String) (items : List Json) :
    Listed ⟨known.zip items⟩ ⟨known.zip (listTypesIn items)⟩ := by
  have hfind : ∀ name, Record.find? ⟨known.zip (listTypesIn items)⟩ name =
      (Record.find? ⟨known.zip items⟩ name).map listTypes := by
    intro name
    rw [Record.find?, Record.find?, listTypesIn_eq, List.zip_map_right]
    exact Entries.get?_map name (fun _ => listTypes) _
  constructor
  · exact fun name _ => hfind name
  · simp only [Record.withDefault, hfind]
    cases Record.find? ⟨known.zip items⟩ "type" with
    | none => rfl
    | some value => exact types?_listTypes value

theorem ofMembers?_listTypesOf (known : List String) (members : List (String × Json)) :
    Record.ofMembers? known (listTypesOf members) =
      (Record.ofMembers? known members).map fun r => ⟨listTypesOf r.fields⟩ := by
  have hfilter : (listTypesOf members).filter (known.contains ·.1) =
      listTypesOf (members.filter (known.contains ·.1)) := by
    rw [listTypesOf_eq, listTypesOf_eq, List.filter_map]
    rfl
  have hkeys : ∀ fields, (listTypesOf fields).map (·.1) = fields.map (·.1) := by
    intro fields
    rw [listTypesOf_eq, List.map_map]
    rfl
  simp only [Record.ofMembers?, hfilter, hkeys]
  split <;> rfl

section
variable {f : α → β} {body : Record → Option α} {body' : Record → Option β}

theorem Tracks.ofMembers (known : List String) (members : List (String × Json))
    (h : ∀ r r', Listed r r' → Tracks f (body r) (body' r')) :
    Tracks f (Record.ofMembers? known members >>= body)
      (Record.ofMembers? known (listTypesOf members) >>= body') := by
  rw [ofMembers?_listTypesOf]
  cases Record.ofMembers? known members with
  | none => rintro _ ⟨⟩
  | some r => exact h r _ (listed_listTypesOf r.fields)

theorem Tracks.record (known : List String) (value : Json)
    (h : ∀ r r', Listed r r' → Tracks f (body r) (body' r')) :
    Tracks f (value.record? known >>= body) ((listTypes value).record? known >>= body') := by
  cases value with
  | object members => exact Tracks.ofMembers known members h
  | array items =>
    simp only [listTypes, record?, Record.ofItems?, listTypesIn_eq, List.length_map]
    split
    · rw [← listTypesIn_eq]
      exact h _ _ (listed_zip known items)
    · rintro _ ⟨⟩
  | _ => rintro _ ⟨⟩

end

namespace Listed

variable {r r' : Record} (hr : Listed r r') {name : String} (hname : name ≠ "type")
include hr hname

section
variable {f : α → α} {read : Json → Option α} (h : Follows f read)
include h

theorem required : Tracks f (r.required name read) (r'.required name read) := by
  rw [Record.required, Record.required, hr.find? name hname]
  cases r.find? name with
  | none => rintro _ ⟨⟩
  | some value => exact h value

theorem withDefault {default : α} (hdefault : f default = default) :
    Tracks f (r.withDefault name default read) (r'.withDefault name default read) := by
  rw [Record.withDefault, Record.withDefault, hr.find? name hname]
  cases r.find? name with
  | none => exact .some hdefault.symm
  | some value => exact h value

theorem optional : Tracks (Option.map f) (r.optional name read) (r'.optional name read) :=
  hr.withDefault hname h.nullable rfl

theorem list : Tracks (List.map f) (r.list name read) (r'.list name read) :=
  hr.withDefault hname h.listOf rfl

theorem dict (htext : ∀ s, read (.string s) = none) :
    Tracks (Dict.map fun _ => f) (r.dict name read) (r'.dict name read) :=
  hr.withDefault hname (h.dictOf htext) rfl

end

theorem flag : Tracks id (r.flag name) (r'.flag name) :=
  hr.withDefault hname follows_bool? rfl

end Listed

end

end Swagger

end ApiKinds
