/-
  Reading values, and reading back values that were written.

  * `Yields`: what a reader makes of regular values has some property; `Yields.listOf` and its
    like say so of lists, maps and values that may be `null`, `Record.Regular` of the fields of
    records.
  * `listOf?_ofList`, `dictOf?_ofEntries`, `Record.optional_ofOption` and their like: a
    collection or a field is read back if its values are.
  * `Others`: members that no reader knows; `ofMembers?_append`, `otherMembers_append`: known
    members and others are told apart again.
-/
import ApiKinds.Json.Record
import ApiKinds.Proofs.Json.Value
import ApiKinds.Proofs.Related

namespace ApiKinds.Json

variable {α : Type} {unique : Prop} {read : Json → Option α} {write : α → Json} {P : α → Prop}

/-! ## What is read from regular values -/

/-- What is read from a regular value has the property. -/
def Yields (unique : Prop) (read : Json → Option α) (P : α → Prop) : Prop :=
  ∀ value, Regular unique value → ∀ a, read value = some a → P a

theorem yields_any? : Yields unique any? Kept := by
  rintro value hvalue _ ⟨⟩
  exact kept_canonical hvalue

theorem yields_double? : Yields unique double? fun x => x.isFinite := by
  rintro value hvalue x hx
  cases hvalue with
  | int =>
    cases hx
    exact Binary64.isFinite_ofInt _
  | real hfinite =>
    cases hx
    exact hfinite
  | _ => cases hx

theorem yields_natural? : Yields unique natural? fun n => Number.fits n := by
  intro value hvalue n h
  unfold natural? at h
  split at h
  · next i =>
    split at h
    · next hnonneg =>
      cases h
      cases hvalue with
      | int hfits => rwa [Int.toNat_of_nonneg hnonneg]
    · cases h
  · cases h

theorem Yields.listOf (h : Yields unique read P) :
    Yields unique (listOf? read) fun as => ∀ a ∈ as, P a := by
  intro value hvalue as has a ha
  cases hvalue with
  | array hitems =>
    obtain ⟨item, hitem, hread⟩ := exists_of_mem_right (mapM_eq_some_iff.1 has) a ha
    exact h item (hitems item hitem) a hread
  | _ => cases has

theorem Yields.dictOf (h : Yields unique read P) :
    Yields unique (dictOf? read) fun d => ∀ key a, d.get? key = some a → P a := by
  intro value hvalue d hd key a ha
  obtain ⟨entries, hentries, rfl⟩ := Option.map_eq_some_iff.1 hd
  have hmem : (key, a) ∈ entries := Entries.mem_of_mem_ofList (Dict.get?_eq_some_iff.1 ha)
  cases hvalue with
  | object _ hmembers =>
    obtain ⟨m, hm, hread⟩ := exists_of_mem_right (mapM_eq_some_iff.1 hentries) _ hmem
    obtain ⟨a, hread, heq⟩ := Option.map_eq_some_iff.1 hread
    cases heq
    exact h m.2 (hmembers m hm) a hread
  | _ => cases hentries

theorem Yields.nullable (h : Yields unique read P) :
    Yields unique (nullable? read) fun o => ∀ a ∈ o, P a := by
  rintro value hvalue o ho a rfl
  rw [nullable?] at ho
  split at ho
  · cases ho
  · obtain ⟨a, hread, heq⟩ := Option.map_eq_some_iff.1 ho
    cases heq
    exact h value hvalue a hread

/-- A value that may be `null` is not kept as `null`. -/
theorem yields_nullable_any? :
    Yields unique (nullable? any?) fun o => ∀ v ∈ o, Kept v ∧ v.isNull = false := by
  rintro value hvalue o ho v rfl
  rw [nullable?] at ho
  split at ho
  · cases ho
  · next hnull =>
    cases ho
    refine ⟨kept_canonical hvalue, ?_⟩
    cases value with
    | null => cases hnull rfl
    | _ => rfl

/-! ### Records -/

/-- The fields of a record are regular. -/
def Record.Regular (unique : Prop) (r : Record) : Prop :=
  ∀ field ∈ r.fields, Json.Regular unique field.2

theorem regular_of_ofMembers? {known : List String} {members : List (String × Json)} {r : Record}
    (h : Record.ofMembers? known members = some r)
    (hmembers : ∀ m ∈ members, Json.Regular unique m.2) : r.Regular unique := by
  rw [Record.ofMembers?] at h
  split at h
  · cases h
    exact fun field hfield => hmembers field (List.mem_filter.1 hfield).1
  · cases h

theorem regular_of_record? {known : List String} {value : Json} {r : Record}
    (h : record? known value = some r) (hvalue : value.Regular unique) : r.Regular unique := by
  cases hvalue with
  | object _ hmembers => exact regular_of_ofMembers? h hmembers
  | array hitems =>
    rw [record?, Record.ofItems?] at h
    split at h
    · cases h
      exact fun field hfield => hitems _ (List.of_mem_zip hfield).2
    · cases h
  | _ => cases h

namespace Record.Regular

variable {r : Record} {name : String} (hr : r.Regular unique)
include hr

theorem find? {value : Json} (h : r.find? name = some value) : value.Regular unique :=
  hr (name, value) (Entries.mem_of_get? h)

theorem withDefault {default a : α} (h : r.withDefault name default read = some a)
    (hread : Yields unique read P) (hdefault : P default) : P a := by
  rw [Record.withDefault] at h
  split at h
  · cases h
    exact hdefault
  · next value hvalue => exact hread value (hr.find? hvalue) a h

theorem optional {o : Option α} (h : r.optional name read = some o) (hread : Yields unique read P) :
    ∀ a ∈ o, P a :=
  hr.withDefault h hread.nullable (by simp)

theorem list {as : List α} (h : r.list name read = some as) (hread : Yields unique read P) :
    ∀ a ∈ as, P a :=
  hr.withDefault h hread.listOf (by simp)

theorem dict {d : Dict α} (h : r.dict name read = some d) (hread : Yields unique read P) :
    ∀ key a, d.get? key = some a → P a :=
  hr.withDefault h hread.dictOf (by simp)

end Record.Regular

/-! ## What is read back -/

theorem natural?_ofNat {n : Nat} (h : Number.fits n) : natural? (.ofNat n) = some n := by
  rw [ofNat, ofInt_of_fits h, natural?, if_pos (by omega)]
  rfl

theorem double?_ofDouble {x : Binary64} (h : x.isFinite) : double? (.ofDouble x) = some x := by
  rw [ofDouble_of_isFinite h]
  rfl

/-- The value of a list that is written unless it is empty. -/
def filled (write : List α → Json) (items : List α) : Option Json :=
  if items.isEmpty then none else some (write items)

theorem elim_filled {as : List α} {write : List α → Json} {read : Json → Option (List α)}
    (h : read (write as) = some as) : (filled write as).elim (some []) read = some as := by
  cases as with
  | nil => rfl
  | cons a as => exact h

/-- A value that is not written when it is absent. -/
theorem elim_map {o : Option α} (hnull : ∀ a ∈ o, (write a).isNull = false)
    (h : ∀ a ∈ o, read (write a) = some a) :
    (o.map write).elim (some none) (nullable? read) = some o := by
  cases o with
  | none => rfl
  | some a =>
    rw [Option.map_some, Option.elim_some, nullable?, hnull a rfl, h a rfl]
    rfl

theorem listOf?_ofList {as : List α} (h : ∀ a ∈ as, read (write a) = some a) :
    listOf? read (.ofList write as) = some as := by
  rw [ofList, listOf?, mapM_eq_some_iff, List.forall₂_map_left_iff, List.forall₂_same]
  exact h

theorem any?_of_isCanonical {value : Json} (h : IsCanonical value) : any? value = some value :=
  congrArg some h.eq

theorem listOf?_any? {values : List Json} (h : ∀ v ∈ values, IsCanonical v) :
    listOf? any? (.array values) = some values := by
  rw [listOf?, mapM_eq_some_iff, List.forall₂_same]
  exact fun v hv => any?_of_isCanonical (h v hv)

theorem dictOf?_ofEntries {d : Dict α}
    (h : ∀ key a, d.get? key = some a → read (write a) = some a) :
    dictOf? read (.ofEntries write d.entries) = some d := by
  have hentries : entriesOf? read (.ofEntries write d.entries) = some d.entries := by
    rw [ofEntries, entriesOf?, mapM_eq_some_iff, List.forall₂_map_left_iff, List.forall₂_same]
    rintro ⟨key, a⟩ hmem
    rw [h key a (Dict.get?_eq_some_iff.2 hmem), Option.map_some]
  rw [dictOf?, hentries, Option.map_some, Dict.ofList_entries]

theorem nullable?_ofOption {o : Option α} (hnull : ∀ a ∈ o, (write a).isNull = false)
    (h : ∀ a ∈ o, read (write a) = some a) : nullable? read (.ofOption write o) = some o := by
  cases o with
  | none => rfl
  | some a =>
    rw [ofOption, nullable?, hnull a rfl, h a rfl]
    rfl

/-- What a reader that refuses `null` reads back is not `null`. -/
theorem isNull_eq_false {value : Json} {a : α} (hnull : read .null = none)
    (h : read value = some a) : value.isNull = false := by
  cases value with
  | null =>
    rw [hnull] at h
    cases h
  | _ => rfl

/-! ### Records -/

/-- The members that are written of fields, some of which may be left out. -/
def written (fields : List (String × Option Json)) : List (String × Json) :=
  fields.filterMap fun field => field.2.map (field.1, ·)

theorem sublist_keys_written (fields : List (String × Option Json)) :
    ((written fields).map (·.1)).Sublist (fields.map (·.1)) :=
  Entries.sublist_keys_filterMap (fun _ value => value) fields

theorem get?_written {fields : List (String × Option Json)} (hkeys : (fields.map (·.1)).Nodup)
    {name : String} {value : Option Json} (h : Entries.get? name fields = some value) :
    Entries.get? name (written fields) = value := by
  rw [written, Entries.get?_filterMap_of_nodup hkeys fun _ value => value, h, Option.bind_some]

/-- An object of known members. -/
theorem ofMembers?_self {known : List String} {members : List (String × Json)}
    (hkeys : (members.map (·.1)).Sublist known) (hknown : known.Nodup) :
    Record.ofMembers? known members = some ⟨members⟩ := by
  have hall : members.filter (known.contains ·.1) = members := by
    rw [List.filter_eq_self]
    intro m hm
    rw [List.contains_iff_mem]
    exact hkeys.subset (List.mem_map_of_mem hm)
  rw [Record.ofMembers?]
  rw [hall, if_pos (hkeys.nodup hknown)]

theorem record?_object {known : List String} {members : List (String × Json)}
    (hkeys : members.map (·.1) = known) (hknown : known.Nodup) :
    record? known (.object members) = some ⟨members⟩ :=
  ofMembers?_self (hkeys ▸ .refl _) hknown

theorem fullRecord?_object {known : List String} {members : List (String × Json)}
    (hkeys : members.map (·.1) = known) (hknown : known.Nodup) :
    fullRecord? known (.object members) = some ⟨members⟩ :=
  ofMembers?_self (hkeys ▸ .refl _) hknown

namespace Record

variable {r : Record} {name : String}

theorem required_of_find? {value : Json} {a : α} (hfind : r.find? name = some value)
    (h : read value = some a) : r.required name read = some a := by
  rw [required, hfind, Option.bind_some, h]

theorem withDefault_eq (default : α) :
    r.withDefault name default read = (r.find? name).elim (some default) read := by
  rw [withDefault]
  cases r.find? name <;> rfl

theorem withDefault_of_find? {value : Json} {default a : α} (hfind : r.find? name = some value)
    (h : read value = some a) : r.withDefault name default read = some a := by
  rw [withDefault, hfind]
  exact h

/-- A field that is written as `null` when it is absent. -/
theorem optional_ofOption {o : Option α} (hfind : r.find? name = some (.ofOption write o))
    (hnull : read .null = none) (h : ∀ a ∈ o, read (write a) = some a) :
    r.optional name read = some o :=
  withDefault_of_find? hfind
    (nullable?_ofOption (fun a ha => isNull_eq_false hnull (h a ha)) h)

theorem optional_string {o : Option String} (hfind : r.find? name = some (.ofOption .string o)) :
    r.optional name string? = some o :=
  optional_ofOption hfind rfl fun _ _ => rfl

theorem optional_natural {o : Option Nat} (hfind : r.find? name = some (.ofOption .ofNat o))
    (hfits : ∀ n ∈ o, Number.fits n) : r.optional name natural? = some o :=
  optional_ofOption hfind rfl fun n hn => natural?_ofNat (hfits n hn)

theorem optional_double {o : Option Binary64} (hfind : r.find? name = some (.ofOption .ofDouble o))
    (hfinite : ∀ x ∈ o, x.isFinite) : r.optional name double? = some o :=
  optional_ofOption hfind rfl fun x hx => double?_ofDouble (hfinite x hx)

/-- A field that is not written when it is absent. -/
theorem optional_present {o : Option α} (hfind : r.find? name = o.map write)
    (hnull : ∀ a ∈ o, (write a).isNull = false) (h : ∀ a ∈ o, read (write a) = some a) :
    r.optional name read = some o := by
  rw [optional, withDefault_eq, hfind, elim_map hnull h]

/-- A list that is not written when it is empty. -/
theorem withDefault_filled {as : List α} {write : List α → Json} {read : Json → Option (List α)}
    (hfind : r.find? name = filled write as) (h : read (write as) = some as) :
    r.withDefault name [] read = some as := by
  rw [withDefault_eq, hfind, elim_filled h]

/-- A flag that is written only when it is up. -/
theorem flag_raised {b : Bool} (hfind : r.find? name = if b then some (.bool true) else none) :
    r.flag name = some b := by
  rw [flag, withDefault, hfind]
  cases b <;> rfl

theorem list_ofList {as : List α} (hfind : r.find? name = some (.ofList write as))
    (h : ∀ a ∈ as, read (write a) = some a) : r.list name read = some as :=
  withDefault_of_find? hfind (listOf?_ofList h)

theorem dict_ofEntries {d : Dict α} (hfind : r.find? name = some (.ofEntries write d.entries))
    (h : ∀ key a, d.get? key = some a → read (write a) = some a) : r.dict name read = some d :=
  withDefault_of_find? hfind (dictOf?_ofEntries h)

end Record

/-! ### Known members and others -/

/-- Members as they are collected beside the known ones. -/
structure Others (known : List String) (members : List (String × Json)) : Prop where
  sorted : Entries.Sorted members
  unknown : ∀ m ∈ members, m.1 ∉ known
  canonical : ∀ m ∈ members, IsCanonical m.2

section
variable {known : List String} {members others : List (String × Json)}

theorem exists_of_mem_otherMembers {m : String × Json} (h : m ∈ otherMembers known members) :
    ∃ value, (m.1, value) ∈ members ∧ m.1 ∉ known ∧ m.2 = value.canonical := by
  obtain ⟨source, hsource, rfl⟩ := List.mem_map.1 (Entries.mem_of_mem_ofList h)
  obtain ⟨hmem, hunknown⟩ := List.mem_filter.1 hsource
  exact ⟨source.2, hmem, by simpa using hunknown, rfl⟩

theorem others_otherMembers (known : List String) (members : List (String × Json)) :
    Others known (otherMembers known members) where
  sorted := Entries.sorted_ofList _
  unknown m hm := by
    obtain ⟨-, -, hunknown, -⟩ := exists_of_mem_otherMembers hm
    exact hunknown
  canonical m hm := by
    obtain ⟨value, -, -, heq⟩ := exists_of_mem_otherMembers hm
    exact heq ▸ isCanonical_canonical value

theorem ofMembers?_append (hkeys : (members.map (·.1)).Sublist known) (hknown : known.Nodup)
    (hothers : Others known others) :
    Record.ofMembers? known (members ++ others) = some ⟨members⟩ := by
  have hnone : others.filter (known.contains ·.1) = [] := by
    rw [List.filter_eq_nil_iff]
    intro m hm
    rw [List.contains_iff_mem]
    exact hothers.unknown m hm
  have hself := ofMembers?_self hkeys hknown
  rw [Record.ofMembers?] at hself ⊢
  rwa [List.filter_append, hnone, List.append_nil]

theorem otherMembers_append (hkeys : ∀ m ∈ members, m.1 ∈ known) (hothers : Others known others) :
    otherMembers known (members ++ others) = others := by
  have hnone : members.filter (!known.contains ·.1) = [] := by
    rw [List.filter_eq_nil_iff]
    intro m hm
    simpa using hkeys m hm
  have hall : others.filter (!known.contains ·.1) = others := by
    rw [List.filter_eq_self]
    intro m hm
    simpa using hothers.unknown m hm
  have hsame (m) (hm : m ∈ others) : (m.1, m.2.canonical) = m := by
    rw [(hothers.canonical m hm).eq]
  rw [otherMembers, List.filter_append, hnone, List.nil_append, hall,
    List.map_congr_left hsame, List.map_id', Entries.ofList_eq_self hothers.sorted]

end

end ApiKinds.Json
