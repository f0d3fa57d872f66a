/-
  What can be looked up in a map: the entries are those found under their keys, and
  look-ups go through `map` and `filterMap`. Lists of entries with the same keys and related
  values are looked up alike (`Entries.get?_rel`).
-/
import ApiKinds.Dict
import ApiKinds.Proofs.Related
import Mathlib.Data.List.Sort

namespace ApiKinds

/-! ## Lists of entries -/

namespace Entries

variable {α β : Type}

theorem mem_of_get? {key : String} {value : α} {entries : List (String × α)}
    (h : get? key entries = some value) : (key, value) ∈ entries := by
  induction entries with
  | nil => simp [get?] at h
  | cons e rest ih =>
    obtain ⟨k, v⟩ := e
    rw [get?] at h
    split at h
    · next hk => cases h; subst hk; exact List.mem_cons_self
    · exact List.mem_cons_of_mem _ (ih h)

theorem get?_of_nodup {key : String} {value : α} {entries : List (String × α)}
    (hkeys : (entries.map (·.1)).Nodup) (h : (key, value) ∈ entries) :
    get? key entries = some value := by
  induction entries with
  | nil => simp at h
  | cons e rest ih =>
    obtain ⟨k, v⟩ := e
    obtain ⟨hfirst, hrest⟩ := List.nodup_cons.1 hkeys
    rcases List.mem_cons.1 h with heq | hmem
    · cases heq; simp [get?]
    · have hne : key ≠ k := by
        rintro rfl
        exact hfirst (List.mem_map.2 ⟨_, hmem, rfl⟩)
      rw [get?, if_neg hne]
      exact ih hrest hmem

theorem nodup_keys_of_sorted {entries : List (String × α)} (hs : Sorted entries) :
    (entries.map (·.1)).Nodup := by
  refine List.pairwise_map.2 (hs.imp fun {a b} hlt heq => ?_)
  rw [heq] at hlt
  exact String.lt_irrefl _ hlt

theorem get?_of_mem {key : String} {value : α} {entries : List (String × α)}
    (hs : Sorted entries) (h : (key, value) ∈ entries) : get? key entries = some value :=
  get?_of_nodup (nodup_keys_of_sorted hs) h

theorem get?_eq_some_iff {key : String} {value : α} {entries : List (String × α)}
    (hs : Sorted entries) : get? key entries = some value ↔ (key, value) ∈ entries :=
  ⟨mem_of_get?, get?_of_mem hs⟩

theorem get?_map (key : String) (f : String → α → β) (entries : List (String × α)) :
    get? key (entries.map fun p => (p.1, f p.1 p.2)) = (get? key entries).map (f key) := by
  induction entries with
  | nil => rfl
  | cons e rest ih =>
    obtain ⟨k, v⟩ := e
    by_cases hk : key = k
    · subst hk; simp [get?]
    · simp only [List.map_cons, get?, if_neg hk, ih]

theorem get?_append (key : String) (front back : List (String × α)) :
    get? key (front ++ back) = (get? key front).or (get? key back) := by
  induction front with
  | nil => rfl
  | cons e rest ih =>
    rw [List.cons_append, get?, get?, ih]
    split <;> rfl

theorem get?_eq_none_of_not_mem {key : String} {entries : List (String × α)}
    (h : ∀ e ∈ entries, e.1 ≠ key) : get? key entries = none := by
  cases hget : get? key entries with
  | none => rfl
  | some value => exact absurd rfl (h _ (mem_of_get? hget))

/-- Without two entries under one key, look-ups go through `filterMap`. -/
theorem get?_filterMap_of_nodup {entries : List (String × α)} (hkeys : (entries.map (·.1)).Nodup)
    (f : String → α → Option β) (key : String) :
    get? key (entries.filterMap fun p => (f p.1 p.2).map (p.1, ·)) =
      (get? key entries).bind (f key) := by
  induction entries with
  | nil => rfl
  | cons e rest ih =>
    obtain ⟨k, v⟩ := e
    obtain ⟨hfirst, hrest⟩ := List.nodup_cons.1 hkeys
    rw [List.filterMap_cons, get?]
    by_cases hk : key = k
    · subst hk
      rw [if_pos rfl, Option.bind_some]
      cases f key v with
      | some image => exact if_pos rfl
      | none =>
        refine get?_eq_none_of_not_mem fun image himage heq => ?_
        obtain ⟨e, he, himage⟩ := List.mem_filterMap.1 himage
        obtain ⟨_, -, rfl⟩ := Option.map_eq_some_iff.1 himage
        exact hfirst (List.mem_map.2 ⟨e, he, heq⟩)
    · rw [if_neg hk, ← ih hrest]
      cases f k v with
      | some image => exact if_neg hk
      | none => rfl

theorem sublist_keys_filterMap (f : String → α → Option β) (entries : List (String × α)) :
    ((entries.filterMap fun p => (f p.1 p.2).map (p.1, ·)).map (·.1)).Sublist
      (entries.map (·.1)) := by
  induction entries with
  | nil => exact .refl []
  | cons e rest ih =>
    rw [List.filterMap_cons, List.map_cons]
    cases f e.1 e.2 with
    | none => exact ih.cons e.1
    | some image => exact ih.cons_cons e.1

theorem get?_rel {R : String → α → β → Prop} {as : List (String × α)} {bs : List (String × β)}
    (h : List.Forall₂ (fun a b => a.1 = b.1 ∧ R a.1 a.2 b.2) as bs) (key : String) :
    Option.Rel (R key) (get? key as) (get? key bs) := by
  induction h with
  | nil => exact .none
  | @cons a b _ _ hab _ ih =>
    obtain ⟨ka, va⟩ := a
    obtain ⟨kb, vb⟩ := b
    obtain ⟨rfl, hrel⟩ := hab
    rw [get?, get?]
    split
    · next heq => exact .some (heq ▸ hrel)
    · exact ih

/-- No key has two entries. -/
theorem filter_key {entries : List (String × α)} (hs : Sorted entries) (key : String) :
    entries.filter (·.1 = key) = ((get? key entries).map (key, ·)).toList := by
  induction entries with
  | nil => rfl
  | cons e rest ih =>
    obtain ⟨k, v⟩ := e
    obtain ⟨hall, hrest⟩ := List.pairwise_cons.1 hs
    rw [List.filter_cons, get?]
    by_cases hk : k = key
    · subst hk
      have hlater : rest.filter (·.1 = k) = [] := List.filter_eq_nil_iff.2 fun e he => by
        have hlt : k < e.1 := hall e he
        simpa using fun heq : e.1 = k => String.lt_irrefl k (heq ▸ hlt)
      simp [hlater]
    · simp [hk, Ne.symm hk, ih hrest]

theorem insert_of_lt {key : String} {value : α} {entries : List (String × α)}
    (h : ∀ entry ∈ entries, entry.1 < key) :
    insert key value entries = entries ++ [(key, value)] := by
  induction entries with
  | nil => rfl
  | cons e rest ih =>
    obtain ⟨hlt, hrest⟩ := List.forall_mem_cons.1 h
    have hne : key ≠ e.1 := fun heq => String.lt_irrefl key (heq ▸ hlt)
    rw [insert, if_neg (fun hgt => String.lt_irrefl key (String.lt_trans hgt hlt)), if_neg hne,
      ih hrest, List.cons_append]

theorem foldl_insert_of_sorted {front back : List (String × α)} (h : Sorted (front ++ back)) :
    back.foldl (fun entries p => insert p.1 p.2 entries) front = front ++ back := by
  induction back generalizing front with
  | nil => simp
  | cons p rest ih =>
    have hlt : ∀ entry ∈ front, entry.1 < p.1 := fun entry hentry =>
      (List.pairwise_append.1 h).2.2 entry hentry p List.mem_cons_self
    rw [List.foldl_cons, insert_of_lt hlt, ih (by simpa using h), List.append_assoc,
      List.singleton_append]

theorem mem_of_mem_foldl_insert {p : String × α} {pairs entries : List (String × α)}
    (h : p ∈ pairs.foldl (fun entries p => insert p.1 p.2 entries) entries) :
    p ∈ entries ∨ p ∈ pairs := by
  induction pairs generalizing entries with
  | nil => exact .inl h
  | cons first rest ih =>
    rcases ih h with hmem | hmem
    · rcases mem_insert hmem with rfl | hmem
      · exact .inr List.mem_cons_self
      · exact .inl hmem
    · exact .inr (List.mem_cons_of_mem _ hmem)

/-- The entries of a map are among the pairs that it is made of. -/
theorem mem_of_mem_ofList {p : String × α} {pairs : List (String × α)} (h : p ∈ ofList pairs) :
    p ∈ pairs :=
  (mem_of_mem_foldl_insert h).resolve_left (by simp)

theorem get?_foldl_insert {pairs : List (String × α)} (hkeys : (pairs.map (·.1)).Nodup)
    (key : String) (entries : List (String × α)) :
    get? key (pairs.foldl (fun entries p => insert p.1 p.2 entries) entries) =
      (get? key pairs).or (get? key entries) := by
  induction pairs generalizing entries with
  | nil => rfl
  | cons p rest ih =>
    obtain ⟨hfirst, hrest⟩ := List.nodup_cons.1 hkeys
    rw [List.foldl_cons, ih hrest, get?_insert, get?]
    split
    · next hkey =>
      have hnone : get? key rest = none := get?_eq_none_of_not_mem fun e he heq =>
        hfirst (List.mem_map.2 ⟨e, he, heq.trans hkey⟩)
      rw [hnone]
      rfl
    · rfl

/-- Without two pairs under one key, look-ups stay the same. -/
theorem get?_ofList_of_nodup {pairs : List (String × α)} (hkeys : (pairs.map (·.1)).Nodup)
    (key : String) : get? key (ofList pairs) = get? key pairs := by
  rw [ofList, get?_foldl_insert hkeys, get?, Option.or_none]

/-- Without two pairs under one key, no pair gets lost. -/
theorem perm_ofList_of_nodup {pairs : List (String × α)} (hkeys : (pairs.map (·.1)).Nodup) :
    (ofList pairs).Perm pairs := by
  have hsorted : Sorted (ofList pairs) := sorted_ofList pairs
  refine (List.perm_ext_iff_of_nodup (nodup_keys_of_sorted hsorted).of_map hkeys.of_map).2 ?_
  rintro ⟨key, value⟩
  rw [← get?_eq_some_iff hsorted, get?_ofList_of_nodup hkeys]
  exact ⟨mem_of_get?, get?_of_nodup hkeys⟩

theorem insert_map (f : String → α → β) (key : String) (value : α)
    (entries : List (String × α)) :
    insert key (f key value) (entries.map fun p => (p.1, f p.1 p.2)) =
      (insert key value entries).map fun p => (p.1, f p.1 p.2) := by
  induction entries with
  | nil => rfl
  | cons e rest ih =>
    rw [List.map_cons, insert, insert, ih]
    split
    · rfl
    · split
      · rfl
      · rfl

/-- Changed entries are put into order as the entries are. -/
theorem ofList_map (f : String → α → β) (pairs : List (String × α)) :
    ofList (pairs.map fun p => (p.1, f p.1 p.2)) =
      (ofList pairs).map fun p => (p.1, f p.1 p.2) := by
  have hfold : ∀ entries : List (String × α),
      (pairs.map fun p => (p.1, f p.1 p.2)).foldl (fun entries p => insert p.1 p.2 entries)
          (entries.map fun p => (p.1, f p.1 p.2)) =
        (pairs.foldl (fun entries p => insert p.1 p.2 entries) entries).map
          fun p => (p.1, f p.1 p.2) := by
    induction pairs with
    | nil => exact fun entries => rfl
    | cons p rest ih =>
      intro entries
      rw [List.map_cons, List.foldl_cons, List.foldl_cons, insert_map, ih]
  exact hfold []

/-- Pairs that stand in key order are the entries of their map. -/
theorem ofList_eq_self {entries : List (String × α)} (h : Sorted entries) :
    ofList entries = entries := by
  rw [ofList, foldl_insert_of_sorted (by simpa using h), List.nil_append]

/-- Entries with the same keys stand in the same order. -/
theorem sorted_of_forall₂ {R : String × α → String × β → Prop} {as : List (String × α)}
    {bs : List (String × β)} (h : List.Forall₂ R as bs) (hkey : ∀ a b, R a b → a.1 = b.1)
    (hs : Sorted as) : Sorted bs := by
  have hkeys : as.map (·.1) = bs.map (·.1) := by
    induction h with
    | nil => rfl
    | cons hab _ ih =>
      rw [List.map_cons, List.map_cons, hkey _ _ hab, ih (List.pairwise_cons.1 hs).2]
  have hpairwise : (bs.map (·.1)).Pairwise (· < ·) := hkeys ▸ List.pairwise_map.2 hs
  exact List.pairwise_map.1 hpairwise

end Entries

/-! ## Maps -/

namespace Dict

variable {α β : Type} {d : Dict α} {key : String} {value : α}

theorem get?_eq_some_iff : d.get? key = some value ↔ (key, value) ∈ d.entries :=
  Entries.get?_eq_some_iff d.sorted

@[simp] theorem ofList_entries (d : Dict α) : ofList d.entries = d :=
  Dict.ext (Entries.ofList_eq_self d.sorted)

/-- Maps in which the same is found under every key are equal. -/
theorem ext_get? {a b : Dict α} (h : ∀ key, a.get? key = b.get? key) : a = b := by
  have hantisymm : Std.Antisymm fun x y : String × α => x.1 < y.1 :=
    ⟨fun x y hxy hyx => absurd hyx (String.lt_asymm hxy)⟩
  have hirrefl : Std.Irrefl fun x y : String × α => x.1 < y.1 := ⟨fun x => String.lt_irrefl x.1⟩
  refine Dict.ext (List.Pairwise.eq_of_mem_iff a.sorted b.sorted ?_)
  rintro ⟨key, value⟩
  rw [← get?_eq_some_iff, ← get?_eq_some_iff, h]

theorem get?_singleton_iff {k : String} {v : α} :
    (ofList [(k, v)]).get? key = some value ↔ key = k ∧ v = value := by
  change (if key = k then some v else none) = some value ↔ _
  by_cases hk : key = k <;> simp [hk]

theorem rel_get?_singleton {R : α → β → Prop} {a : α} {b : β} (hab : R a b) (k key : String) :
    Option.Rel R ((ofList [(k, a)]).get? key) ((ofList [(k, b)]).get? key) := by
  change Option.Rel R (if key = k then some a else none) (if key = k then some b else none)
  by_cases hk : key = k
  · rw [if_pos hk, if_pos hk]
    exact .some hab
  · rw [if_neg hk, if_neg hk]
    exact .none

/-- A map that may be missing, and is empty then. -/
theorem get?_getD_empty {o : Option (Dict α)} :
    (o.getD .empty).get? key = some value ↔ ∃ d, o = some d ∧ d.get? key = some value := by
  cases o <;> simp [get?_empty]

/-- A map with one value under all of its keys. -/
theorem get?_ofList_const (keys : List String) (value : α) (key : String) :
    (ofList (keys.map (·, value))).get? key = if key ∈ keys then some value else none := by
  have hfold : ∀ entries : List (String × α), Entries.get? key
      ((keys.map (·, value)).foldl (fun entries p => Entries.insert p.1 p.2 entries) entries) =
        if key ∈ keys then some value else Entries.get? key entries := by
    induction keys with
    | nil => simp
    | cons k rest ih =>
      intro entries
      rw [List.map_cons, List.foldl_cons, ih, Entries.get?_insert]
      by_cases hk : key = k <;> simp [hk]
  exact hfold []

theorem get?_map (f : String → α → β) (d : Dict α) (key : String) :
    (d.map f).get? key = (d.get? key).map (f key) :=
  Entries.get?_map key f d.entries

theorem contains_map (f : String → α → β) (d : Dict α) : (d.map f).contains = d.contains := by
  funext key
  rw [contains, contains, get?_map, Option.isSome_map]

theorem ofList_map (f : String → α → β) (pairs : List (String × α)) :
    ofList (pairs.map fun p => (p.1, f p.1 p.2)) = (ofList pairs).map f :=
  Dict.ext (Entries.ofList_map f pairs)

theorem get?_filterMap (f : String → α → Option β) (d : Dict α) (key : String) :
    (d.filterMap f).get? key = (d.get? key).bind (f key) :=
  Entries.get?_filterMap_of_nodup (Entries.nodup_keys_of_sorted d.sorted) f key

theorem get?_filterKeys (keep : String → Bool) (d : Dict α) (key : String) :
    (d.filterKeys keep).get? key = if keep key then d.get? key else none := by
  refine Option.ext fun value => ?_
  rw [get?_eq_some_iff, filterKeys, List.mem_filter]
  split
  · next hkeep => rw [get?_eq_some_iff, and_iff_left hkeep]
  · next hdrop => simp [hdrop]

theorem get?_filterMap_eq_some_iff {f : String → α → Option β} {image : β} :
    (d.filterMap f).get? key = some image ↔
      ∃ value, d.get? key = some value ∧ f key value = some image := by
  rw [get?_filterMap, Option.bind_eq_some_iff]

/-- No key has two entries. -/
theorem filter_entries (d : Dict α) (key : String) :
    d.entries.filter (·.1 = key) = ((d.get? key).map (key, ·)).toList :=
  Entries.filter_key d.sorted key

theorem values_map (f : String → α → β) (d : Dict α) :
    (d.map f).values = d.entries.map fun p => f p.1 p.2 := by
  simp [values, map]

theorem values_map_const (f : α → β) (d : Dict α) : (d.map fun _ => f).values = d.values.map f := by
  rw [values_map, values, List.map_map]
  rfl

@[simp] theorem keys_map (f : String → α → β) (d : Dict α) : (d.map f).keys = d.keys := by
  simp [keys, map]

theorem values_filterMap (f : String → α → Option β) (d : Dict α) :
    (d.filterMap f).values = d.entries.filterMap fun p => f p.1 p.2 := by
  simp [values, filterMap, List.map_filterMap, Function.comp_def]

/-- The keys stand in order. -/
theorem pairwise_keys (d : Dict α) : d.keys.Pairwise (· < ·) :=
  List.pairwise_map.2 d.sorted

theorem nodup_keys (d : Dict α) : d.keys.Nodup :=
  Entries.nodup_keys_of_sorted d.sorted

theorem mem_keys : key ∈ d.keys ↔ ∃ value, d.get? key = some value := by
  simp only [keys, List.mem_map, get?_eq_some_iff]
  constructor
  · rintro ⟨⟨k, v⟩, h, rfl⟩; exact ⟨v, h⟩
  · rintro ⟨v, h⟩; exact ⟨(key, v), h, rfl⟩

/-- The entries are what is found under the keys, in order. -/
theorem entries_eq_filterMap (d : Dict α) :
    d.entries = d.keys.filterMap fun key => (d.get? key).map (key, ·) := by
  have hfound : ∀ entry ∈ d.entries, (d.get? entry.1).map (entry.1, ·) = some entry := by
    intro entry hentry
    rw [get?_eq_some_iff.2 hentry]
    rfl
  rw [keys, List.filterMap_map]
  exact (List.filterMap_some.symm).trans (List.filterMap_congr fun entry hentry =>
    (hfound entry hentry).symm)

/-- Texts in order are determined by which there are. -/
theorem eq_of_pairwise_lt {as bs : List String} (ha : as.Pairwise (· < ·))
    (hb : bs.Pairwise (· < ·)) (h : ∀ key, key ∈ as ↔ key ∈ bs) : as = bs := by
  have hantisymm : Std.Antisymm fun x y : String => x < y :=
    ⟨fun x y hxy hyx => absurd hyx (String.lt_asymm hxy)⟩
  have hirrefl : Std.Irrefl fun x y : String => x < y := ⟨String.lt_irrefl⟩
  exact List.Pairwise.eq_of_mem_iff ha hb fun key => h key

/-- Maps with the same keys list them in the same order. -/
theorem keys_eq_of_mem_iff {a : Dict α} {b : Dict β} (h : ∀ key, key ∈ a.keys ↔ key ∈ b.keys) :
    a.keys = b.keys :=
  eq_of_pairwise_lt a.pairwise_keys b.pairwise_keys h

/-- Maps in which related values are found under every key have related entries. -/
theorem forall₂_entries {R : α → β → Prop} {a : Dict α} {b : Dict β}
    (h : ∀ key, Option.Rel R (a.get? key) (b.get? key)) :
    List.Forall₂ (fun x y => x.1 = y.1 ∧ R x.2 y.2) a.entries b.entries := by
  have hkeys : a.keys = b.keys := by
    refine keys_eq_of_mem_iff fun key => ?_
    rw [mem_keys, mem_keys]
    constructor
    · rintro ⟨value, hvalue⟩
      obtain ⟨image, himage, -⟩ := exists_of_rel (h key) hvalue
      exact ⟨image, himage⟩
    · rintro ⟨image, himage⟩
      obtain ⟨value, hvalue, -⟩ := exists_of_rel_right (h key) himage
      exact ⟨value, hvalue⟩
  rw [entries_eq_filterMap a, entries_eq_filterMap b, hkeys]
  refine List.rel_filterMap ?_ (List.forall₂_same.2 fun key _ => Eq.refl key)
  rintro key _ rfl
  exact rel_map (h key) fun _ _ hxy => ⟨rfl, hxy⟩

theorem mem_values : value ∈ d.values ↔ ∃ key, d.get? key = some value := by
  simp only [values, List.mem_map, get?_eq_some_iff]
  constructor
  · rintro ⟨⟨k, v⟩, h, rfl⟩; exact ⟨k, h⟩
  · rintro ⟨k, h⟩; exact ⟨(k, value), h, rfl⟩

/-- Puts every entry under the image of its key. -/
def mapKeys (f : String → String) (d : Dict α) : Dict α :=
  .ofList (d.entries.map fun p => (f p.1, p.2))

section
variable {f : String → String} (hf : Function.Injective f) (d : Dict α)
include hf

theorem get?_mapKeys (key : String) : (d.mapKeys f).get? (f key) = d.get? key := by
  have hkeys : ((d.entries.map fun p => (f p.1, p.2)).map (·.1)).Nodup := by
    have himages : (d.entries.map fun p => (f p.1, p.2)).map (·.1) = d.keys.map f := by
      rw [keys, List.map_map, List.map_map]
      rfl
    rw [himages]
    exact d.nodup_keys.map hf
  rw [mapKeys, get?, ofList, Entries.get?_ofList_of_nodup hkeys, get?]
  induction d.entries with
  | nil => rfl
  | cons e rest ih => simp only [List.map_cons, Entries.get?, hf.eq_iff, ih]

theorem mem_keys_mapKeys {key : String} : key ∈ (d.mapKeys f).keys ↔ ∃ k ∈ d.keys, f k = key := by
  constructor
  · intro h
    obtain ⟨value, hvalue⟩ := mem_keys.1 h
    obtain ⟨entry, hentry, heq⟩ := List.mem_map.1
      (Entries.mem_of_mem_ofList (get?_eq_some_iff.1 hvalue))
    exact ⟨entry.1, List.mem_map_of_mem hentry, congrArg Prod.fst heq⟩
  · rintro ⟨k, hk, rfl⟩
    obtain ⟨value, hvalue⟩ := mem_keys.1 hk
    exact mem_keys.2 ⟨value, (get?_mapKeys hf d k).trans hvalue⟩

end

end Dict

end ApiKinds
