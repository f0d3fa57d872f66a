/-
  Finite maps from texts, kept as the list of their entries in key order.

  * `Entries.insert`, `Entries.ofList`: the operations on plain lists of pairs,
    for trees whose nodes hold such lists. A later pair replaces an earlier one
    with the same key.
  * `Dict α`: a list of entries with strictly increasing keys, so that two maps
    with the same entries are equal. `get?`, `insert`, `ofList`, `map`,
    `filterMap` keep the order by construction.
  * `get?_insert`: what an insertion does to the view `get?`.
-/

namespace ApiKinds

/-! ## Lists of entries -/

namespace Entries

variable {α β : Type}

/-- The keys increase strictly. -/
def Sorted (entries : List (String × α)) : Prop :=
  entries.Pairwise fun a b => a.1 < b.1

/-- The value of the first pair with the key. -/
def get? (key : String) : List (String × α) → Option α
  | [] => none
  | (k, v) :: rest => if key = k then some v else get? key rest

/-- Puts a value under a key, in key order, in place of the one that was there. -/
def insert (key : String) (value : α) : List (String × α) → List (String × α)
  | [] => [(key, value)]
  | (k, v) :: rest =>
    if key < k then (key, value) :: (k, v) :: rest
    else if key = k then (key, value) :: rest
    else (k, v) :: insert key value rest

/-- The pairs in key order; of two with the same key the later one stays. -/
def ofList (pairs : List (String × α)) : List (String × α) :=
  pairs.foldl (fun entries p => insert p.1 p.2 entries) []

theorem mem_insert {key : String} {value : α} {p : String × α} {entries : List (String × α)}
    (h : p ∈ insert key value entries) : p = (key, value) ∨ p ∈ entries := by
  induction entries with
  | nil => simpa [insert] using h
  | cons e rest ih =>
    rw [insert] at h
    split at h
    · simpa using h
    · split at h
      · rcases List.mem_cons.1 h with h | h
        · exact .inl h
        · exact .inr (List.mem_cons_of_mem _ h)
      · rcases List.mem_cons.1 h with h | h
        · exact .inr (h ▸ List.mem_cons_self)
        · exact (ih h).imp id (List.mem_cons_of_mem _)

theorem sorted_insert {key : String} {value : α} {entries : List (String × α)}
    (h : Sorted entries) : Sorted (insert key value entries) := by
  induction entries with
  | nil => simp [insert, Sorted]
  | cons e rest ih =>
    obtain ⟨hall, hrest⟩ := List.pairwise_cons.1 h
    rw [insert]
    split
    · rename_i hlt
      refine List.pairwise_cons.2 ⟨fun p hp => ?_, h⟩
      rcases List.mem_cons.1 hp with rfl | hp
      · exact hlt
      · exact String.lt_trans hlt (hall p hp)
    · split
      · rename_i heq
        exact List.pairwise_cons.2 ⟨fun p hp => by simpa [heq] using hall p hp, hrest⟩
      · rename_i hlt hne
        refine List.pairwise_cons.2 ⟨fun p hp => ?_, ih hrest⟩
        rcases mem_insert hp with rfl | hp
        · exact Decidable.byContradiction fun hge =>
            hne (String.le_antisymm (String.not_lt.1 hge) (String.not_lt.1 hlt))
        · exact hall p hp

theorem sorted_foldl_insert (pairs : List (String × α)) {entries : List (String × α)}
    (h : Sorted entries) :
    Sorted (pairs.foldl (fun entries p => insert p.1 p.2 entries) entries) := by
  induction pairs generalizing entries with
  | nil => exact h
  | cons p rest ih => exact ih (sorted_insert h)

theorem sorted_ofList (pairs : List (String × α)) : Sorted (ofList pairs) :=
  sorted_foldl_insert pairs .nil

theorem get?_insert (key k : String) (value : α) (entries : List (String × α)) :
    get? k (insert key value entries) = if k = key then some value else get? k entries := by
  induction entries with
  | nil => rfl
  | cons e rest ih =>
    rw [insert]
    split
    · rfl
    · split
      · rename_i heq
        by_cases h : k = key <;> simp [get?, h, ← heq]
      · rename_i hne
        by_cases h : k = e.1
        · subst h; simp [get?, Ne.symm hne]
        · simp only [get?, h, if_false, ih]

theorem sorted_map {entries : List (String × α)} (f : String → α → β) (h : Sorted entries) :
    Sorted (entries.map fun p => (p.1, f p.1 p.2)) :=
  List.pairwise_map.2 (h.imp id)

theorem sorted_filterMap {entries : List (String × α)} (f : String → α → Option β)
    (h : Sorted entries) :
    Sorted (entries.filterMap fun p => (f p.1 p.2).map (p.1, ·)) := by
  refine List.pairwise_filterMap.2 (h.imp fun {a b} hab x hx y hy => ?_)
  obtain ⟨x', -, rfl⟩ := Option.map_eq_some_iff.1 hx
  obtain ⟨y', -, rfl⟩ := Option.map_eq_some_iff.1 hy
  exact hab

theorem sorted_filter {entries : List (String × α)} (keep : String × α → Bool)
    (h : Sorted entries) : Sorted (entries.filter keep) :=
  List.Pairwise.filter keep h

end Entries

/-! ## Maps -/

/-- A finite map from texts. -/
structure Dict (α : Type) where
  /-- The entries, in key order. -/
  entries : List (String × α)
  /-- The keys increase strictly. -/
  sorted : Entries.Sorted entries

namespace Dict

variable {α β : Type}

@[ext] theorem ext {a b : Dict α} (h : a.entries = b.entries) : a = b := by
  cases a; cases b; cases h; rfl

instance [DecidableEq α] : DecidableEq (Dict α) := fun a b =>
  decidable_of_iff (a.entries = b.entries) ⟨ext, fun h => h ▸ rfl⟩

/-- The map without entries. -/
def empty : Dict α := ⟨[], .nil⟩

instance : Inhabited (Dict α) := ⟨empty⟩

/-- The value under a key. -/
def get? (d : Dict α) (key : String) : Option α :=
  Entries.get? key d.entries

def contains (d : Dict α) (key : String) : Bool :=
  (d.get? key).isSome

def size (d : Dict α) : Nat :=
  d.entries.length

/-- The keys, in order. -/
def keys (d : Dict α) : List String :=
  d.entries.map (·.1)

/-- The values, in key order. -/
def values (d : Dict α) : List α :=
  d.entries.map (·.2)

/-- Puts a value under a key, in place of the one that was there. -/
def insert (d : Dict α) (key : String) (value : α) : Dict α :=
  ⟨Entries.insert key value d.entries, Entries.sorted_insert d.sorted⟩

/-- The map of the pairs; of two with the same key the later one stays. -/
def ofList (pairs : List (String × α)) : Dict α :=
  ⟨Entries.ofList pairs, Entries.sorted_ofList pairs⟩

/-- Changes every value. -/
def map (f : String → α → β) (d : Dict α) : Dict β :=
  ⟨d.entries.map fun p => (p.1, f p.1 p.2), Entries.sorted_map f d.sorted⟩

/-- Changes the values that `f` has an image for and leaves the others out. -/
def filterMap (f : String → α → Option β) (d : Dict α) : Dict β :=
  ⟨d.entries.filterMap fun p => (f p.1 p.2).map (p.1, ·), Entries.sorted_filterMap f d.sorted⟩

/-- The entries whose key is kept. -/
def filterKeys (keep : String → Bool) (d : Dict α) : Dict α :=
  ⟨d.entries.filter fun p => keep p.1, Entries.sorted_filter _ d.sorted⟩

@[simp] theorem get?_empty (key : String) : (empty : Dict α).get? key = none := rfl

theorem get?_insert (d : Dict α) (key k : String) (value : α) :
    (d.insert key value).get? k = if k = key then some value else d.get? k :=
  Entries.get?_insert key k value d.entries

end Dict

end ApiKinds
