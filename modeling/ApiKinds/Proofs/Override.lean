/-
  Lists in which a new element takes the place of the one with its key.

  * `keys_overrideAll`: the keys of such a list stay in the order in which they first
    appeared.
  * `find?_overrideAll`: a key has the last element that came with it.
  * `overrideAll_eq`: so a list with distinct keys is overridden to the last elements of all
    keys.
  * `Place`: the key of a parameter; `effectiveParameters_eq`: the parameters in effect for an
    operation as such a list.
-/
import ApiKinds.Swagger.Upgrade
import ApiKinds.Survey.Payload
import Mathlib.Data.List.Nodup

namespace ApiKinds

open Swagger

variable {α β κ : Type}

/-- Overrides and completes a list by the elements of another, one after the other. -/
def overrideAll (overrides : α → α → Bool) (old new : List α) : List α :=
  new.foldl (fun merged a => replaceOrAppend overrides a merged) old

/-! ## One new element -/

section
variable {key : α → κ} {overrides : α → α → Bool}

theorem replaceOrAppend_of_not_mem (hkey : ∀ a b, overrides a b ↔ key a = key b) {new : α}
    {old : List α} (h : key new ∉ old.map key) :
    replaceOrAppend overrides new old = old ++ [new] := by
  induction old with
  | nil => rfl
  | cons b rest ih =>
    rw [List.map_cons, List.mem_cons, not_or] at h
    rw [replaceOrAppend, if_neg (by rw [hkey]; exact h.1), ih h.2, List.cons_append]

theorem keys_replaceOrAppend_of_mem (hkey : ∀ a b, overrides a b ↔ key a = key b) {new : α}
    {old : List α} (h : key new ∈ old.map key) :
    (replaceOrAppend overrides new old).map key = old.map key := by
  induction old with
  | nil => simp at h
  | cons b rest ih =>
    rw [replaceOrAppend]
    split
    · next heq => rw [List.map_cons, List.map_cons, (hkey new b).1 heq]
    · next hne =>
      rw [hkey] at hne
      rw [List.map_cons, List.map_cons, ih ((List.mem_cons.1 h).resolve_left hne)]

theorem find?_replaceOrAppend [DecidableEq κ] (hkey : ∀ a b, overrides a b ↔ key a = key b)
    (new : α) (old : List α) (k : κ) : (replaceOrAppend overrides new old).find? (key · = k) =
      if key new = k then some new else old.find? (key · = k) := by
  induction old with
  | nil => by_cases hk : key new = k <;> simp [replaceOrAppend, hk]
  | cons b rest ih =>
    rw [replaceOrAppend]
    split
    · next heq =>
      by_cases hk : key new = k
      · simp [hk]
      · simp [hk, ← (hkey new b).1 heq]
    · next hne =>
      rw [hkey] at hne
      rw [List.find?_cons, List.find?_cons, ih]
      by_cases hb : key b = k
      · subst hb
        simp [hne]
      · simp [hb]

/-! ## Many new elements -/

theorem overrideAll_of_nodup (hkey : ∀ a b, overrides a b ↔ key a = key b) {old new : List α}
    (h : ((old ++ new).map key).Nodup) : overrideAll overrides old new = old ++ new := by
  induction new generalizing old with
  | nil => simp [overrideAll]
  | cons a rest ih =>
    have hnot : key a ∉ old.map key := by
      rw [List.map_append, List.map_cons, List.nodup_append] at h
      exact fun hmem => h.2.2 _ hmem _ List.mem_cons_self rfl
    have hstep : overrideAll overrides old (a :: rest) =
        overrideAll overrides (old ++ [a]) rest := by
      rw [overrideAll, List.foldl_cons, replaceOrAppend_of_not_mem hkey hnot, overrideAll]
    rw [hstep, ih (by simpa using h), List.append_assoc, List.singleton_append]

end

section
variable [DecidableEq κ] {key : α → κ} {overrides : α → α → Bool}
  (hkey : ∀ a b, overrides a b ↔ key a = key b)
include hkey

/-- The keys of the old elements come first, and then the new ones in order. -/
theorem keys_overrideAll (old new : List α) : (overrideAll overrides old new).map key =
    old.map key ++ ((new.map key).removeAll (old.map key)).eraseDups := by
  induction new generalizing old with
  | nil => simp [overrideAll, List.removeAll]
  | cons a rest ih =>
    rw [overrideAll, List.foldl_cons, ← overrideAll, ih, List.map_cons]
    by_cases hmem : key a ∈ old.map key
    · rw [keys_replaceOrAppend_of_mem hkey hmem, List.removeAll, List.removeAll,
        List.filter_cons_of_neg (by simpa using hmem)]
    · have hremove : (rest.map key).removeAll (old.map key ++ [key a]) =
          ((rest.map key).removeAll (old.map key)).filter fun k => !k == key a := by
        simp only [List.removeAll, List.filter_filter]
        refine List.filter_congr fun k _ => ?_
        by_cases hk : k = key a <;> simp [hk]
      rw [replaceOrAppend_of_not_mem hkey hmem, List.map_append, List.map_cons, List.map_nil,
        hremove, List.append_assoc, List.singleton_append, ← List.eraseDups_cons, List.removeAll,
        List.removeAll, List.filter_cons_of_pos (by simpa using hmem)]

/-- A key has the last of the new elements that come with it, or else the first old one. -/
theorem find?_overrideAll (old new : List α) (k : κ) :
    (overrideAll overrides old new).find? (key · = k) =
      (new.findRev? (key · = k)).or (old.find? (key · = k)) := by
  induction new generalizing old with
  | nil => simp [overrideAll]
  | cons a rest ih =>
    rw [overrideAll, List.foldl_cons, ← overrideAll, ih, find?_replaceOrAppend hkey]
    simp only [List.findRev?_eq_find?_reverse, List.reverse_cons, List.find?_append,
      Option.or_assoc, List.find?_cons, List.find?_nil]
    by_cases hk : key a = k <;> simp [hk]

end

/-! ## Members and images -/

theorem mem_replaceOrAppend_self (overrides : α → α → Bool) (new : α) (old : List α) :
    new ∈ replaceOrAppend overrides new old := by
  induction old with
  | nil => exact List.mem_singleton_self new
  | cons b rest ih =>
    rw [replaceOrAppend]
    split
    · exact List.mem_cons_self
    · exact List.mem_cons_of_mem b ih

theorem mem_replaceOrAppend_of_mem {overrides : α → α → Bool} {new a : α} {old : List α}
    (ha : a ∈ old) (hkept : overrides new a = false) : a ∈ replaceOrAppend overrides new old := by
  induction old with
  | nil => cases ha
  | cons b rest ih =>
    rw [replaceOrAppend]
    rcases List.mem_cons.1 ha with rfl | hrest
    · rw [if_neg (by simp [hkept])]
      exact List.mem_cons_self
    · split
      · exact List.mem_cons_of_mem new hrest
      · exact List.mem_cons_of_mem b (ih hrest)

/-- An element that none after it overrides is kept. -/
theorem mem_overrideAll {overrides : α → α → Bool} {a : α} {after : List α}
    (hkept : ∀ b ∈ after, overrides b a = false) (old before : List α) :
    a ∈ overrideAll overrides old (before ++ a :: after) := by
  have hafter : ∀ merged, a ∈ merged → a ∈ overrideAll overrides merged after := by
    induction after with
    | nil => exact fun _ ha => ha
    | cons b rest ih =>
      obtain ⟨hb, hrest⟩ := List.forall_mem_cons.1 hkept
      exact fun merged ha => ih hrest _ (mem_replaceOrAppend_of_mem ha hb)
  rw [overrideAll, List.foldl_append, List.foldl_cons]
  exact hafter _ (mem_replaceOrAppend_self ..)

theorem forall_mem_replaceOrAppend {p : α → Prop} {overrides : α → α → Bool} {new : α}
    {old : List α} (hnew : p new) (hold : ∀ a ∈ old, p a) :
    ∀ a ∈ replaceOrAppend overrides new old, p a := by
  induction old with
  | nil => simpa [replaceOrAppend] using hnew
  | cons b rest ih =>
    obtain ⟨hb, hrest⟩ := List.forall_mem_cons.1 hold
    rw [replaceOrAppend]
    split
    · exact List.forall_mem_cons.2 ⟨hnew, hrest⟩
    · exact List.forall_mem_cons.2 ⟨hb, ih hrest⟩

theorem forall_mem_overrideAll {p : α → Prop} {overrides : α → α → Bool} {old new : List α}
    (hold : ∀ a ∈ old, p a) (hnew : ∀ a ∈ new, p a) : ∀ a ∈ overrideAll overrides old new, p a := by
  induction new generalizing old with
  | nil => exact hold
  | cons a rest ih =>
    obtain ⟨ha, hrest⟩ := List.forall_mem_cons.1 hnew
    exact ih (forall_mem_replaceOrAppend ha hold) hrest

section
variable {R : α → β → Prop} {overrides : α → α → Bool} {overrides' : β → β → Bool}
  (hR : ∀ a b c d, R a b → R c d → overrides a c = overrides' b d)
include hR

theorem rel_replaceOrAppend {new : α} {new' : β} {old : List α} {old' : List β} (hnew : R new new')
    (hold : List.Forall₂ R old old') :
    List.Forall₂ R (replaceOrAppend overrides new old) (replaceOrAppend overrides' new' old') := by
  induction hold with
  | nil => exact .cons hnew .nil
  | @cons b b' _ _ hb hrest ih =>
    rw [replaceOrAppend, replaceOrAppend, hR _ _ _ _ hnew hb]
    by_cases h : overrides' new' b'
    · rw [if_pos h, if_pos h]
      exact .cons hnew hrest
    · rw [if_neg h, if_neg h]
      exact .cons hb ih

/-- Related lists that are overridden alike stay related. -/
theorem rel_overrideAll {old new : List α} {old' new' : List β} (hold : List.Forall₂ R old old')
    (hnew : List.Forall₂ R new new') :
    List.Forall₂ R (overrideAll overrides old new) (overrideAll overrides' old' new') := by
  induction hnew generalizing old old' with
  | nil => exact hold
  | cons ha _ ih => exact ih (rel_replaceOrAppend hR ha hold)

end

theorem map_overrideAll {f : α → β} {overrides : α → α → Bool} {overrides' : β → β → Bool}
    (hf : ∀ a b, overrides a b = overrides' (f a) (f b)) (old new : List α) :
    (overrideAll overrides old new).map f = overrideAll overrides' (old.map f) (new.map f) := by
  have himage : ∀ l : List α, List.Forall₂ (fun a b => f a = b) l (l.map f) := fun l => by
    simp [List.forall₂_map_right_iff, List.forall₂_same]
  have hrel : List.Forall₂ (fun a b => f a = b) (overrideAll overrides old new)
      (overrideAll overrides' (old.map f) (new.map f)) :=
    rel_overrideAll (fun a b c d hab hcd => by rw [hf, hab, hcd]) (himage old) (himage new)
  rwa [← List.forall₂_map_left_iff, List.forall₂_eq_eq_eq] at hrel

/-! ## Closed form -/

section
variable [DecidableEq κ] {key : α → κ}

/-- A list with distinct keys is read off from its keys. -/
theorem eq_filterMap_of_nodup {l : List α} (h : (l.map key).Nodup) :
    l = (l.map key).filterMap fun k => l.find? (key · = k) := by
  induction l with
  | nil => rfl
  | cons a rest ih =>
    obtain ⟨hnot, hrest⟩ := List.nodup_cons.1 h
    have hsame : (rest.map key).filterMap (fun k => (a :: rest).find? (key · = k)) =
        (rest.map key).filterMap fun k => rest.find? (key · = k) := by
      refine List.filterMap_congr fun k hk => ?_
      have hne : key a ≠ k := fun heq => hnot (heq ▸ hk)
      simp [hne]
    rw [List.map_cons, List.filterMap_cons_some (by simp : _ = some a), hsame, ← ih hrest]

theorem eraseDups_eq_self {l : List κ} (h : l.Nodup) : l.eraseDups = l := by
  induction l with
  | nil => rfl
  | cons k rest ih =>
    obtain ⟨hnot, hrest⟩ := List.nodup_cons.1 h
    have hfilter : (rest.filter fun j => !j == k) = rest := by
      refine List.filter_eq_self.2 fun j hj => ?_
      have hne : j ≠ k := fun heq => hnot (heq ▸ hj)
      simp [hne]
    rw [List.eraseDups_cons, hfilter, ih hrest]

theorem nodup_eraseDups : ∀ l : List κ, l.eraseDups.Nodup
  | [] => by simp
  | k :: rest => by
    rw [List.eraseDups_cons, List.nodup_cons, List.mem_eraseDups]
    exact ⟨by simp, nodup_eraseDups (rest.filter fun j => !j == k)⟩
termination_by l => l.length
decreasing_by exact Nat.lt_succ_of_le (List.length_filter_le ..)

/-- Keys that are distinct at first stay so, in the order in which they first appear. -/
theorem keys_overrideAll_of_nodup {overrides : α → α → Bool}
    (hkey : ∀ a b, overrides a b ↔ key a = key b) {old : List α} (h : (old.map key).Nodup)
    (new : List α) :
    (overrideAll overrides old new).map key = ((old ++ new).map key).eraseDups := by
  rw [keys_overrideAll hkey, List.map_append, List.eraseDups_append, eraseDups_eq_self h]

/-- A list with distinct keys is overridden to the last elements of all keys, in the order in
    which these first appear. -/
theorem overrideAll_eq {overrides : α → α → Bool} (hkey : ∀ a b, overrides a b ↔ key a = key b)
    {old : List α} (h : (old.map key).Nodup) (new : List α) :
    overrideAll overrides old new = ((old ++ new).map key).eraseDups.filterMap fun k =>
      (new.findRev? (key · = k)).or (old.find? (key · = k)) := by
  have hkeys := keys_overrideAll_of_nodup hkey h new
  have hnodup : ((overrideAll overrides old new).map key).Nodup := hkeys ▸ nodup_eraseDups _
  rw [eq_filterMap_of_nodup hnodup, hkeys]
  simp only [find?_overrideAll hkey]

end

/-! ## Parameters in effect -/

/-- Name and location, by which one parameter overrides another. -/
structure Place where
  name : String
  location : String
deriving DecidableEq

def Api.Parameter.place (parameter : Parameter) : Place :=
  ⟨parameter.name, parameter.location⟩

def Swagger.Parameter.place (parameter : Parameter) : Place :=
  ⟨parameter.name, parameter.location⟩

theorem Api.Parameter.overrides_iff (new old : Parameter) :
    new.overrides old ↔ new.place = old.place := by
  simp [overrides, place]

theorem Swagger.Resolved.overrides_iff (new old : Resolved) :
    new.overrides old ↔ new.parameter.place = old.parameter.place := by
  simp [overrides, Parameter.place]

theorem overrideOrAppend_eq (new : Api.Parameter) (old : List Api.Parameter) :
    overrideOrAppend new old = replaceOrAppend Api.Parameter.overrides new old := by
  induction old with
  | nil => rfl
  | cons b rest ih => rw [overrideOrAppend, replaceOrAppend, ih]

theorem effectiveParameters_eq (doc : Api.Document) (item : Api.PathItem)
    (operation : Api.Operation) : effectiveParameters doc item operation =
      overrideAll Api.Parameter.overrides (item.parameters.filterMap doc.parameter?)
        (operation.parameters.filterMap doc.parameter?) := by
  simp only [effectiveParameters, overrideAll, overrideOrAppend_eq]

end ApiKinds
