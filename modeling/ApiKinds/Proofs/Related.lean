/-
  Lists and optional values whose elements are related one by one.
-/
import Mathlib.Data.List.Forall2

namespace ApiKinds

variable {α β γ δ : Type} {R : α → β → Prop}

/-! ## Optional values -/

section
variable {x : Option α} {y : Option β} (h : Option.Rel R x y)
include h

theorem exists_of_rel {a : α} (ha : x = some a) : ∃ b, y = some b ∧ R a b := by
  subst ha
  cases h with
  | some hab => exact ⟨_, rfl, hab⟩

theorem exists_of_rel_right {b : β} (hb : y = some b) : ∃ a, x = some a ∧ R a b := by
  subst hb
  cases h with
  | some hab => exact ⟨_, rfl, hab⟩

end

theorem rel_bind {S : γ → δ → Prop} {x : Option α} {y : Option β} {f : α → Option γ}
    {g : β → Option δ} (h : Option.Rel R x y) (hfg : ∀ a b, R a b → Option.Rel S (f a) (g b)) :
    Option.Rel S (x.bind f) (y.bind g) := by
  cases h with
  | none => exact .none
  | some hab => exact hfg _ _ hab

theorem rel_map {S : γ → δ → Prop} {x : Option α} {y : Option β} {f : α → γ} {g : β → δ}
    (h : Option.Rel R x y) (hfg : ∀ a b, R a b → S (f a) (g b)) :
    Option.Rel S (x.map f) (y.map g) := by
  cases h with
  | none => exact .none
  | some hab => exact .some (hfg _ _ hab)

/-- What is found with `g` is what is found with `f`, changed by `k`. -/
theorem bind_eq_map_of_rel {x : Option α} {y : Option β} (h : Option.Rel R x y)
    {f : α → Option γ} {g : β → Option δ} {k : γ → δ}
    (hfg : ∀ a b, R a b → g b = (f a).map k) : y.bind g = (x.bind f).map k := by
  cases h with
  | none => rfl
  | some hab => exact hfg _ _ hab

theorem forall_mem_bind {x : Option α} {f : α → Option β} {P : β → Prop}
    (h : ∀ a ∈ x, ∀ b ∈ f a, P b) : ∀ b ∈ x >>= f, P b := by
  intro b hb
  obtain ⟨a, ha, hb⟩ := Option.bind_eq_some_iff.1 hb
  exact h a ha b hb

theorem bind_eq_some {x : Option α} {f : α → Option β} {a : α} {b : β} (hx : x = some a)
    (h : f a = some b) : (x >>= f) = some b := by
  rw [hx]
  exact h

theorem rel_orElse {x x' : Option α} {y y' : Option β} (h : Option.Rel R x y)
    (h' : Option.Rel R x' y') : Option.Rel R (x <|> x') (y <|> y') := by
  cases h with
  | none => exact h'
  | some hab => exact .some hab

theorem rel_eq_iff {x y : Option α} : Option.Rel Eq x y ↔ x = y := by
  constructor
  · rintro (hab | _)
    · rw [hab]
    · rfl
  · rintro rfl
    cases x with
    | none => exact .none
    | some a => exact .some rfl

/-! ## Lists -/

section
variable {as : List α} {bs : List β} (h : List.Forall₂ R as bs)
include h

theorem exists_of_mem_right : ∀ b ∈ bs, ∃ a ∈ as, R a b := by
  induction h with
  | nil => simp
  | @cons a b as bs hab _ ih =>
    refine List.forall_mem_cons.2 ⟨⟨a, List.mem_cons_self, hab⟩, fun c hc => ?_⟩
    obtain ⟨a', ha', hc'⟩ := ih c hc
    exact ⟨a', List.mem_cons_of_mem a ha', hc'⟩

theorem rel_getLast? : Option.Rel R as.getLast? bs.getLast? := by
  induction h with
  | nil => exact .none
  | cons hab _ ih =>
    rw [List.getLast?_cons, List.getLast?_cons]
    generalize List.getLast? _ = x at ih
    generalize List.getLast? _ = y at ih
    cases ih with
    | none => exact .some hab
    | some hlast => exact .some hlast

theorem map_eq_of_forall₂ {f : α → γ} {g : β → γ} (hfg : ∀ a b, R a b → f a = g b) :
    as.map f = bs.map g := by
  rw [← List.forall₂_eq_eq_eq, List.forall₂_map_left_iff, List.forall₂_map_right_iff]
  exact h.imp hfg

theorem foldl_eq_of_forall₂ {f : γ → α → γ} {g : γ → β → γ}
    (hfg : ∀ c a b, R a b → f c a = g c b) (start : γ) : as.foldl f start = bs.foldl g start := by
  induction h generalizing start with
  | nil => rw [List.foldl_nil, List.foldl_nil]
  | cons hab _ ih => rw [List.foldl_cons, List.foldl_cons, hfg _ _ _ hab, ih]

theorem findSome?_eq_of_forall₂ {f : α → Option γ} {g : β → Option γ}
    (hfg : ∀ a b, R a b → f a = g b) : as.findSome? f = bs.findSome? g := by
  induction h with
  | nil => rw [List.findSome?_nil, List.findSome?_nil]
  | cons hab _ ih => rw [List.findSome?_cons, List.findSome?_cons, hfg _ _ hab, ih]

theorem filterMap_eq_of_forall₂ {f : α → Option γ} {g : β → Option γ}
    (hfg : ∀ a b, R a b → f a = g b) : as.filterMap f = bs.filterMap g := by
  induction h with
  | nil => rfl
  | cons hab _ ih => rw [List.filterMap_cons, List.filterMap_cons, hfg _ _ hab, ih]

end

theorem mapM_eq_some_iff {f : α → Option β} {as : List α} {bs : List β} :
    as.mapM f = some bs ↔ List.Forall₂ (fun a b => f a = some b) as bs := by
  induction as generalizing bs with
  | nil => simp [eq_comm]
  | cons a rest ih =>
    simp only [List.mapM_cons, bind, Option.bind_eq_some_iff, ih, List.forall₂_cons_left_iff, pure,
      Option.some.injEq]
    constructor
    · rintro ⟨b, hb, bs, hbs, rfl⟩
      exact ⟨b, bs, hb, hbs, rfl⟩
    · rintro ⟨b, bs, hb, hbs, rfl⟩
      exact ⟨b, hb, bs, hbs, rfl⟩

/-! ## Lists that stay the same -/

section
variable (f : α → α)

theorem map_eq_self_iff (items : List α) : items.map f = items ↔ ∀ a ∈ items, f a = a := by
  induction items with
  | nil => simp
  | cons a rest ih => simp [ih]

theorem map_snd_eq_self_iff (entries : List (String × α)) :
    entries.map (fun p => (p.1, f p.2)) = entries ↔ ∀ p ∈ entries, f p.2 = p.2 := by
  rw [map_eq_self_iff fun p : String × α => (p.1, f p.2)]
  simp [Prod.ext_iff]

end

end ApiKinds
