/-
  When a computation that may fail gives a result, and which failure it gives otherwise.

  * `bind_eq_ok_iff`, `mapM_eq_ok_iff`: there is a result if each step has one.
  * `Raises`: the faults of a computation in the order in which it meets them; it fails with
    the first. `Raises.bind`, `Raises.mapM`: those of a sequence of steps are those of the
    steps.
-/
import ApiKinds.Proofs.Related

namespace ApiKinds

variable {α β ε : Type}

theorem isOk_iff {x : Except ε α} : x.isOk ↔ ∃ a, x = .ok a := by
  cases x with
  | error e => simp [Except.isOk, Except.toBool]
  | ok a => simp [Except.isOk, Except.toBool]

theorem bind_eq_ok_iff {x : Except ε α} {f : α → Except ε β} {b : β} :
    (x >>= f) = .ok b ↔ ∃ a, x = .ok a ∧ f a = .ok b := by
  cases x with
  | error e => simp [bind, Except.bind]
  | ok a => simp [bind, Except.bind]

theorem map_eq_ok_iff {x : Except ε α} {f : α → β} {b : β} :
    x.map f = .ok b ↔ ∃ a, x = .ok a ∧ f a = b := by
  cases x with
  | error e => simp [Except.map]
  | ok a => simp [Except.map]

theorem mapError_eq_ok_iff {δ : Type} {x : Except ε α} {f : ε → δ} {a : α} :
    x.mapError f = .ok a ↔ x = .ok a := by
  cases x with
  | error e => simp [Except.mapError]
  | ok a => simp [Except.mapError]

/-- A list is gone through to its end if every element gives a result. -/
theorem mapM_eq_ok_iff {f : α → Except ε β} {as : List α} {bs : List β} :
    as.mapM f = .ok bs ↔ List.Forall₂ (fun a b => f a = .ok b) as bs := by
  induction as generalizing bs with
  | nil => simp [pure, Except.pure, eq_comm]
  | cons a rest ih =>
    simp only [List.mapM_cons, bind_eq_ok_iff, ih, List.forall₂_cons_left_iff, pure, Except.pure,
      Except.ok.injEq]
    constructor
    · rintro ⟨b, hb, bs, hbs, rfl⟩
      exact ⟨b, bs, hb, hbs, rfl⟩
    · rintro ⟨b, bs, hb, hbs, rfl⟩
      exact ⟨b, hb, bs, hbs, rfl⟩

/-- Every result is that of some element. -/
theorem exists_of_mem_mapM {f : α → Except ε β} {as : List α} {bs : List β}
    (h : as.mapM f = .ok bs) : ∀ b ∈ bs, ∃ a ∈ as, f a = .ok b :=
  exists_of_mem_right (mapM_eq_ok_iff.1 h)

/-- A list that is gone through to its end gives a result in the place of each element. -/
theorem mapM_append_cons_eq_ok {f : α → Except ε β} {before after : List α} {a : α} {bs : List β}
    (h : (before ++ a :: after).mapM f = .ok bs) :
    ∃ front b back, before.mapM f = .ok front ∧ f a = .ok b ∧ after.mapM f = .ok back ∧
      bs = front ++ b :: back := by
  rw [List.mapM_append, bind_eq_ok_iff] at h
  obtain ⟨front, hfront, h⟩ := h
  simp only [List.mapM_cons, bind_eq_ok_iff] at h
  obtain ⟨_, ⟨b, hb, back, hback, htail⟩, hbs⟩ := h
  cases htail
  cases hbs
  exact ⟨front, b, back, hfront, hb, hback, rfl⟩

/-- A list is gone through to its end just if every element gives a result. -/
theorem exists_mapM_iff {f : α → Except ε β} {as : List α} :
    (∃ bs, as.mapM f = .ok bs) ↔ ∀ a ∈ as, ∃ b, f a = .ok b := by
  simp only [mapM_eq_ok_iff]
  induction as with
  | nil => simp
  | cons a rest ih =>
    simp only [List.forall₂_cons_left_iff, List.forall_mem_cons, ← ih]
    constructor
    · rintro ⟨_, b, bs, hb, hbs, -⟩
      exact ⟨⟨b, hb⟩, bs, hbs⟩
    · rintro ⟨⟨b, hb⟩, bs, hbs⟩
      exact ⟨_, b, bs, hb, hbs, rfl⟩

theorem filterMap_toOption_of_mapM {f : α → Except ε β} {as : List α} {bs : List β}
    (h : as.mapM f = .ok bs) : as.filterMap (fun a => (f a).toOption) = bs := by
  rw [mapM_eq_ok_iff] at h
  induction h with
  | nil => rfl
  | cons hb _ ih => rw [List.filterMap_cons_some (by rw [hb, Except.toOption]), ih]

/-! ## Failures -/

/-- The computation fails with the first of the faults, if there are any. -/
def Raises (x : Except ε α) (faults : List ε) : Prop :=
  ∀ e, x = .error e ↔ faults.head? = some e

namespace Raises

variable {x : Except ε α} {f : α → Except ε β} {before after : List ε}

theorem exists_ok_iff (h : Raises x before) : (∃ a, x = .ok a) ↔ before = [] := by
  rw [← List.head?_eq_none_iff, Option.eq_none_iff_forall_ne_some]
  cases x with
  | error e => simpa using ⟨e, (h e).1 rfl⟩
  | ok a => simpa using fun e he => nomatch (h e).2 he

theorem ok (a : α) : Raises (.ok a : Except ε α) [] :=
  fun e => by simp

theorem error (e : ε) : Raises (.error e : Except ε α) [e] :=
  fun e' => by simp

theorem bind (hx : Raises x before) (hf : ∀ a, Raises (f a) after) :
    Raises (x >>= f) (before ++ after) := by
  intro e
  cases x with
  | error e' =>
    have hhead : before.head? = some e' := (hx e').1 rfl
    rw [List.head?_append, hhead]
    simp [Bind.bind, Except.bind]
  | ok a =>
    have hnil : before = [] := hx.exists_ok_iff.1 ⟨a, rfl⟩
    rw [hnil, List.nil_append]
    exact hf a e

theorem map (hx : Raises x before) (g : α → β) : Raises (x.map g) before := by
  intro e
  rw [← hx e]
  cases x <;> simp [Except.map]

theorem mapError {δ : Type} (hx : Raises x before) (g : ε → δ) :
    Raises (x.mapError g) (before.map g) := by
  intro e
  rw [List.head?_map, Option.map_eq_some_iff]
  simp only [← hx _]
  cases x <;> simp [Except.mapError]

theorem mapM {faults : α → List ε} (h : ∀ a, Raises (f a) (faults a)) (as : List α) :
    Raises (as.mapM f) (as.flatMap faults) := by
  induction as with
  | nil => exact .ok []
  | cons a rest ih =>
    rw [List.mapM_cons, List.flatMap_cons]
    refine (h a).bind fun b => ?_
    rw [← List.append_nil (rest.flatMap faults)]
    exact ih.bind fun bs => .ok (b :: bs)

end Raises

end ApiKinds
