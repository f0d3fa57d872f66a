/-
  Literals by conversion and by trial.

  * `Form`, `Takes`: the forms of literals in the order they are tried, and which values each of
    them takes.
  * `FirstForm`: reading by trial, where the first form that takes a value decides.
  * `read?_iff_firstForm`: so literals are read, at any depth.
  * `firstForm_ofJson`: what is found is the converted value.
-/
import ApiKinds.Proofs.Catalog.Shape

namespace ApiKinds.Literal

/-! ## Forms -/

/-- The forms of literals, in the order they are tried. -/
inductive Form where
  | null
  | bool
  | integer
  | float
  | text
  | list
  | map

/-- The place of a form in that order. -/
def Form.rank : Form → Nat
  | null => 0
  | bool => 1
  | integer => 2
  | float => 3
  | text => 4
  | list => 5
  | map => 6

/-- The values that a form takes, and what they are read as, where `part` tells so of their
    parts. -/
inductive Takes (part : Json → Literal → Prop) : Form → Json → Literal → Prop
  | null : Takes part .null .null .null
  | bool {b} : Takes part .bool (.bool b) (.bool b)
  /-- Only what is written as an integer, if it has 64 bits with a sign. -/
  | integer {i} : Json.Number.fitsSigned i → Takes part .integer (.number (.int i)) (.integer i)
  /-- Any number, integers as the nearest double. -/
  | float {n} : Takes part .float (.number n) (.float n.toBinary64)
  | text {s} : Takes part .text (.string s) (.text s)
  | list {items literals} : List.Forall₂ part items literals →
      Takes part .list (.array items) (.list literals)
  /-- The later of two members with the same key stays. -/
  | map {members entries} : List.Forall₂ (fun m e => m.1 = e.1 ∧ part m.2 e.2) members entries →
      Takes part .map (.object members) (.map (Entries.ofList entries))

/-- A value is read as the first form that takes it. -/
def FirstForm (part : Json → Literal → Prop) (value : Json) (literal : Literal) : Prop :=
  ∃ form, Takes part form value literal ∧
    ∀ earlier : Form, earlier.rank < form.rank → ∀ other, ¬ Takes part earlier value other

/-- The first form that takes a value. -/
def formOf : Json → Form
  | .null => .null
  | .bool _ => .bool
  | .number (.int i) => if Json.Number.fitsSigned i then .integer else .float
  | .number (.real _) => .float
  | .string _ => .text
  | .array _ => .list
  | .object _ => .map

theorem rank_formOf_le {part : Json → Literal → Prop} {form : Form} {value : Json}
    {literal : Literal} (h : Takes part form value literal) :
    (formOf value).rank ≤ form.rank := by
  cases h with
  | integer hfits => exact Nat.le_of_eq (congrArg Form.rank (if_pos hfits))
  | @float n =>
    cases n with
    | int i =>
      rw [formOf]
      split <;> decide
    | real x => exact Nat.le_refl _
  | _ => exact Nat.le_refl _

theorem firstForm_of_takes {part : Json → Literal → Prop} {value : Json} {literal : Literal}
    (h : Takes part (formOf value) value literal) : FirstForm part value literal :=
  ⟨formOf value, h, fun _ hlt _ hother => absurd (rank_formOf_le hother) (Nat.not_le.2 hlt)⟩

/-! ## Reading -/

theorem readItems?_eq_some_iff {items : List Json} {literals : List Literal} :
    readItems? items = some literals ↔
      List.Forall₂ (fun item literal => read? item = some literal) items literals := by
  have hmapM : readItems? items = items.mapM read? := by
    induction items with
    | nil => rw [readItems?, List.mapM_nil]; rfl
    | cons item rest ih => rw [readItems?, List.mapM_cons, ih]; rfl
  rw [hmapM, mapM_eq_some_iff]

theorem readMembers?_eq_some_iff {members : List (String × Json)}
    {entries : List (String × Literal)} :
    readMembers? members = some entries ↔
      List.Forall₂ (fun m e => m.1 = e.1 ∧ read? m.2 = some e.2) members entries := by
  have hmapM : readMembers? members = members.mapM fun m => (read? m.2).map (m.1, ·) := by
    induction members with
    | nil => rw [readMembers?, List.mapM_nil]; rfl
    | cons m rest ih =>
      rw [readMembers?, List.mapM_cons, ih]
      cases read? m.2 <;> rfl
  have hmember (m : String × Json) (e : String × Literal) :
      (read? m.2).map (m.1, ·) = some e ↔ m.1 = e.1 ∧ read? m.2 = some e.2 := by
    rw [Option.map_eq_some_iff]
    constructor
    · rintro ⟨literal, hread, rfl⟩
      exact ⟨rfl, hread⟩
    · rintro ⟨hkey, hread⟩
      exact ⟨e.2, hread, by rw [hkey]⟩
  rw [hmapM, mapM_eq_some_iff]
  simp only [hmember]

theorem read?_number (n : Json.Number) : read? (.number n) = some (ofNumber n) := by
  cases n with
  | int i =>
    by_cases hfits : Json.Number.fitsSigned i
    · simp [read?, readers, Json.bool?, ofNumber, hfits]
    · simp [read?, readers, Json.bool?, Json.double?, Json.Number.toBinary64, ofNumber, hfits]
  | real x => rfl

/-- The form that a literal has been read as takes the value. -/
theorem takes_of_read? {value : Json} {literal : Literal} (h : read? value = some literal) :
    Takes (fun part other => read? part = some other) (formOf value) value literal := by
  cases value with
  | null =>
    cases h
    exact .null
  | bool b =>
    cases h
    exact .bool
  | number n =>
    rw [read?_number] at h
    cases h
    cases n with
    | int i =>
      rw [formOf, ofNumber]
      split
      · next hfits => exact .integer hfits
      · exact .float
    | real x => exact .float
  | string s =>
    cases h
    exact .text
  | array items =>
    rw [read?, Option.map_eq_some_iff] at h
    obtain ⟨literals, hread, rfl⟩ := h
    exact .list (readItems?_eq_some_iff.1 hread)
  | object members =>
    rw [read?, Option.map_eq_some_iff] at h
    obtain ⟨entries, hread, rfl⟩ := h
    exact .map (readMembers?_eq_some_iff.1 hread)

/-- Literals are read by trial. -/
theorem read?_iff_firstForm {value : Json} {literal : Literal} :
    read? value = some literal ↔
      FirstForm (fun part other => read? part = some other) value literal := by
  refine ⟨fun h => firstForm_of_takes (takes_of_read? h), ?_⟩
  rintro ⟨form, htakes, hfirst⟩
  cases htakes with
  | null | bool | text => rfl
  | integer hfits => rw [read?_number, ofNumber, if_pos hfits]
  | @float n =>
    rw [read?_number]
    cases n with
    | int i =>
      -- An integer that fits would be taken before it comes to this form.
      have hlarge : ¬ Json.Number.fitsSigned i := fun hfits =>
        hfirst .integer (by decide) _ (.integer hfits)
      rw [ofNumber, if_neg hlarge]
    | real x => rfl
  | list hitems => rw [read?, readItems?_eq_some_iff.2 hitems, Option.map_some]
  | map hmembers =>
    rw [read?, readMembers?_eq_some_iff.2 hmembers, Option.map_some, Function.comp_apply]

/-! ## Conversion -/

theorem read?_eq (value : Json) : read? value = some (ofJson value) := by
  induction value using Json.induction with
  | null | bool | string =>
    rw [ofJson]
    rfl
  | number n => rw [read?_number, ofJson]
  | array items ih =>
    have hitems : readItems? items = some (items.map ofJson) :=
      readItems?_eq_some_iff.2 (List.forall₂_map_right_iff.2 (List.forall₂_same.2 ih))
    rw [read?, hitems, ofJson, ofItems_eq, Option.map_some]
  | object members ih =>
    have hmembers : readMembers? members = some (members.map fun m => (m.1, ofJson m.2)) :=
      readMembers?_eq_some_iff.2 (List.forall₂_map_right_iff.2
        (List.forall₂_same.2 fun m hm => ⟨rfl, ih m hm⟩))
    rw [read?, hmembers, ofJson, ofMembers_eq, Option.map_some, Function.comp_apply]

/-- **Conversion and trial agree**: a value is read by trying the forms of literals in their
    order, on it and on all its parts, and what is found is the value converted at once. -/
theorem firstForm_ofJson (value : Json) :
    (∀ literal, read? value = some literal ↔
      FirstForm (fun part other => read? part = some other) value literal) ∧
    read? value = some (ofJson value) :=
  ⟨fun _ => read?_iff_firstForm, read?_eq value⟩

end ApiKinds.Literal
