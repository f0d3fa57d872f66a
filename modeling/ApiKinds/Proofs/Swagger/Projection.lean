/-
  Listing the type names of a value is a projection.

  * `unlistTypes`: the other way, where a list of one name under `type` becomes the name.
  * `not_namesType_listTypes`: no type name is left that is not in a list.
  * `listTypes_eq_iff`: the listed form is the only value without such names that comes to the same
    when its lists of one name are undone.
  * `listTypes_projects`: listing twice is listing once, and changes nothing but type names.
-/
import ApiKinds.Proofs.Swagger.TypeList

namespace ApiKinds.Swagger

open Json

/-! ## Undoing lists -/

/-- The name that a member lists as the only one of its types. -/
def soleTypeName? (key : String) (value : Json) : Option String :=
  match value with
  | .array [.string name] => if key = "type" then some name else none
  | _ => none

mutual
/-- The value with a name in place of every list of one type name. -/
def unlistTypes : Json → Json
  | .null => .null
  | .bool b => .bool b
  | .number n => .number n
  | .string s => .string s
  | .array items => .array (unlistTypesIn items)
  | .object members => .object (unlistTypesOf members)

def unlistTypesIn : List Json → List Json
  | [] => []
  | item :: rest => unlistTypes item :: unlistTypesIn rest

def unlistTypesOf : List (String × Json) → List (String × Json)
  | [] => []
  | (key, value) :: rest =>
    (key, match soleTypeName? key value with
      | some name => .string name
      | none => unlistTypes value) :: unlistTypesOf rest
end

/-- The value of a member with its lists undone. -/
def unlisted (key : String) (value : Json) : Json :=
  match soleTypeName? key value with
  | some name => .string name
  | none => unlistTypes value

theorem unlistTypesIn_eq (items : List Json) : unlistTypesIn items = items.map unlistTypes := by
  induction items with
  | nil => rfl
  | cons item rest ih => rw [unlistTypesIn, ih, List.map_cons]

theorem unlistTypesOf_eq (members : List (String × Json)) :
    unlistTypesOf members = members.map fun m => (m.1, unlisted m.1 m.2) := by
  induction members with
  | nil => rfl
  | cons m rest ih => rw [unlistTypesOf, ih, List.map_cons, unlisted]

theorem soleTypeName?_eq_some_iff {key name : String} {value : Json} :
    soleTypeName? key value = some name ↔ key = "type" ∧ value = .array [.string name] := by
  unfold soleTypeName?
  split
  · simp [eq_comm]
  · next hsole =>
    refine iff_of_false (by simp) ?_
    rintro ⟨-, rfl⟩
    exact hsole name rfl

/-! ## Values of members -/

theorem isTypeName_listTypes (key : String) (value : Json) :
    isTypeName key (listTypes value) = isTypeName key value := by
  cases value <;> rfl

theorem isTypeName_unlistTypes (key : String) (value : Json) :
    isTypeName key (unlistTypes value) = isTypeName key value := by
  cases value <;> rfl

/-- Listing the type names inside a value makes no list of one name. -/
theorem listTypes_eq_sole_iff {value : Json} {name : String} :
    listTypes value = .array [.string name] ↔ value = .array [.string name] := by
  have hitem (item : Json) : listTypes item = .string name ↔ item = .string name := by
    cases item <;> simp [listTypes]
  cases value with
  | array items => simp [listTypes, listTypesIn_eq, List.map_eq_singleton_iff, hitem]
  | _ => simp [listTypes]

theorem soleTypeName?_listTypes (key : String) (value : Json) :
    soleTypeName? key (listTypes value) = soleTypeName? key value :=
  Option.ext fun name => by
    rw [soleTypeName?_eq_some_iff, soleTypeName?_eq_some_iff, listTypes_eq_sole_iff]

theorem unlisted_listed {key : String} {value : Json}
    (h : unlistTypes (listTypes value) = unlistTypes value) :
    unlisted key (listed key value) = unlisted key value := by
  rw [listed]
  cases htype : isTypeName key value with
  | false =>
    rw [if_neg Bool.false_ne_true, unlisted, unlisted, soleTypeName?_listTypes, h]
  | true =>
    obtain ⟨rfl, name, rfl⟩ := isTypeName_iff.1 htype
    rfl

theorem listed_unlisted {key : String} {value : Json}
    (h : listTypes (unlistTypes value) = listTypes value) :
    listed key (unlisted key value) = listed key value := by
  rw [unlisted]
  cases hsole : soleTypeName? key value with
  | none =>
    rw [listed, listed, isTypeName_unlistTypes, h]
    cases htype : isTypeName key value with
    | false => rfl
    | true =>
      obtain ⟨-, name, rfl⟩ := isTypeName_iff.1 htype
      rfl
  | some name =>
    obtain ⟨rfl, rfl⟩ := soleTypeName?_eq_some_iff.1 hsole
    rfl

/-! ## Values -/

/-- Nothing but type names is changed. -/
theorem unlistTypes_listTypes (value : Json) :
    unlistTypes (listTypes value) = unlistTypes value := by
  induction value using Json.induction with
  | null | bool | number | string => rfl
  | array items ih =>
    rw [listTypes, unlistTypes, unlistTypes, unlistTypesIn_eq, unlistTypesIn_eq, listTypesIn_eq,
      List.map_map]
    exact congrArg array (List.map_congr_left ih)
  | object members ih =>
    rw [listTypes, unlistTypes, unlistTypes, unlistTypesOf_eq, unlistTypesOf_eq, listTypesOf_eq,
      List.map_map]
    exact congrArg object
      (List.map_congr_left fun m hm => Prod.ext rfl (unlisted_listed (ih m hm)))

theorem listTypes_unlistTypes (value : Json) :
    listTypes (unlistTypes value) = listTypes value := by
  induction value using Json.induction with
  | null | bool | number | string => rfl
  | array items ih =>
    rw [unlistTypes, listTypes, listTypes, listTypesIn_eq, listTypesIn_eq, unlistTypesIn_eq,
      List.map_map]
    exact congrArg array (List.map_congr_left ih)
  | object members ih =>
    rw [unlistTypes, listTypes, listTypes, listTypesOf_eq, listTypesOf_eq, unlistTypesOf_eq,
      List.map_map]
    exact congrArg object
      (List.map_congr_left fun m hm => Prod.ext rfl (listed_unlisted (ih m hm)))

theorem not_namesType_listed {key : String} {value : Json} (h : ¬ NamesType (listTypes value)) :
    ¬ (isTypeName key (listed key value) ∨ NamesType (listed key value)) := by
  rw [listed]
  cases htype : isTypeName key value with
  | false =>
    rw [if_neg Bool.false_ne_true, isTypeName_listTypes, htype]
    simpa using h
  | true =>
    obtain ⟨rfl, name, rfl⟩ := isTypeName_iff.1 htype
    rintro (hagain | hitem)
    · simp [isTypeName] at hagain
    · obtain ⟨_, hmem, hname⟩ := namesType_array_iff.1 hitem
      rw [List.mem_singleton.1 hmem] at hname
      cases hname

/-- No type name is left that is not in a list. -/
theorem not_namesType_listTypes (value : Json) : ¬ NamesType (listTypes value) := by
  induction value using Json.induction with
  | null | bool | number | string => rintro ⟨⟩
  | array items ih =>
    rw [listTypes, listTypesIn_eq, namesType_array_iff]
    push Not
    exact List.forall_mem_map.2 ih
  | object members ih =>
    rw [listTypes, listTypesOf_eq, namesType_object_iff]
    rintro ⟨_, hmem, hname⟩
    obtain ⟨m, hm, rfl⟩ := List.mem_map.1 hmem
    exact not_namesType_listed (ih m hm) hname

/-- The listed form of a value is the only value without a type name outside a list that comes to
    the same when its lists of one name are undone. -/
theorem listTypes_eq_iff {value result : Json} :
    listTypes value = result ↔ ¬ NamesType result ∧ unlistTypes result = unlistTypes value := by
  constructor
  · rintro rfl
    exact ⟨not_namesType_listTypes value, unlistTypes_listTypes value⟩
  · rintro ⟨hnames, hsame⟩
    calc listTypes value = listTypes (unlistTypes value) := (listTypes_unlistTypes value).symm
      _ = listTypes (unlistTypes result) := by rw [hsame]
      _ = listTypes result := listTypes_unlistTypes result
      _ = result := (listTypes_eq_self_iff result).2 hnames

/-- **Listing type names is a projection**: no object is left with a text under `type`, listing
    again changes nothing, and but for lists of one type name the value is as it was, with the
    same keys in the same order. -/
theorem listTypes_projects (value : Json) :
    ¬ NamesType (listTypes value) ∧ listTypes (listTypes value) = listTypes value ∧
      unlistTypes (listTypes value) = unlistTypes value := by
  obtain ⟨hnames, hsame⟩ := listTypes_eq_iff.1 (Eq.refl (listTypes value))
  exact ⟨hnames, (listTypes_eq_self_iff _).2 hnames, hsame⟩

/-- A property may be called `type` itself. -/
example : listTypes (.object [("type", .object [("type", .string "string")])]) =
    .object [("type", .object [("type", .array [.string "string"])])] := rfl

end ApiKinds.Swagger
