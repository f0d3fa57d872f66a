/-
  The paths that a filter keeps.

  * `decidePath_eq_keep`: a path that is kept loses nothing but operations.
  * `operation?_restrict`: what is left are the operations with an admitted id.
  * `get?_keptViews`: the kept paths are those of the document that the filter decides
    to keep, each under its own name.
  * `Survives`: a method is left on a path.
-/
import ApiKinds.Proofs.Dict
import ApiKinds.Survey.Basic

namespace ApiKinds

open Api

/-! ## Views -/

namespace PathView

variable {view : PathView} {method : Method}

theorem operation?_isSome (view : PathView) (method : Method) :
    (view.operation? method).isSome = view.has method := by
  rw [Bool.eq_iff_iff, operation?, has, Option.isSome_map, List.find?_isSome, List.any_eq_true]

theorem exists_of_has (h : view.has method) : ∃ operation, view.operation? method = some operation :=
  Option.isSome_iff_exists.1 (by rw [operation?_isSome, h])

theorem has_of_operation? {operation : Operation} (h : view.operation? method = some operation) :
    view.has method := by
  rw [← operation?_isSome, h]; rfl

theorem operations_ne_nil_of_has (h : view.has method) : view.operations ≠ [] := by
  rintro hnil
  rw [has, hnil] at h
  simp at h

/-- The operation found for a method among those listed by method. -/
theorem find?_listed (found : Method → Option Operation) (method : Method) (methods : List Method) :
    ((methods.filterMap fun m => (found m).map (m, ·)).find? (·.1 = method)).map (·.2) =
      if method ∈ methods then found method else none := by
  induction methods with
  | nil => simp
  | cons m rest ih =>
    rw [List.filterMap_cons]
    by_cases hm : m = method
    · subst hm
      cases hfound : found m with
      | some operation => simp
      | none => simp only [Option.map_none]; rw [ih]; simp [hfound]
    · have hmem : method ∈ m :: rest ↔ method ∈ rest := by simp [Ne.symm hm]
      simp only [hmem]
      cases found m with
      | some operation => simpa [hm] using ih
      | none => simpa using ih

theorem operation?_of_eq_filterMap {found : Method → Option Operation}
    (h : view.operations = Method.all.filterMap fun method => (found method).map (method, ·))
    (method : Method) : view.operation? method = found method := by
  rw [operation?, h, find?_listed, if_pos (by cases method <;> decide)]

theorem restrict_true (path : String) (item : PathItem) :
    (whole path item).restrict (fun _ => true) = whole path item := by
  simp [restrict, whole]

theorem operations_restrict (path : String) (item : PathItem) (admits : String → Bool) :
    ((whole path item).restrict admits).operations = Method.all.filterMap fun method =>
      ((item.operation? method).filter fun operation => admits operation.idText).map
        (method, ·) := by
  simp only [restrict, whole, PathItem.methodOperations, List.filter_filterMap]
  congr 1
  funext method
  cases item.operation? method with
  | none => rfl
  | some operation =>
    cases hadmits : admits operation.idText <;> simp [Option.filter_some, hadmits]

/-- The operations left are those of the path with an admitted id. -/
theorem operation?_restrict (path : String) (item : PathItem) (admits : String → Bool)
    (method : Method) : ((whole path item).restrict admits).operation? method =
      (item.operation? method).filter fun operation => admits operation.idText :=
  operation?_of_eq_filterMap (operations_restrict path item admits) method

end PathView

/-! ## Decisions -/

/-- A path that is kept loses nothing but operations whose ids are not admitted. -/
theorem decidePath_eq_keep {filter : Option PathFilter} {path : String} {item : PathItem}
    {view : PathView} (h : decidePath filter path item = .keep view) :
    ∃ admits, view = (PathView.whole path item).restrict admits := by
  have hwhole : Decision.keep (.whole path item) = .keep view →
      ∃ admits, view = (PathView.whole path item).restrict admits := by
    intro heq
    cases heq
    exact ⟨fun _ => true, (PathView.restrict_true path item).symm⟩
  unfold decidePath at h
  split at h
  · exact hwhole h
  · split at h
    · unfold PathFilter.decide at h
      simp only at h
      split at h
      · cases h
      split at h
      · cases h
      split at h
      · exact hwhole h
      split at h
      · cases h
      · cases h; exact ⟨_, rfl⟩
    · exact hwhole h

section
variable {filter : Option PathFilter} {path : String} {item : PathItem} {view : PathView}
  (h : decidePath filter path item = .keep view)
include h

theorem path_of_decidePath : view.path = path := by
  obtain ⟨admits, rfl⟩ := decidePath_eq_keep h; rfl

theorem item_of_decidePath : view.item = item := by
  obtain ⟨admits, rfl⟩ := decidePath_eq_keep h; rfl

/-- An operation of a kept path is that of the path, if its id is admitted. -/
theorem operation?_of_decidePath : ∃ admits : String → Bool,
    (∀ method, view.operation? method =
      (item.operation? method).filter fun operation => admits operation.idText) ∧
    view.operations = Method.all.filterMap fun method =>
      (view.operation? method).map (method, ·) := by
  obtain ⟨admits, rfl⟩ := decidePath_eq_keep h
  have hfound := PathView.operation?_restrict path item admits
  exact ⟨admits, hfound, by simp only [hfound]; exact PathView.operations_restrict path item admits⟩

end

/-! ## Kept paths -/

section
variable {doc : Document} {filter : Option PathFilter} {path : String} {view : PathView}

theorem get?_decisions (doc : Document) (filter : Option PathFilter) (path : String) :
    (decisions doc filter).get? path = (doc.pathItems.get? path).map (decidePath filter path) :=
  Dict.get?_map ..

@[simp] theorem keys_decisions (doc : Document) (filter : Option PathFilter) :
    (decisions doc filter).keys = doc.pathItems.keys :=
  Dict.keys_map ..

theorem Decision.view?_eq_some_iff {decision : Decision} :
    decision.view? = some view ↔ decision = .keep view := by
  cases decision <;> simp [Decision.view?]

theorem get?_keptViews : (keptViews doc filter).get? path = some view ↔
    ∃ item, doc.pathItems.get? path = some item ∧ decidePath filter path item = .keep view := by
  simp only [keptViews, Dict.get?_filterMap_eq_some_iff, get?_decisions, Option.map_eq_some_iff,
    Decision.view?_eq_some_iff]
  constructor
  · rintro ⟨_, ⟨item, hitem, rfl⟩, h⟩; exact ⟨item, hitem, h⟩
  · rintro ⟨item, hitem, h⟩; exact ⟨_, ⟨item, hitem, rfl⟩, h⟩

/-- A kept path stands under its own name. -/
theorem path_of_get?_keptViews (h : (keptViews doc filter).get? path = some view) :
    view.path = path := by
  obtain ⟨item, -, h⟩ := get?_keptViews.1 h
  exact path_of_decidePath h

theorem mem_keptViews :
    view ∈ (keptViews doc filter).values ↔ (keptViews doc filter).get? view.path = some view := by
  rw [Dict.mem_values]
  constructor
  · rintro ⟨path, h⟩; rwa [path_of_get?_keptViews h]
  · intro h; exact ⟨_, h⟩

/-- A kept path has the item of the document. -/
theorem get?_pathItems_of_kept (h : view ∈ (keptViews doc filter).values) :
    doc.pathItems.get? view.path = some view.item := by
  obtain ⟨item, hitem, hkept⟩ := get?_keptViews.1 (mem_keptViews.1 h)
  rwa [item_of_decidePath hkept]

/-- An operation of a kept path is that of its item. -/
theorem operation?_item_of_kept (h : view ∈ (keptViews doc filter).values) {method : Method}
    {operation : Operation} (hoperation : view.operation? method = some operation) :
    view.item.operation? method = some operation := by
  obtain ⟨item, -, hkept⟩ := get?_keptViews.1 (mem_keptViews.1 h)
  obtain ⟨admits, hadmits, -⟩ := operation?_of_decidePath hkept
  rw [hadmits, Option.filter_eq_some_iff] at hoperation
  rw [item_of_decidePath hkept, hoperation.1]

theorem paths_keptViews (doc : Document) (filter : Option PathFilter) :
    (keptViews doc filter).values.map (·.path) = (keptViews doc filter).keys := by
  rw [Dict.values, Dict.keys, List.map_map]
  apply List.map_congr_left
  rintro ⟨path, view⟩ h
  exact path_of_get?_keptViews (Dict.get?_eq_some_iff.2 h)

/-- A method is left on a path after filtering. -/
def Survives (doc : Document) (filter : Option PathFilter) (path : String) (method : Method) : Prop :=
  ∃ view, (keptViews doc filter).get? path = some view ∧ view.has method

theorem any_has_iff {method : Method} :
    ((keptViews doc filter).get? path).any (·.has method) ↔ Survives doc filter path method :=
  Option.any_eq_true _ _

instance (doc : Document) (filter : Option PathFilter) (path : String) (method : Method) :
    Decidable (Survives doc filter path method) :=
  decidable_of_iff _ any_has_iff

end

end ApiKinds
