/-
  Filtering a path step by step, and asking the filter once.

  * `PathItem.operationIds`: the ids of the operations that are classified.
  * `decidePath_eq_keep_iff`: what the steps keep, with their short cuts: the shortcuts for a
    filter that restricts nothing or no operations leave out tests that would succeed.
  * `decidePath_agrees`: a path with operations is kept just if the filter admits it with the
    ids of its operations, and the admitted operations are left.
-/
import ApiKinds.Proofs.Survey.Kept

namespace ApiKinds

open Api

/-- The ids of the operations of a path that are classified, empty where there is none. -/
def Api.PathItem.operationIds (item : PathItem) : List String :=
  (Method.all.filterMap item.operation?).map Operation.idText

theorem map_idText_methodOperations (item : PathItem) :
    item.methodOperations.map (fun entry => entry.2.idText) = item.operationIds := by
  simp only [PathItem.methodOperations, PathItem.operationIds, List.map_filterMap, Option.map_map,
    Function.comp_def]

/-! ## Lists -/

namespace FilterLists

variable {lists : FilterLists}

theorem restrictsOperations_eq_false_iff :
    lists.restrictsOperations = false ↔
      lists.includeOperations = [] ∧ lists.excludeOperations = [] := by
  simp [restrictsOperations]

/-- Lists that do not restrict operations admit every id. -/
theorem admitsOperation_of_unrestricted (h : lists.restrictsOperations = false) (id : String) :
    lists.admitsOperation id := by
  obtain ⟨hincluded, hexcluded⟩ := restrictsOperations_eq_false_iff.1 h
  simp [admitsOperation, admits, hincluded, hexcluded]

/-- Empty lists admit every path and all tags, and do not restrict operations. -/
theorem admits_of_isEmpty (h : lists.isEmpty) (path : String) (tags : List String) :
    lists.admitsPathAndTags path tags ∧ lists.restrictsOperations = false := by
  simp only [isEmpty, Bool.and_eq_true, List.isEmpty_iff] at h
  obtain ⟨⟨⟨⟨⟨hpaths, hnopaths⟩, htags⟩, hnotags⟩, hoperations⟩, hnooperations⟩ := h
  constructor
  · simp [admitsPathAndTags, admitsPath, admitsTags, admits, hpaths, hnopaths, htags, hnotags]
  · exact restrictsOperations_eq_false_iff.2 ⟨hoperations, hnooperations⟩

/-- With some operation, all that counts is that path and tags are admitted and some id is. -/
theorem admitsAny_iff {path : String} {tags ids : List String} (h : ids ≠ []) :
    lists.admitsAny path tags ids ↔
      lists.admitsPathAndTags path tags ∧ ∃ id ∈ ids, lists.admitsOperation id := by
  obtain ⟨first, rest, rfl⟩ := List.exists_cons_of_ne_nil h
  rw [admitsAny, Bool.and_eq_true]
  refine and_congr_right fun _ => ?_
  cases hrestricts : lists.restrictsOperations with
  | true => simp
  | false =>
    have hfirst := admitsOperation_of_unrestricted hrestricts first
    simpa using Or.inl hfirst

end FilterLists

/-! ## Views -/

section
variable {path : String} {item : PathItem} {admits : String → Bool}

theorem restrict_of_all (h : ∀ id, admits id) :
    (PathView.whole path item).restrict admits = .whole path item := by
  have htrue : admits = fun _ => true := funext h
  rw [htrue, PathView.restrict_true]

theorem operations_restrict_eq_nil_iff :
    ((PathView.whole path item).restrict admits).operations = [] ↔
      ∀ id ∈ item.operationIds, ¬ admits id := by
  rw [← map_idText_methodOperations, List.forall_mem_map]
  simp [PathView.restrict, PathView.whole]

theorem excluded_restrict_eq_nil_iff :
    ((PathView.whole path item).restrict admits).excluded = [] ↔
      ∀ id ∈ item.operationIds, admits id := by
  rw [← map_idText_methodOperations, List.forall_mem_map]
  simp [PathView.restrict, PathView.whole]

/-- A path loses all of its operations where it has some and none of them is admitted. -/
theorem loses_all_iff :
    (((PathView.whole path item).restrict admits).operations.isEmpty &&
        !((PathView.whole path item).restrict admits).excluded.isEmpty) ↔
      item.operationIds ≠ [] ∧ ∀ id ∈ item.operationIds, ¬ admits id := by
  rw [Bool.and_eq_true, List.isEmpty_iff, Bool.not_eq_true', List.isEmpty_eq_false_iff,
    operations_restrict_eq_nil_iff, ne_eq, excluded_restrict_eq_nil_iff]
  constructor
  · rintro ⟨hnone, hexcluded⟩
    refine ⟨fun hnil => hexcluded ?_, hnone⟩
    rw [hnil]
    simp
  · rintro ⟨hne, hnone⟩
    obtain ⟨first, rest, hids⟩ := List.exists_cons_of_ne_nil hne
    have hfirst : first ∈ item.operationIds := by simp [hids]
    exact ⟨hnone, fun hall => hnone first hfirst (hall first hfirst)⟩

end

/-! ## Decisions -/

section
variable {path : String} {item : PathItem} {view : PathView}

/-- What the steps of a filter that restricts anything keep. -/
theorem decide_eq_keep_iff {filter : PathFilter} : filter.decide path item = .keep view ↔
    filter.admitsPath path ∧ filter.admitsTags item.tags ∧
      if filter.restrictsOperations then
        (item.operationIds ≠ [] → ∃ id ∈ item.operationIds, filter.admitsOperation id) ∧
          (PathView.whole path item).restrict filter.admitsOperation = view
      else .whole path item = view := by
  by_cases hpath : filter.admitsPath path
  swap
  · simp [PathFilter.decide, hpath]
  by_cases htags : filter.admitsTags item.tags
  swap
  · simp [PathFilter.decide, hpath, htags]
  by_cases hoperations : filter.restrictsOperations
  swap
  · simp [PathFilter.decide, hpath, htags, hoperations]
  have hsome : (item.operationIds ≠ [] → ∃ id ∈ item.operationIds, filter.admitsOperation id) ↔
      ¬ (item.operationIds ≠ [] ∧ ∀ id ∈ item.operationIds, ¬ filter.admitsOperation id) := by
    simp only [not_and, not_forall, not_not, exists_prop]
  rw [hsome, ← @loses_all_iff path]
  simp only [PathFilter.decide, hpath, htags, hoperations, Bool.not_true, Bool.false_eq_true,
    if_false, if_true, true_and]
  split
  · next hlost => simp only [hlost, reduceCtorEq, not_true, false_and]
  · next hleft =>
    rw [Decision.keep.injEq]
    exact (and_iff_right hleft).symm

variable {lists : FilterLists}

/-- The short cuts leave out what would change nothing: a path is kept just if path and tags are
    admitted and, if there are operations, one of them is, and the admitted ones are left. -/
theorem decidePath_eq_keep_iff : decidePath (some lists.toPathFilter) path item = .keep view ↔
    lists.admitsPathAndTags path item.tags ∧
      (item.operationIds ≠ [] → ∃ id ∈ item.operationIds, lists.admitsOperation id) ∧
      (PathView.whole path item).restrict lists.admitsOperation = view := by
  -- without restrictions on operations all of them are left
  have hunrestricted (h : lists.restrictsOperations = false) :
      (item.operationIds ≠ [] → ∃ id ∈ item.operationIds, lists.admitsOperation id) ∧
        (PathView.whole path item).restrict lists.admitsOperation = .whole path item := by
    have hall := FilterLists.admitsOperation_of_unrestricted h
    refine ⟨fun hne => ?_, restrict_of_all hall⟩
    obtain ⟨first, rest, hids⟩ := List.exists_cons_of_ne_nil hne
    exact ⟨first, by simp [hids], hall first⟩
  by_cases hempty : lists.isEmpty
  · obtain ⟨hadmitted, hoperations⟩ := FilterLists.admits_of_isEmpty hempty path item.tags
    obtain ⟨hsome, hwhole⟩ := hunrestricted hoperations
    have hkept : decidePath (some lists.toPathFilter) path item = .keep (.whole path item) := by
      simp [decidePath, FilterLists.toPathFilter, hempty]
    rw [hkept, hwhole, Decision.keep.injEq]
    exact ⟨fun heq => ⟨hadmitted, hsome, heq⟩, fun h => h.2.2⟩
  · have hsteps : decidePath (some lists.toPathFilter) path item =
        lists.toPathFilter.decide path item := by
      simp [decidePath, FilterLists.toPathFilter, hempty]
    rw [hsteps, decide_eq_keep_iff, FilterLists.admitsPathAndTags, Bool.and_eq_true, and_assoc]
    refine and_congr_right fun _ => and_congr_right fun _ => ?_
    cases hoperations : lists.restrictsOperations with
    | false =>
      obtain ⟨hsome, hwhole⟩ := hunrestricted hoperations
      simp only [FilterLists.toPathFilter, hoperations, Bool.false_eq_true, if_false, hwhole]
      exact ⟨fun heq => ⟨hsome, heq⟩, fun h => h.2⟩
    | true => simp only [FilterLists.toPathFilter, hoperations, if_true]

/-- **A filter keeps a path with operations step by step just if it admits it in one look**, with
    the ids of its operations. Left are then the operations with an admitted id, which are all of
    them where operations are not restricted. -/
theorem decidePath_agrees (lists : FilterLists) (path : String) {method : Method}
    {operation : Operation} (h : item.operation? method = some operation) :
    ((decidePath (some lists.toPathFilter) path item).view?.isSome ↔
        lists.admitsAny path item.tags item.operationIds) ∧
      ∀ view, decidePath (some lists.toPathFilter) path item = .keep view →
        (∀ method operation, view.operation? method = some operation ↔
          item.operation? method = some operation ∧ lists.admitsOperation operation.idText) ∧
        (lists.restrictsOperations = false → view.operations = item.methodOperations) := by
  have hne : item.operationIds ≠ [] := by
    have hmem : operation.idText ∈ item.operationIds := by
      refine List.mem_map_of_mem (List.mem_filterMap.2 ⟨method, ?_, h⟩)
      cases method <;> decide
    exact List.ne_nil_of_mem hmem
  constructor
  · rw [FilterLists.admitsAny_iff hne, Option.isSome_iff_exists]
    simp only [Decision.view?_eq_some_iff, decidePath_eq_keep_iff]
    constructor
    · rintro ⟨view, hadmitted, hsome, -⟩
      exact ⟨hadmitted, hsome hne⟩
    · rintro ⟨hadmitted, hsome⟩
      exact ⟨_, hadmitted, fun _ => hsome, rfl⟩
  · intro view hkept
    obtain ⟨-, -, rfl⟩ := decidePath_eq_keep_iff.1 hkept
    constructor
    · intro method operation
      rw [PathView.operation?_restrict, Option.filter_eq_some_iff]
    · intro hoperations
      rw [restrict_of_all (FilterLists.admitsOperation_of_unrestricted hoperations)]
      rfl

end

/-- A pet that is read and deleted, where operations that delete are excluded. -/
theorem decidePath_of_deletable_pet :
    let item : PathItem :=
      { get := some { operationId := some "getPet" }
        delete := some { operationId := some "deletePet" } }
    let lists : FilterLists := { excludeOperations := ["delete*"] }
    (item.operation? .get = some { operationId := some "getPet" } ∧
        (decidePath (some lists.toPathFilter) "/pets/\x7bpetId\x7d" item).view?.isSome) ∧
      ∀ view, decidePath (some lists.toPathFilter) "/pets/\x7bpetId\x7d" item = .keep view →
        view.operation? .get = item.get ∧ view.operation? .delete = none := by
  intro item lists
  have hget : item.operation? .get = some { operationId := some "getPet" } := rfl
  obtain ⟨hkept, hleft⟩ := decidePath_agrees lists "/pets/\x7bpetId\x7d" hget
  have hadmitted : lists.admitsAny "/pets/\x7bpetId\x7d" item.tags item.operationIds := by
    decide
  refine ⟨⟨hget, hkept.2 hadmitted⟩, fun view hview => ?_⟩
  obtain ⟨hoperations, -⟩ := hleft view hview
  constructor
  · have hgetAdmitted : lists.admitsOperation "getPet" := by decide
    exact (hoperations .get _).2 ⟨hget, hgetAdmitted⟩
  · refine Option.eq_none_iff_forall_ne_some.2 fun operation hdelete => ?_
    obtain ⟨hoperation, hadmits⟩ := (hoperations .delete operation).1 hdelete
    obtain rfl : ({ operationId := some "deletePet" } : Operation) = operation :=
      Option.some.inj hoperation
    have hexcluded : lists.admitsOperation "deletePet" = false := by decide
    exact absurd hadmits (by rw [Operation.idText, Option.getD_some, hexcluded]; decide)

end ApiKinds
