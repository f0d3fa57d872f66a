/-
  What the paths of one Kind come to when they are added one by one.

  * `operation?_contribute`: what a path changes of the operations collected so far.
  * `sourceFor?`: the path that an operation comes from when all paths are known.
  * `Draft.MergeOf`: the invariant of a draft while paths are added; `MergeOf.contribute`
    is its step.
  * `Gathered`: the invariant of all drafts, with `gathered_addContribution` as its step
    and `gathered_drafts` for the whole run.
-/
import ApiKinds.Proofs.Survey.Kept

namespace ApiKinds

open Api

/-! ## Adding a path -/

/-- The operation that stays when `new` meets one for the same method. -/
def DraftOperation.onto (new : DraftOperation) : Option DraftOperation → DraftOperation
  | none => new
  | some old => if new.fromItem && !old.fromItem then new else old

/-- Of several operations of one path the first stays. -/
theorem DraftOperation.onto_onto {a b : DraftOperation} (h : b.fromItem = a.fromItem)
    (old : Option DraftOperation) : b.onto (some (a.onto old)) = a.onto old := by
  cases old with
  | none => simp [onto, h]
  | some old =>
    by_cases hold : (a.fromItem && !old.fromItem) = true
    · simp [onto, hold, h]
    · rw [onto, onto, if_neg hold, h, if_neg hold]

namespace Draft

theorem operation?_set (draft : Draft) (entry : DraftOperation) (method m : Method) :
    (draft.set entry method).operation? m =
      if m = method then some entry else draft.operation? m := by
  cases method <;> cases m <;> rfl

theorem operation?_offer (draft : Draft) (entry : DraftOperation) (method m : Method) :
    (draft.offer method entry).operation? m =
      if m = method then some (entry.onto (draft.operation? method)) else draft.operation? m := by
  unfold offer
  split
  · next h => rw [operation?_set, h]; rfl
  · next old h =>
    rw [h, DraftOperation.onto]
    split
    · rw [operation?_set]
    · by_cases hm : m = method
      · rw [if_pos hm, hm, h]
      · rw [if_neg hm]

/-- Offering changes neither name nor path. -/
theorem name_path_offer (draft : Draft) (entry : DraftOperation) (method : Method) :
    (draft.offer method entry).name = draft.name ∧
      (draft.offer method entry).path = draft.path := by
  unfold offer
  split
  · cases method <;> exact ⟨rfl, rfl⟩
  · split
    · cases method <;> exact ⟨rfl, rfl⟩
    · exact ⟨rfl, rfl⟩

section
variable (convert : Method → Operation → ResourceOperation) (fromItem : Bool)

/-- Operations of a path, offered one after the other. -/
def offerAll (operations : List (Method × Operation)) (draft : Draft) : Draft :=
  operations.foldl (fun draft entry => draft.offer entry.1 ⟨convert entry.1 entry.2, fromItem⟩) draft

theorem operation?_offerAll (operations : List (Method × Operation)) (draft : Draft)
    (method : Method) : (offerAll convert fromItem operations draft).operation? method =
      match operations.find? (·.1 = method) with
      | none => draft.operation? method
      | some entry => some (DraftOperation.onto ⟨convert method entry.2, fromItem⟩
          (draft.operation? method)) := by
  unfold offerAll
  induction operations generalizing draft with
  | nil => rfl
  | cons entry rest ih =>
    rw [List.foldl_cons, ih, operation?_offer]
    by_cases hm : entry.1 = method
    · subst hm
      simp only [if_true, List.find?_cons, decide_true]
      -- a later operation for the same method does not replace that of `entry`
      cases rest.find? (·.1 = entry.1) with
      | none => rfl
      | some later => exact congrArg some (DraftOperation.onto_onto (by rfl) _)
    · simp only [if_neg (Ne.symm hm), List.find?_cons, hm, decide_false]

theorem name_path_offerAll (operations : List (Method × Operation)) (draft : Draft) :
    (offerAll convert fromItem operations draft).name = draft.name ∧
      (offerAll convert fromItem operations draft).path = draft.path := by
  unfold offerAll
  induction operations generalizing draft with
  | nil => exact ⟨rfl, rfl⟩
  | cons entry rest ih =>
    obtain ⟨hname, hpath⟩ := name_path_offer draft ⟨convert entry.1 entry.2, fromItem⟩ entry.1
    rw [List.foldl_cons, (ih _).1, (ih _).2]
    exact ⟨hname, hpath⟩

end

variable {doc : Document} {view : PathView} {draft : Draft}

theorem name_contribute : (draft.contribute doc view).name = draft.name :=
  (name_path_offerAll (resourceOperation doc view) (endsInParam view.path) view.operations draft).1

theorem path_contribute : (draft.contribute doc view).path = draft.path :=
  (name_path_offerAll (resourceOperation doc view) (endsInParam view.path) view.operations draft).2

/-- What a path changes of the operations. -/
theorem operation?_contribute (method : Method) : (draft.contribute doc view).operation? method =
    match view.operation? method with
    | none => draft.operation? method
    | some operation => some (DraftOperation.onto
        ⟨resourceOperation doc view method operation, endsInParam view.path⟩
        (draft.operation? method)) := by
  have h := operation?_offerAll (resourceOperation doc view) (endsInParam view.path)
    view.operations draft method
  have hset : (draft.contribute doc view).operation? method = (offerAll (resourceOperation doc view)
      (endsInParam view.path) view.operations draft).operation? method := by
    cases method <;> rfl
  rw [hset, h, PathView.operation?]
  cases view.operations.find? (·.1 = method) <;> rfl

end Draft

/-! ## Where an operation comes from -/

/-- The path that gives the operation for a method: of those that have one the first that
    ends in a parameter, or else the first of all. -/
def sourceFor? (method : Method) (views : List PathView) : Option PathView :=
  let exposing := views.filter (·.has method)
  exposing.find? (endsInParam ·.path) <|> exposing.head?

theorem sourceFor?_mem {method : Method} {views : List PathView} {view : PathView}
    (h : sourceFor? method views = some view) : view ∈ views ∧ view.has method := by
  rw [← List.mem_filter (p := fun view : PathView => view.has method)]
  simp only [sourceFor?, Option.orElse_eq_orElse, Option.orElse_eq_or, Option.or_eq_some_iff] at h
  rcases h with h | ⟨-, h⟩
  · exact List.mem_of_find?_eq_some h
  · exact List.mem_of_mem_head? h

theorem sourceFor?_isSome (method : Method) (views : List PathView) :
    (sourceFor? method views).isSome = views.any (·.has method) := by
  rw [Bool.eq_iff_iff, Option.isSome_iff_exists, List.any_eq_true]
  constructor
  · rintro ⟨view, h⟩; exact ⟨view, sourceFor?_mem h⟩
  · rintro ⟨view, hmem, hhas⟩
    have hview : view ∈ views.filter (·.has method) := List.mem_filter.2 ⟨hmem, hhas⟩
    obtain ⟨first, rest, hcons⟩ := List.exists_cons_of_ne_nil (List.ne_nil_of_mem hview)
    rw [sourceFor?, hcons]
    cases (first :: rest).find? (endsInParam ·.path) with
    | none => exact ⟨first, rfl⟩
    | some found => exact ⟨found, rfl⟩

/-- One more path gives the operation if it is the first that has one, or the first of them
    that ends in a parameter. -/
theorem sourceFor?_concat (method : Method) (views : List PathView) (view : PathView) :
    sourceFor? method (views ++ [view]) =
      if view.has method then
        match sourceFor? method views with
        | none => some view
        | some old => if endsInParam view.path && !endsInParam old.path then some view else some old
      else sourceFor? method views := by
  by_cases hhas : view.has method
  · rw [if_pos hhas]
    have hfilter :
        (views ++ [view]).filter (·.has method) = views.filter (·.has method) ++ [view] := by
      simp [List.filter_append, hhas]
    simp only [sourceFor?, hfilter, List.find?_append, List.head?_append]
    cases hitem : (views.filter (·.has method)).find? (endsInParam ·.path) with
    | some found =>
      have hfound : endsInParam found.path = true := by simpa using List.find?_some hitem
      simp [hfound]
    | none =>
      cases hhead : (views.filter (·.has method)).head? with
      | none => cases hview : endsInParam view.path <;> simp [hview]
      | some first =>
        have hfirst : endsInParam first.path = false := by
          simpa using List.find?_eq_none.1 hitem first (List.mem_of_mem_head? hhead)
        cases hview : endsInParam view.path <;> simp [hview, hfirst]
  · have hfilter : (views ++ [view]).filter (·.has method) = views.filter (·.has method) := by
      simp [List.filter_append, hhas]
    rw [if_neg hhas, sourceFor?, sourceFor?, hfilter]

/-! ## Drafts of one name -/

/-- The operation that a path gives, for a method that it has. -/
def PathView.draftOperation? (doc : Document) (view : PathView) (method : Method) :
    Option DraftOperation :=
  (view.operation? method).map fun operation =>
    ⟨resourceOperation doc view method operation, endsInParam view.path⟩

/-- The first description that an operation of a path has. -/
def PathView.descriptionText? (view : PathView) : Option String :=
  view.operations.findSome? (·.2.descriptionText?)

namespace Draft

/-- A draft holds what paths, added in this order, come to. -/
structure MergeOf (doc : Document) (views : List PathView) (draft : Draft) : Prop where
  operation : ∀ method, draft.operation? method =
    (sourceFor? method views).bind (·.draftOperation? doc method)
  schema : draft.schema = views.findSome? (resourceShape? doc)
  description : draft.description = views.findSome? (·.descriptionText?)

theorem mergeOf_start (doc : Document) (name path : String) : (start name path).MergeOf doc [] where
  operation method := by cases method <;> rfl
  schema := rfl
  description := rfl

theorem MergeOf.contribute {doc : Document} {views : List PathView} {draft : Draft}
    (h : draft.MergeOf doc views) (view : PathView) :
    (draft.contribute doc view).MergeOf doc (views ++ [view]) where
  operation method := by
    rw [operation?_contribute, sourceFor?_concat, h.operation]
    cases hop : view.operation? method with
    | none =>
      have hhas : ¬ view.has method := by simp [← PathView.operation?_isSome, hop]
      rw [if_neg hhas]
    | some operation =>
      rw [if_pos (PathView.has_of_operation? hop)]
      cases hsource : sourceFor? method views with
      | none => simp [PathView.draftOperation?, hop, DraftOperation.onto]
      | some old =>
        obtain ⟨-, hhas⟩ := sourceFor?_mem hsource
        obtain ⟨oldOperation, hold⟩ := PathView.exists_of_has hhas
        by_cases hitem : (endsInParam view.path && !endsInParam old.path) = true
        · simp [PathView.draftOperation?, hop, hold, DraftOperation.onto, hitem]
        · simp only [PathView.draftOperation?, hold, Option.bind_some, Option.map_some,
            DraftOperation.onto, if_neg hitem]
  schema := by
    rw [List.findSome?_append, ← h.schema]
    cases hschema : draft.schema <;> simp [Draft.contribute, hschema]
  description := by
    rw [List.findSome?_append, ← h.description]
    cases hdescription : draft.description <;>
      simp [Draft.contribute, hdescription, PathView.descriptionText?]

end Draft

/-! ## Drafts of all names -/

/-- The paths that contribute to a name, in order. -/
def viewsOf (name : String) (contributions : List (String × PathView)) : List PathView :=
  (contributions.filter (·.1 = name)).map (·.2)

theorem mem_viewsOf {name : String} {view : PathView} {contributions : List (String × PathView)} :
    view ∈ viewsOf name contributions ↔ (name, view) ∈ contributions := by
  simp [viewsOf]

theorem viewsOf_concat_self (name : String) (view : PathView)
    (contributions : List (String × PathView)) :
    viewsOf name (contributions ++ [(name, view)]) = viewsOf name contributions ++ [view] := by
  simp [viewsOf, List.filter_append]

theorem viewsOf_concat_of_ne {name other : String} (h : other ≠ name) (view : PathView)
    (contributions : List (String × PathView)) :
    viewsOf other (contributions ++ [(name, view)]) = viewsOf other contributions := by
  simp [viewsOf, List.filter_append, h.symm]

/-- A draft stands under its name, at the first of the paths that contribute to it, and holds
    what they come to. -/
structure Draft.Holds (doc : Document) (name : String) (views : List PathView) (draft : Draft) :
    Prop extends Draft.MergeOf doc views draft where
  name_eq : draft.name = name
  path_eq : ∃ first rest, views = first :: rest ∧ draft.path = Path.basePath first.path

theorem Draft.holds_first (doc : Document) (name : String) (view : PathView) :
    ((start name view.path).contribute doc view).Holds doc name [view] where
  toMergeOf := (mergeOf_start doc name view.path).contribute view
  name_eq := name_contribute
  path_eq := ⟨view, [], rfl, path_contribute⟩

theorem Draft.Holds.contribute {doc : Document} {name : String} {views : List PathView}
    {draft : Draft} (h : draft.Holds doc name views) (view : PathView) :
    (draft.contribute doc view).Holds doc name (views ++ [view]) where
  toMergeOf := h.toMergeOf.contribute view
  name_eq := name_contribute.trans h.name_eq
  path_eq := by
    obtain ⟨first, rest, rfl, hpath⟩ := h.path_eq
    exact ⟨first, rest ++ [view], rfl, path_contribute.trans hpath⟩

/-- There is a draft for every name that a path contributed to, and it holds what those paths
    come to. -/
def Gathered (doc : Document) (seen : List (String × PathView)) (drafts : Dict Draft) : Prop :=
  ∀ name, match drafts.get? name with
    | none => viewsOf name seen = []
    | some draft => draft.Holds doc name (viewsOf name seen)

theorem gathered_addContribution {doc : Document} {seen : List (String × PathView)}
    {drafts : Dict Draft} (h : Gathered doc seen drafts) (name : String) (view : PathView) :
    Gathered doc (seen ++ [(name, view)]) (addContribution doc drafts name view) := by
  intro other
  have hother := h other
  by_cases hname : other = name
  · subst hname
    simp only [addContribution, Dict.get?_insert, if_true, viewsOf_concat_self]
    cases hdraft : drafts.get? other with
    | none =>
      simp only [hdraft] at hother
      simpa [hother] using Draft.holds_first doc other view
    | some draft =>
      simp only [hdraft] at hother
      exact hother.contribute view
  · simp only [addContribution, Dict.get?_insert, if_neg hname, viewsOf_concat_of_ne hname]
    exact hother

theorem gathered_foldl {doc : Document} (contributions : List (String × PathView)) :
    ∀ {seen : List (String × PathView)} {drafts : Dict Draft}, Gathered doc seen drafts →
      Gathered doc (seen ++ contributions) (contributions.foldl
        (fun drafts entry => addContribution doc drafts entry.1 entry.2) drafts) := by
  induction contributions with
  | nil => intro seen drafts h; simpa using h
  | cons entry rest ih =>
    intro seen drafts h
    simpa using ih (gathered_addContribution h entry.1 entry.2)

theorem gathered_drafts (doc : Document) (contributions : List (String × PathView)) :
    Gathered doc contributions (drafts doc contributions) := by
  have hempty : Gathered doc [] (.empty : Dict Draft) := fun name => rfl
  exact gathered_foldl contributions hempty

/-! ## Finished resources -/

section
variable {doc : Document} {contributions : List (String × PathView)}

theorem holds_of_get?_drafts {name : String} {draft : Draft}
    (h : (drafts doc contributions).get? name = some draft) :
    draft.Holds doc name (viewsOf name contributions) := by
  have hname := gathered_drafts doc contributions name
  simpa only [h] using hname

/-- Every operation is shown as it stands at the path that gives it. -/
theorem Draft.MergeOf.mem_operations {views : List PathView} {draft : Draft}
    (h : draft.MergeOf doc views) {operation : ResourceOperation}
    (hop : operation ∈ draft.finish.operations) :
    ∃ view raw, sourceFor? operation.method views = some view ∧
      view.operation? operation.method = some raw ∧
      operation = resourceOperation doc view operation.method raw := by
  obtain ⟨method, -, hmethod⟩ := List.mem_filterMap.1 hop
  rw [h.operation, Option.map_eq_some_iff] at hmethod
  obtain ⟨entry, hentry, rfl⟩ := hmethod
  obtain ⟨view, hview, hentry⟩ := Option.bind_eq_some_iff.1 hentry
  obtain ⟨raw, hraw, rfl⟩ := Option.map_eq_some_iff.1 hentry
  exact ⟨view, raw, hview, hraw, rfl⟩

/-- Every resource is the draft of its name, finished. -/
theorem exists_draft_of_mem_gather {resource : Resource} (h : resource ∈ gather doc contributions) :
    ∃ draft : Draft, draft.Holds doc resource.name (viewsOf resource.name contributions) ∧
      resource = draft.finish := by
  obtain ⟨draft, hmem, rfl⟩ := List.mem_map.1 h
  obtain ⟨name, hget⟩ := Dict.mem_values.1 hmem
  have hholds := holds_of_get?_drafts hget
  have hname : draft.finish.name = name := hholds.name_eq
  exact ⟨draft, hname.symm ▸ hholds, rfl⟩

/-- The resources stand under the names of the drafts. -/
theorem names_gather (doc : Document) (contributions : List (String × PathView)) :
    (gather doc contributions).map (·.name) = (drafts doc contributions).keys := by
  rw [gather, Dict.values, Dict.keys, List.map_map, List.map_map]
  apply List.map_congr_left
  rintro ⟨name, draft⟩ h
  exact (holds_of_get?_drafts (Dict.get?_eq_some_iff.2 h)).name_eq

/-- There is a resource for every name that a path contributes to. -/
theorem mem_names_gather {name : String} : name ∈ (gather doc contributions).map (·.name) ↔
    ∃ view, (name, view) ∈ contributions := by
  rw [names_gather, Dict.mem_keys]
  constructor
  · rintro ⟨draft, h⟩
    obtain ⟨first, rest, hviews, -⟩ := (holds_of_get?_drafts h).path_eq
    exact ⟨first, mem_viewsOf.1 (hviews ▸ List.mem_cons_self)⟩
  · rintro ⟨view, h⟩
    have hname := gathered_drafts doc contributions name
    cases hget : (drafts doc contributions).get? name with
    | some draft => exact ⟨draft, rfl⟩
    | none =>
      simp only [hget] at hname
      exact absurd (mem_viewsOf.2 h) (by simp [hname])

end

end ApiKinds
