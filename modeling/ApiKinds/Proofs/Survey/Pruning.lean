/-
  Filtering is deletion: what a filter leaves out of a document shows nowhere in the
  survey, neither in pairs nor in what resources take from the paths that are kept.

  * `Document.prune`: the document without the paths that a filter drops, and without the
    methods that it removes from the others.
  * `keptViews_prune`: the kept paths of the pruned document show the same as those of the
    filtered one.
  * `survey_prune`: so do the two surveys.
-/
import ApiKinds.Proofs.Survey.Frame
import ApiKinds.Proofs.Survey.Partition

namespace ApiKinds

open Api

/-! ## Pruned documents -/

/-- The path without the methods that are not kept. HEAD, OPTIONS and the shared parameters
    stay. -/
def Api.PathItem.keepMethods (item : PathItem) (keeps : Method → Bool) : PathItem :=
  { item with
    get := if keeps .get then item.get else none
    put := if keeps .put then item.put else none
    post := if keeps .post then item.post else none
    delete := if keeps .delete then item.delete else none
    patch := if keeps .patch then item.patch else none }

/-- What is left of a path that a filter does not drop. -/
def pruneItem? (filter : Option PathFilter) (path : String) (item : PathItem) : Option PathItem :=
  (decidePath filter path item).view?.map fun view => item.keepMethods view.has

/-- The document with what a filter leaves of its paths. -/
def Api.Document.prune (doc : Document) (filter : Option PathFilter) : Document :=
  doc.withPaths (doc.paths.map (·.filterMap (pruneItem? filter)))

theorem operation?_keepMethods (item : PathItem) (keeps : Method → Bool) (method : Method) :
    (item.keepMethods keeps).operation? method =
      if keeps method then item.operation? method else none := by
  cases method <;> rfl

theorem pathItems_prune (doc : Document) (filter : Option PathFilter) :
    (doc.prune filter).pathItems = doc.pathItems.filterMap (pruneItem? filter) := by
  rw [Document.pathItems, Document.pathItems, Document.prune, Document.withPaths]
  cases doc.paths <;> rfl

/-- What is left of a path shows what the filter shows of it. -/
theorem whole_keepMethods_alike {filter : Option PathFilter} {path : String} {item : PathItem}
    {view : PathView} (h : decidePath filter path item = .keep view) :
    (PathView.whole path (item.keepMethods view.has)).Alike view where
  path := (path_of_decidePath h).symm
  parameters := by rw [item_of_decidePath h]; rfl
  operations := by
    obtain ⟨admits, hfound, hlisted⟩ := operation?_of_decidePath h
    have hsame : (item.keepMethods view.has).operation? = view.operation? := by
      funext method
      rw [operation?_keepMethods, ← PathView.operation?_isSome, hfound]
      cases item.operation? method with
      | none => simp
      | some operation =>
        cases hadmits : admits operation.idText <;> simp [Option.filter_some, hadmits]
    rw [hlisted, ← hsame]
    rfl

theorem entries_keptViews_none (doc : Document) : (keptViews doc none).entries =
    doc.pathItems.entries.map fun entry => (entry.1, PathView.whole entry.1 entry.2) := by
  simp [keptViews, decisions, Dict.map, Dict.filterMap, decidePath, Decision.view?]

/-- Without a filter, the pruned document keeps the paths that the filter keeps. -/
theorem keptViews_prune (doc : Document) (filter : Option PathFilter) :
    EntriesAlike (keptViews (doc.prune filter) none).entries (keptViews doc filter).entries := by
  rw [entries_keptViews_none, pathItems_prune, keptViews, decisions]
  simp only [Dict.filterMap, Dict.map, List.map_filterMap, List.filterMap_map]
  refine List.rel_filterMap ?_ (List.forall₂_same.2 fun entry _ => Eq.refl entry)
  rintro ⟨path, item⟩ _ rfl
  simp only [Function.comp_apply, pruneItem?]
  cases hdecision : decidePath filter path item with
  | keep view => exact .some ⟨rfl, whole_keepMethods_alike hdecision⟩
  | drop reason methods => exact .none

/-! ## Surveys -/

/-- Two surveys show the same, and say the same of the given paths. -/
structure Survey.SameOn (paths : List String) (a b : Survey) : Prop where
  resources : a.resources = b.resources
  queryEndpoints : a.queryEndpoints = b.queryEndpoints
  actionEndpoints : a.actionEndpoints = b.actionEndpoints
  rows : ∀ path ∈ paths, ∃ x y, a.report.row? path = some x ∧ b.report.row? path = some y ∧
    x.outcome = y.outcome ∧ x.kind = y.kind ∧ x.parentIdParam = y.parentIdParam

section
variable {a b : Finding} (h : a.Alike b)
include h

theorem Finding.Alike.query? : a.query? = b.query? := by cases h <;> rfl

theorem Finding.Alike.action? : a.action? = b.action? := by cases h <;> rfl

theorem Finding.Alike.contribution? :
    Option.Rel (fun x y => x.1 = y.1 ∧ x.2.Alike y.2) a.contribution? b.contribution? := by
  cases h with
  | resource h => exact .some ⟨rfl, h⟩
  | _ => exact .none

theorem Finding.Alike.row : a.row.outcome = b.row.outcome ∧ a.row.kind = b.row.kind ∧
    a.row.parentIdParam = b.row.parentIdParam := by
  cases h <;> exact ⟨rfl, rfl, rfl⟩

end

variable (doc : Document) (filter : Option PathFilter) (rootKind : Option String)

/-- What is found at a kept path is found in the pruned document, too. -/
theorem foundIn_prune {a b : PathView} (h : a.Alike b) :
    (foundIn (doc.prune filter) none rootKind a).Alike (foundIn doc filter rootKind b) := by
  rw [foundIn, foundIn, pairs_alike (keptViews_prune doc filter)]
  exact finding_withPaths doc _ h rootKind _

theorem values_keptViews_prune : List.Forall₂ PathView.Alike
    (keptViews (doc.prune filter) none).values (keptViews doc filter).values := by
  rw [Dict.values, Dict.values, List.forall₂_map_left_iff, List.forall₂_map_right_iff]
  exact (keptViews_prune doc filter).imp fun _ _ hab => hab.2

theorem gather_prune :
    gather doc ((findings doc filter rootKind).filterMap Finding.contribution?) =
      gather (doc.prune filter)
        ((findings (doc.prune filter) none rootKind).filterMap Finding.contribution?) := by
  rw [filterMap_findings fun _ _ _ => rfl, filterMap_findings fun _ _ _ => rfl]
  refine (gather_withPaths doc _ ?_).symm
  refine List.rel_filterMap ?_ (values_keptViews_prune doc filter)
  intro a b hab
  exact (foundIn_prune doc filter rootKind hab).contribution?

/-- What is collected alike from alike findings is collected from the pruned document. -/
theorem filterMap_findings_prune {α : Type} {collect : Finding → Option α}
    (hcollect : ∀ path reason methods, collect (.filtered path reason methods) = none)
    (halike : ∀ {a b : Finding}, a.Alike b → collect a = collect b) :
    (findings doc filter rootKind).filterMap collect =
      (findings (doc.prune filter) none rootKind).filterMap collect := by
  rw [filterMap_findings hcollect, filterMap_findings hcollect]
  exact (filterMap_eq_of_forall₂ (values_keptViews_prune doc filter) fun a b hab =>
    halike (foundIn_prune doc filter rootKind hab)).symm

/-- **To filter a document is to survey it without what the filter leaves out.** -/
theorem survey_prune : Survey.SameOn (keptViews doc filter).keys
    (doc.survey filter rootKind) ((doc.prune filter).survey none rootKind) where
  resources := gather_prune doc filter _
  queryEndpoints := filterMap_findings_prune doc filter _ (fun _ _ _ => rfl) (·.query?)
  actionEndpoints := filterMap_findings_prune doc filter _ (fun _ _ _ => rfl) (·.action?)
  rows path hpath := by
    obtain ⟨view, hview⟩ := Dict.mem_keys.1 hpath
    have hget := (keptViews_prune doc filter).get? path
    rw [← Dict.get?, ← Dict.get?, hview] at hget
    generalize hother : (keptViews (doc.prune filter) none).get? path = other at hget
    cases hget with
    | @some other _ halike =>
      obtain ⟨houtcome, hkind, hparam⟩ := (foundIn_prune doc filter (namedKind? rootKind) halike).row
      exact ⟨_, _, row?_of_keptViews hview, row?_of_keptViews hother,
        houtcome.symm, hkind.symm, hparam.symm⟩

end ApiKinds
