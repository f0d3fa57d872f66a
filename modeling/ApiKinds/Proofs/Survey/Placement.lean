/-
  Where resources lie.

  * `path_of_resource`: a resource lies in the base path of the first path that contributes
    to it.
  * `path_of_collection`: if this is a collection that is folded into an item, the resource
    lies there as far as the segments of the collection are plain.
-/
import ApiKinds.Proofs.BasePath
import ApiKinds.Proofs.Survey.Merging
import ApiKinds.Proofs.Survey.Pairing

namespace ApiKinds

open Api

section
variable {doc : Document} {filter : Option PathFilter} {rootKind : Option String}
  {resource : Resource}

theorem path_of_resource (h : resource ∈ (doc.survey filter rootKind).resources) {first : String}
    (hfirst : ((doc.survey filter rootKind).report.contributors resource.name).head? =
      some first) : resource.path = Path.basePath first := by
  obtain ⟨draft, hholds, hdraft⟩ := exists_draft_of_resource h
  obtain ⟨view, rest, hviews, hpath⟩ := hholds.path_eq
  rw [← paths_contributingViews, hviews, List.map_cons, List.head?_cons, Option.some.injEq] at hfirst
  rw [hdraft, ← hfirst]
  exact hpath

/-- **A resource that starts with a collection lies there as far as its segments are plain**:
    neither empty nor parameters, and not named like operations. -/
theorem path_of_collection (h : resource ∈ (doc.survey filter rootKind).resources)
    {collection : String}
    (hfirst : ((doc.survey filter rootKind).report.contributors resource.name).head? =
      some collection)
    (hcollection : (doc.survey filter rootKind).report.outcome? collection =
      some .resourceCollection) :
    resource.path = Path.ofSegments ((Path.segments collection).takeWhile Path.isPlain) ∧
      (resource.path = collection ↔ ∀ part ∈ Path.segments collection, Path.isPlain part) := by
  obtain ⟨item, hfolds, hname⟩ := outcome?_eq_collection_iff.1 hcollection
  obtain ⟨before, owner, param, hends, rfl⟩ :=
    Path.collectionOf?_eq_some_iff.1 hfolds.collectionOf?
  rw [path_of_resource h hfirst]
  constructor
  · rw [Path.basePath, Path.baseSegments_eq_takeWhile]
  · exact Path.basePath_eq_self_iff hends (Path.owner_ne_empty_of_resourceName hends hname)

end

/-- A collection all of whose segments are plain. -/
def storedPets : Document where
  paths := some <| .ofList [
    ("/store/pets", { post := some { operationId := some "addPet" } }),
    ("/store/pets/\x7bpetId\x7d", {
      get := some { operationId := some "getPet" }
      delete := some { operationId := some "deletePet" } })]

/-- The pets lie there. -/
theorem path_of_collection_storedPets : ∃ resource ∈ (storedPets.survey none none).resources,
    ((storedPets.survey none none).report.contributors resource.name).head? =
        some "/store/pets" ∧
      (storedPets.survey none none).report.outcome? "/store/pets" = some .resourceCollection ∧
      resource.path = "/store/pets" := by
  have hnames : (storedPets.survey none none).resources.map (·.name) = ["Pet"] := by
    decide +kernel
  obtain ⟨resource, hresource, hname⟩ := List.mem_map.1 (hnames ▸ List.mem_singleton.2 rfl)
  have hfirst : ((storedPets.survey none none).report.contributors resource.name).head? =
      some "/store/pets" := by
    rw [hname]
    decide +kernel
  have hcollection : (storedPets.survey none none).report.outcome? "/store/pets" =
      some .resourceCollection := by decide +kernel
  exact ⟨resource, hresource, hfirst, hcollection,
    (path_of_collection hresource hfirst hcollection).2.2 (by decide +kernel)⟩

/-- A collection below an entity, and one with a name like that of an operation. -/
def postsAndWidgets : Document where
  paths := some <| .ofList [
    ("/users/\x7buserId\x7d/posts", { post := some { operationId := some "addPost" } }),
    ("/users/\x7buserId\x7d/posts/\x7bpostId\x7d", {
      get := some { operationId := some "getPost" }
      delete := some { operationId := some "deletePost" } }),
    ("/widgets", { post := some { operationId := some "addWidget" } }),
    ("/widgets/\x7bwidgetId\x7d", {
      get := some { operationId := some "getWidget" }
      delete := some { operationId := some "deleteWidget" } })]

/-- Neither of the two resources lies in its collection. -/
theorem path_ne_collection_of_postsAndWidgets :
    (postsAndWidgets.survey none none).resources.map (fun resource =>
        (resource.path,
          ((postsAndWidgets.survey none none).report.contributors resource.name).head?)) =
      [("/users", some "/users/\x7buserId\x7d/posts"), ("/", some "/widgets")] ∧
    (postsAndWidgets.survey none none).report.outcome? "/users/\x7buserId\x7d/posts" =
      some .resourceCollection ∧
    (postsAndWidgets.survey none none).report.outcome? "/widgets" = some .resourceCollection := by
  decide +kernel

end ApiKinds
