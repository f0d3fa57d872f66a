/-
  What actions are done to, beside the resource of the path right above them.

  * `Path.HoldsActions`: a path that an action lies right below, as `/pets` or `/pets/{petId}`.
  * `Path.resourceName_below`: what is done to an entity has the name of its resource.
  * `kind_of_parentOf?`: the last parameter that has an owner gives the Kind that the path
    above is named by, which is looked for from its end.
  * `parent_of_action`: the parent of an action is the Kind of the path right above it, and that
    is the Kind which the row of a resource there has.
-/
import ApiKinds.Proofs.Survey.Methods

namespace ApiKinds

open Api

/-! ## Paths that actions lie below -/

namespace Path

/-- A path that actions lie right below: one segment that is no parameter, or an entity. -/
inductive HoldsActions : String → Prop
  | single {owner : String} : owner ≠ "" → '/' ∉ owner.toList → isParam owner = false →
      HoldsActions ("/" ++ owner)
  | entity {path : String} : isIdPath path → HoldsActions path

section
variable {owner : String} (hne : owner ≠ "") (hfree : '/' ∉ owner.toList)
include hne hfree

theorem segments_single : segments ("/" ++ owner) = [owner] := by
  have hpath : ofSegments [owner] = "/" ++ owner := by simp [ofSegments, Text.join]
  rw [← hpath]
  exact segments_ofSegments (List.cons_ne_nil _ _) (by simpa using hfree) (by simpa using hne)
    (by simpa using hne)

theorem not_isRoot_of_single : isRoot ("/" ++ owner) = false :=
  not_isRoot_of_segments (by simpa [segments_single hne hfree] using hne)

theorem resourceName_of_single (hplain : isParam owner = false) (rootKind : Option String) :
    resourceName ("/" ++ owner) rootKind = Word.kindName owner := by
  rw [resourceName, not_isRoot_of_single hne hfree, if_neg Bool.false_ne_true,
    segments_single hne hfree]
  -- an action that stands alone is skipped, but is the first segment that is no parameter
  cases haction : Word.isAction owner <;> simp [namingSegment?, hplain, haction]

end

section
variable {path : String} (h : HoldsActions path)
include h

theorem HoldsActions.not_isRoot : isRoot path = false := by
  cases h with
  | single hne hfree _ => exact not_isRoot_of_single hne hfree
  | entity hid =>
    obtain ⟨before, owner, param, hends⟩ := isIdPath_iff.1 hid
    exact not_isRoot_of_endsIn hends

/-- The root Kind does not matter for a path that actions lie below. -/
theorem HoldsActions.resourceName_eq (rootKind other : Option String) :
    resourceName path rootKind = resourceName path other := by
  cases h with
  | single hne hfree hplain =>
    rw [resourceName_of_single hne hfree hplain, resourceName_of_single hne hfree hplain]
  | entity hid =>
    obtain ⟨before, owner, param, hends⟩ := isIdPath_iff.1 hid
    rw [resourceName_of_endsIn hends, resourceName_of_endsIn hends]

/-- A collection that actions lie below has the name of its items, if these have one. -/
theorem HoldsActions.resourceName_of_collection {item : String}
    (hitem : collectionOf? item = some path) {rootKind : Option String}
    (hname : resourceName item rootKind ≠ "") :
    resourceName item rootKind = resourceName path rootKind := by
  cases h with
  | single hne hfree hplain =>
    obtain ⟨before, owner, param, hends, hpath⟩ := collectionOf?_eq_some_iff.1 hitem
    have hsegments := segments_of_collection hends (owner_ne_empty_of_resourceName hends hname)
    rw [← hpath, segments_single hne hfree] at hsegments
    obtain rfl : _ = owner := by simpa using congrArg List.getLast? hsegments
    rw [resourceName_of_endsIn hends, resourceName_of_single hne hfree hplain]
  | entity hid => exact absurd (resourceName_eq_empty_of_nested hitem hid rootKind) hname

/-- What stands behind the last slash is not empty, if it is the last segment. -/
theorem HoldsActions.action_ne_empty {action : String}
    (hlast : (segments (path ++ "/" ++ action)).getLast? = some action) : action ≠ "" := by
  rintro rfl
  -- a slash at the end is ignored, so the last segment would be that of the path
  have hsegments : segments (path ++ "/" ++ "") = segments path := by
    rw [String.append_empty, segments, segments, Text.trimChar, Text.trimChar,
      String.toList_append, toList_slash, Text.trimEnds_concat (by rfl)]
  rw [hsegments] at hlast
  cases h with
  | single hne hfree _ =>
    rw [segments_single hne hfree, List.getLast?_singleton, Option.some.injEq] at hlast
    exact hne hlast
  | entity hid =>
    obtain ⟨before, owner, param, hends⟩ := isIdPath_iff.1 hid
    have hempty : param = "" := by simpa [hends.segments] using hlast
    have hparam := hends.isParam
    rw [hempty] at hparam
    cases hparam

end

theorem not_isRoot_below {above path action : String}
    (h : segments path = segments above ++ [action]) : isRoot path = false := by
  refine not_isRoot_of_segments fun hroot => segments_ne_nil above ?_
  simpa using congrArg List.length (h.symm.trans hroot)

/-- What is done to an entity has the name of its resource. -/
theorem resourceName_below {above path action : String} {before : List String}
    {owner param : String} (hends : EndsIn above before owner param)
    (hsegments : segments path = segments above ++ [action]) (haction : isParam action = false)
    (rootKind other : Option String) : resourceName path rootKind = resourceName above other := by
  have hname : namingSegment? none (segments path).reverse = some owner := by
    rw [hsegments, hends.segments]
    simp [namingSegment?, haction, hends.isParam, hends.plain, hends.identified]
  rw [resourceName_of_endsIn hends]
  simp [resourceName, not_isRoot_below hsegments, hname]

end Path

/-! ## Parents -/

/-- The last of the parameters that have an owner is the one at the end. -/
theorem getLast?_ownedParams {owner param name : String} (hplain : Path.isParam owner = false)
    (hname : Path.paramName? param = some name) (before : List String) :
    (ownedParams (before ++ [owner, param])).getLast? = some (owner, name) := by
  induction before with
  | nil =>
    have hparam := Path.isParam_of_paramName? (Option.isSome_of_mem hname)
    simp [ownedParams, hplain, hname, hparam]
  | cons part rest ih =>
    rw [List.cons_append, ownedParams]
    split
    · rw [List.getLast?_cons, ih]
      rfl
    · exact ih

/-- An action right below an entity is done to it. -/
theorem parentOf?_of_endsIn {above : String} {before : List String} {owner param name : String}
    (h : Path.EndsIn above before owner param) (hname : Path.paramName? param = some name)
    (action : String) :
    parentOf? (Path.segments above ++ [action]) = some ⟨Word.kindName owner, some name⟩ := by
  unfold parentOf?
  rw [List.dropLast_concat, h.segments, getLast?_ownedParams h.plain hname]

/-- An action right below a path is done to the resource of the path. -/
theorem kind_of_parentOf? {above : String} (h : Path.HoldsActions above) (action : String)
    (rootKind : Option String) : (parentOf? (Path.segments above ++ [action])).map (·.kind) =
      some (Path.resourceName above rootKind) := by
  cases h with
  | single hne hfree hplain =>
    rw [Path.segments_single hne hfree, Path.resourceName_of_single hne hfree hplain]
    simp [parentOf?, ownedParams, hplain]
  | entity hid =>
    obtain ⟨before, owner, param, hends⟩ := Path.isIdPath_iff.1 hid
    obtain ⟨name, hname⟩ := hends.exists_paramName
    rw [parentOf?_of_endsIn hends hname, Path.resourceName_of_endsIn hends, Option.map_some]

/-! ## Parents of actions -/

section
variable {doc : Document} {filter : Option PathFilter} {rootKind : Option String}
  {view : PathView} {endpoint : ActionEndpoint}

/-- An action comes from a path with the shape of one. -/
theorem exists_shape_of_action (h : endpoint ∈ (doc.survey filter rootKind).actionEndpoints) :
    ∃ view, isActionShape view ∧
      actionEndpoint? doc (namedKind? rootKind) view = some endpoint := by
  obtain ⟨view, -, hfound, haction⟩ := exists_found_of_action h
  have hfits : (foundIn doc filter (namedKind? rootKind) view).Fits view := fits_finding ..
  rw [hfound] at hfits
  exact ⟨view, hfits, haction⟩

theorem parent_of_actionEndpoint? (h : actionEndpoint? doc rootKind view = some endpoint)
    (hroot : Path.isRoot view.path = false) :
    endpoint.parentResource = (parentOf? (Path.segments view.path)).map (·.kind) ∧
      endpoint.parentIdParam = (parentOf? (Path.segments view.path)).bind (·.idParam) := by
  simp only [actionEndpoint?, bind, Option.bind_eq_some_iff] at h
  obtain ⟨names, hnames, ⟨method, operation⟩, -, h⟩ := h
  cases h
  simp only [(of_actionNames? hnames hroot).2, and_self]

/-- The Kind of a resource that an action lies below is that of its path. -/
theorem kind_of_holdsActions {above : String} (h : Path.HoldsActions above) {row : Row}
    (hrow : row ∈ (doc.survey filter rootKind).report.rows) (hpath : row.path = above)
    (houtcome : row.outcome.isResource) (other : Option String) :
    row.kind = some (Path.resourceName above other) := by
  subst hpath
  obtain ⟨view, name, hview, hkind, hfound⟩ := exists_found_of_isResource hrow houtcome
  have hsort := contributesAs_of_foundIn hfound
  rw [path_of_get?_keptViews hview] at hsort
  rw [hkind, h.resourceName_eq other (namedKind? rootKind)]
  generalize row.outcome = outcome at hsort
  cases hsort with
  | @collection item hfolds hname =>
    rw [h.resourceName_of_collection hfolds.collectionOf? hname]
  | item => rfl
  | plain => rfl

end

/-- An action is done to what the path right above it stands for. -/
structure ActionEndpoint.IsDoneAt (endpoint : ActionEndpoint) (survey : Survey) (above : String) :
    Prop where
  /-- Its parent has the name that the path above gives, with any root Kind. -/
  kind : ∀ rootKind, endpoint.parentResource = some (Path.resourceName above rootKind)
  /-- A row of a resource at the path above has the parent as its Kind. -/
  row : ∀ row ∈ survey.report.rows, row.path = above → row.outcome.isResource →
    row.kind = endpoint.parentResource
  /-- If the path above is an entity, the parameter at its end identifies the parent, and the path
      of the action is named by the same resource. -/
  entity : Path.isIdPath above → ∃ param name, (Path.segments above).getLast? = some param ∧
    Path.paramName? param = some name ∧ endpoint.parentIdParam = some name ∧
    ∀ rootKind, Path.resourceName endpoint.path rootKind = Path.resourceName above rootKind

/-- **The parent of an action is the Kind of the path right above it**, and that is the Kind
    which the row of a resource there has. -/
theorem parent_of_action {doc : Document} {filter : Option PathFilter} {rootKind : Option String}
    {endpoint : ActionEndpoint} (hmem : endpoint ∈ (doc.survey filter rootKind).actionEndpoints)
    {above action : String} (hpath : endpoint.path = above ++ "/" ++ action)
    (hlast : (Path.segments endpoint.path).getLast? = some action)
    (hslash : Text.hasSuffix "/" above = false) (habove : Path.HoldsActions above) :
    endpoint.IsDoneAt (doc.survey filter rootKind) above := by
  obtain ⟨view, hshape, haction⟩ := exists_shape_of_action hmem
  have hview := path_of_actionEndpoint? haction
  have hfree : '/' ∉ action.toList :=
    Path.slash_not_mem_of_mem_segments (List.mem_of_getLast? hlast)
  have hsegments : Path.segments view.path = Path.segments above ++ [action] := by
    rw [hpath] at hlast
    rw [← hview, hpath]
    exact Path.segments_append habove.not_isRoot hslash (habove.action_ne_empty hlast) hfree
  obtain ⟨hkind, hid⟩ := parent_of_actionEndpoint? haction (Path.not_isRoot_below hsegments)
  rw [hsegments] at hkind hid
  have hparent : ∀ rootKind, endpoint.parentResource = some (Path.resourceName above rootKind) :=
    fun rootKind => hkind.trans (kind_of_parentOf? habove action rootKind)
  refine ⟨hparent, fun row hrow hrowPath houtcome => ?_, fun hentity => ?_⟩
  · rw [hparent rootKind]
    exact kind_of_holdsActions habove hrow hrowPath houtcome rootKind
  · obtain ⟨before, owner, param, hends⟩ := Path.isIdPath_iff.1 hentity
    obtain ⟨name, hname⟩ := hends.exists_paramName
    rw [parentOf?_of_endsIn hends hname] at hid
    have hplain : Path.isParam action = false := by
      by_contra hparam
      have hnone := isActionShape_of_isParam (hview ▸ hlast) (by simpa using hparam)
      exact Bool.false_ne_true (hnone.symm.trans hshape)
    refine ⟨param, name, by simp [hends.segments], hname, hid, fun rootKind => ?_⟩
    rw [hview]
    exact Path.resourceName_below hends hsegments hplain rootKind rootKind

/-- A document with a resource, to the entities of which pictures are uploaded. -/
def picturedPets : Document where
  paths := some <| .ofList [
    ("/pets/{petId}", { get := some {}, delete := some {} }),
    ("/pets/{petId}/uploadImage", { post := some { operationId := some "uploadFile" } })]

theorem parent_of_picturedPets : ∃ endpoint ∈ (picturedPets.survey none none).actionEndpoints,
    endpoint.path = "/pets/{petId}" ++ "/" ++ "uploadImage" ∧
      endpoint.IsDoneAt (picturedPets.survey none none) "/pets/{petId}" ∧
      ∃ row ∈ (picturedPets.survey none none).report.rows,
        row.path = "/pets/{petId}" ∧ row.outcome.isResource ∧ row.kind = some "Pet" := by
  have hpaths : (picturedPets.survey none none).actionEndpoints.map (·.path) =
      ["/pets/{petId}" ++ "/" ++ "uploadImage"] := by decide +kernel
  have hlast : (Path.segments ("/pets/{petId}" ++ "/" ++ "uploadImage")).getLast? =
      some "uploadImage" := by decide +kernel
  obtain ⟨endpoint, hmem, hpath⟩ := List.mem_map.1 (hpaths ▸ List.mem_singleton_self _)
  refine ⟨endpoint, hmem, hpath, ?_, ⟨"/pets/{petId}", "GET,DELETE", .resource, some "Pet", none⟩,
    by decide +kernel, rfl, rfl, rfl⟩
  exact parent_of_action hmem hpath (hpath.symm ▸ hlast) (by decide) (.entity (by decide +kernel))

end ApiKinds
