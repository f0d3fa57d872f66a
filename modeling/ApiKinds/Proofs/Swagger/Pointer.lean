/-
  References to global parameters and responses whose names are written as in JSON pointers.

  * `Document.Renders`: an operation of a description with the given globals, and what it is
    upgraded to.
  * `Document.FollowsParameter`, `Document.FollowsResponse`: operations that refer to a global
    object are upgraded, and their new references lead to its upgraded form.
  * `followsParameter_iff`, `followsResponse_iff`: the upgrade looks for a name as it is
    written, so that it finds a global object just if there is one under the written name too.
  * `pointers_followed_iff`: so pointers are followed to all names that are written as they are,
    and to others by accident.
-/
import ApiKinds.Proofs.Swagger.Inlining

namespace ApiKinds.Swagger

open Api

/-! ## Pointers -/

/-- The references to global objects under a name. -/
def parameterPointer (name : String) : String :=
  "#/parameters/" ++ escaped name

def responsePointer (name : String) : String :=
  "#/responses/" ++ escaped name

namespace Document

variable (doc : Document)

/-- The description with other paths. -/
def withPaths (paths : Option (Dict PathItem)) : Document :=
  { doc with paths := paths }

/-- In a description with these globals a path has an operation, and `operation'` is in its
    place in the upgraded description. -/
inductive Renders (item : PathItem) (operation : Operation) (upgraded : Api.Document)
    (operation' : Api.Operation) : Prop
  | intro {paths path verb item'} : (doc.withPaths paths).upgrade = .ok upgraded →
      (doc.withPaths paths).pathItems.get? path = some item → item.at? verb = some operation →
      upgraded.pathItems.get? path = some item' → item'.at? verb = some operation' →
      Renders item operation upgraded operation'

/-- Pointers to a global parameter lead to it. -/
structure FollowsParameter (name : String) (global : Parameter) : Prop where
  /-- Nothing but other references keeps a description from being upgraded. -/
  upgrades : ∀ paths,
    (∀ parameter, (doc.withPaths paths).Lists parameter →
      parameter = .ref (parameterPointer name) ∨ (doc.parameter? parameter).isSome) →
    (∀ response, (doc.withPaths paths).Answers response → (doc.response? response).isSome) →
    ∃ upgraded, (doc.withPaths paths).upgrade = .ok upgraded
  /-- An operation that lists the pointer refers to the upgraded global, unless that is a field
      of a form: to a parameter if no later one overrides it, to a body if there is no other. -/
  refers : ∀ {item operation upgraded operation'},
    doc.Renders item operation upgraded operation' → ∀ before after,
    operation.parameters = before ++ .ref (parameterPointer name) :: after →
    (global.inBody = false →
      (∀ other ∈ after.filterMap doc.parameter?,
        (doc.parameter? (.ref (parameterPointer name))).map (·.place) ≠ some other.place) →
      .ref (referenceTo .parameters (escaped name)) ∈ operation'.parameters) ∧
    (global.isBody →
      (∀ other ∈ (item.parameters ++ before ++ after).filterMap doc.parameter?,
        other.isBody = false) →
      operation'.requestBody = some (.ref (referenceTo .requestBodies (escaped name))))
  /-- The new references resolve to the upgraded global. -/
  leads : ∀ {item operation upgraded operation'},
    doc.Renders item operation upgraded operation' →
    (.ref (referenceTo .parameters (escaped name)) ∈ operation'.parameters →
      upgraded.parameter? (.ref (referenceTo .parameters (escaped name))) =
        some (upgradeParameter global)) ∧
    (operation'.requestBody = some (.ref (referenceTo .requestBodies (escaped name))) →
      upgraded.requestBody? (.ref (referenceTo .requestBodies (escaped name))) =
        some (bodyOf global doc.consumes))

/-- Pointers to a global response lead to it. -/
structure FollowsResponse (name : String) (global : Response) : Prop where
  upgrades : ∀ paths,
    (∀ parameter, (doc.withPaths paths).Lists parameter → (doc.parameter? parameter).isSome) →
    (∀ response, (doc.withPaths paths).Answers response →
      response = .ref (responsePointer name) ∨ (doc.response? response).isSome) →
    ∃ upgraded, (doc.withPaths paths).upgrade = .ok upgraded
  refers : ∀ {item operation upgraded operation'},
    doc.Renders item operation upgraded operation' → ∀ code,
    operation.responses.get? code = some (.ref (responsePointer name)) →
    operation'.responses.get? code = some (.ref (referenceTo .responses (escaped name)))
  leads : ∀ {item operation upgraded operation'},
    doc.Renders item operation upgraded operation' → ∀ code,
    operation'.responses.get? code = some (.ref (referenceTo .responses (escaped name))) →
    upgraded.response? (.ref (referenceTo .responses (escaped name))) =
      some (upgradeResponse global doc.produces)

end Document

/-- Both are bodies, both are fields of forms, or both are neither. -/
structure Parameter.Alike (a b : Parameter) : Prop where
  isBody : a.isBody = b.isBody
  inBody : a.inBody = b.inBody

/-! ## Upgraded operations -/

section
variable {doc : Document} {shared own : List Resolved}
  {responses : List (String × RefOr Api.Response)} {operation : Operation}

theorem ref_mem_parameters_iff {name : String} :
    .ref (referenceTo .parameters name) ∈
        (assemble doc shared own responses operation).parameters ↔
      ∃ r ∈ mergeParameters shared own, r.parameter.inBody = false ∧ r.globalName = some name := by
  have hreference : referenceTo .parameters name = "#/components/parameters/" ++ name := rfl
  simp only [parameters_assemble, List.mem_map, List.mem_filter, Bool.not_eq_true', and_assoc,
    hreference]
  refine exists_congr fun r => and_congr_right fun _ => and_congr_right fun _ => ?_
  rw [Resolved.toParameter]
  cases r.globalName with
  | none => simp
  | some other => simp [String.append_right_inj]

theorem requestBody_eq_ref_iff {name : String} :
    (assemble doc shared own responses operation).requestBody =
        some (.ref (referenceTo .requestBodies name)) ↔
      ∃ r, lastBody (mergeParameters shared own) = some r ∧ r.globalName = some name := by
  have hreference : referenceTo .requestBodies name = "#/components/requestBodies/" ++ name := rfl
  rw [assemble]
  cases hbody : lastBody (mergeParameters shared own) with
  | none =>
    rw [lastBody] at hbody
    rw [requestBodyOf, hbody]
    simp
  | some r =>
    rw [requestBodyOf_of_some hbody, Resolved.toBody, hreference]
    cases hname : r.globalName with
    | none => simp [hname]
    | some other => simp [hname, String.append_right_inj]

/-- The only body of an operation and its path is kept. -/
theorem lastBody_mergeParameters {r : Resolved} (hr : r.parameter.isBody)
    {before after : List Resolved}
    (hothers : ∀ other ∈ shared ++ before ++ after, other.parameter.isBody = false) :
    lastBody (mergeParameters shared (before ++ r :: after)) = some r := by
  simp only [List.forall_mem_append] at hothers
  obtain ⟨⟨hshared, hbefore⟩, hafter⟩ := hothers
  have hkept : r ∈ mergeParameters shared (before ++ r :: after) := by
    refine mem_overrideAll (fun other hother => ?_) shared before
    -- what overrides a body has its location, and is a body too
    by_contra hplace
    rw [Bool.not_eq_false, Resolved.overrides_iff] at hplace
    have hlocation : other.parameter.location = r.parameter.location :=
      congrArg Place.location hplace
    have hbody := hafter other hother
    rw [Parameter.isBody, hlocation, ← Parameter.isBody, hr] at hbody
    cases hbody
  have honly : ∀ other ∈ mergeParameters shared (before ++ r :: after),
      other = r ∨ other.parameter.isBody = false := by
    refine forall_mem_overrideAll (fun other hother => .inr (hshared other hother)) ?_
    rw [List.forall_mem_append, List.forall_mem_cons]
    exact ⟨fun other hother => .inr (hbefore other hother), .inl rfl,
      fun other hother => .inr (hafter other hother)⟩
  cases hlast : lastBody (mergeParameters shared (before ++ r :: after)) with
  | none =>
    have hmem : r ∈ (mergeParameters shared (before ++ r :: after)).filter (·.parameter.isBody) :=
      List.mem_filter.2 ⟨hkept, hr⟩
    rw [List.getLast?_eq_none_iff.1 hlast] at hmem
    cases hmem
  | some last =>
    obtain ⟨hmem, hbody⟩ := List.mem_filter.1 (List.mem_of_getLast? hlast)
    rcases honly last hmem with rfl | hother
    · rfl
    · rw [hother] at hbody
      cases hbody

end

section
variable {doc : Document} {item : PathItem} {operation : Operation} {upgraded : Api.Document}
  {operation' : Api.Operation}

theorem Document.Renders.components_eq (h : doc.Renders item operation upgraded operation') :
    upgraded.components = some doc.components := by
  obtain ⟨hupgrade, -, -, -, -⟩ := h
  have hcomponents := components_of_upgrade hupgrade
  exact hcomponents

theorem Document.Renders.exists_assemble (h : doc.Renders item operation upgraded operation') :
    ∃ shared own responses, operation' = assemble doc shared own responses operation ∧
      item.parameters.mapM doc.resolveParameter = .ok shared ∧
      operation.parameters.mapM doc.resolveParameter = .ok own ∧
      upgradeValues (fun _ => doc.upgradeResponseRef (mediaTypes operation.produces doc.produces))
        operation.responses.entries = .ok responses := by
  obtain ⟨hupgrade, hitem, hoperation, hitem', hoperation'⟩ := h
  obtain ⟨_, shared, own, responses, hitem'', -, hat, hshared, hown, hresponses⟩ :=
    at?_of_upgrade hupgrade hitem hoperation
  rw [hitem'] at hitem''
  cases hitem''
  rw [hoperation'] at hat
  cases hat
  exact ⟨shared, own, responses, rfl, hshared, hown, hresponses⟩

/-- A parameter of an operation or its path that was referred to is the global one. -/
theorem global_of_mergeParameters {parameters parameters' : List (RefOr Parameter)}
    {shared own : List Resolved} (hshared : parameters.mapM doc.resolveParameter = .ok shared)
    (hown : parameters'.mapM doc.resolveParameter = .ok own) :
    ∀ r ∈ mergeParameters shared own, ∀ name, r.globalName = some name →
      doc.parameters.get? name = some r.parameter :=
  forall_mem_overrideAll (fun r hr name hname => (global_of_mapM hshared r hr name hname).2)
    (fun r hr name hname => (global_of_mapM hown r hr name hname).2)

end

/-! ## A description of one operation -/

/-- The paths of a description with one operation. -/
def alone (operation : Operation) : Option (Dict PathItem) :=
  some (.ofList [("/", { get := some operation })])

section
variable {doc : Document} {operation : Operation}

theorem pathItem_alone : (doc.withPaths (alone operation)).pathItems.get? "/" =
    some { get := some operation } :=
  Dict.get?_singleton_iff.2 ⟨rfl, rfl⟩

theorem at?_alone : ({ get := some operation } : PathItem).at? .get = some operation := rfl

theorem eq_of_alone {path : String} {item : PathItem} {verb : Verb} {found : Operation}
    (hitem : (doc.withPaths (alone operation)).pathItems.get? path = some item)
    (hfound : item.at? verb = some found) : found = operation := by
  obtain ⟨-, rfl⟩ := Dict.get?_singleton_iff.1 hitem
  cases verb <;> cases hfound
  rfl

theorem lists_alone_iff {parameter : RefOr Parameter} :
    (doc.withPaths (alone operation)).Lists parameter ↔ parameter ∈ operation.parameters := by
  refine ⟨?_, .operation pathItem_alone at?_alone⟩
  rintro (⟨hitem, hmem⟩ | ⟨hitem, hoperation, hmem⟩)
  · obtain ⟨-, rfl⟩ := Dict.get?_singleton_iff.1 hitem
    cases hmem
  · rwa [eq_of_alone hitem hoperation] at hmem

theorem answers_alone_iff {response : RefOr Response} :
    (doc.withPaths (alone operation)).Answers response ↔
      ∃ code, operation.responses.get? code = some response := by
  refine ⟨?_, fun ⟨_, hresponse⟩ => .operation pathItem_alone at?_alone hresponse⟩
  rintro ⟨hitem, hoperation, hresponse⟩
  rw [eq_of_alone hitem hoperation] at hresponse
  exact ⟨_, hresponse⟩

theorem exists_renders {upgraded : Api.Document}
    (h : (doc.withPaths (alone operation)).upgrade = .ok upgraded) :
    ∃ operation', doc.Renders { get := some operation } operation upgraded operation' := by
  obtain ⟨item', shared, own, responses, hitem', -, hoperation', -⟩ :=
    at?_of_upgrade h pathItem_alone at?_alone
  exact ⟨_, .intro h pathItem_alone at?_alone hitem' hoperation'⟩

end

/-! ## Following pointers -/

section
variable {doc : Document} {name : String}

theorem resolveParameter_pointer_iff {r : Resolved} :
    doc.resolveParameter (.ref (parameterPointer name)) = .ok r ↔
      ∃ found, doc.parameters.get? (escaped name) = some found ∧
        r = ⟨some (escaped name), found⟩ := by
  rw [resolveParameter_ref_iff]
  constructor
  · rintro ⟨name', found, hname, hfound, rfl⟩
    obtain rfl := (String.append_right_inj _).1 hname
    exact ⟨found, hfound, rfl⟩
  · rintro ⟨found, hfound, rfl⟩
    exact ⟨_, found, rfl, hfound, rfl⟩

theorem isSome_parameter?_pointer_iff :
    (doc.parameter? (.ref (parameterPointer name))).isSome ↔
      ∃ found, doc.parameters.get? (escaped name) = some found := by
  rw [Document.parameter?, global?, parameterPointer, Text.dropPrefix?_append, Option.bind_some,
    Option.isSome_iff_exists]

theorem isSome_response?_pointer_iff :
    (doc.response? (.ref (responsePointer name))).isSome ↔ escaped name ∈ doc.responses.keys := by
  rw [Document.response?, global?, responsePointer, Text.dropPrefix?_append, Option.bind_some,
    Option.isSome_iff_exists, Dict.mem_keys]

/-- For pointers to lead to a global parameter it is enough that there is one like it under the
    written name: what the new reference names is unescaped, and so the global itself. -/
theorem followsParameter_of_alike (hname : name ≠ "") {global found : Parameter}
    (hglobal : doc.parameters.get? name = some global)
    (hfound : doc.parameters.get? (escaped name) = some found) (halike : found.Alike global) :
    doc.FollowsParameter name global where
  upgrades paths hlists hanswers := by
    refine exists_upgrade_iff.2 ⟨fun parameter hlisted => ?_, hanswers⟩
    rcases hlists parameter hlisted with rfl | hsome
    · exact isSome_parameter?_pointer_iff.2 ⟨found, hfound⟩
    · exact hsome
  refers := by
    intro item operation upgraded operation' hrenders before after hlisted
    obtain ⟨shared, own, responses, rfl, hshared, hown, -⟩ := hrenders.exists_assemble
    rw [hlisted] at hown
    obtain ⟨front, r, back, hfront, hr, hback, rfl⟩ := mapM_append_cons_eq_ok hown
    obtain ⟨found', hfound', rfl⟩ := resolveParameter_pointer_iff.1 hr
    obtain rfl : found = found' := Option.some.inj (hfound.symm.trans hfound')
    constructor
    · intro hplain hlater
      rw [parameter?_of_resolve hr, filterMap_parameter?_of_mapM hback] at hlater
      have hkept : ∀ other ∈ back,
          Resolved.overrides other ⟨some (escaped name), found⟩ = false := by
        intro other hother
        rw [← Bool.not_eq_true, Resolved.overrides_iff]
        exact fun hplace => hlater _ (List.mem_map_of_mem hother) (congrArg some hplace.symm)
      exact ref_mem_parameters_iff.2
        ⟨_, mem_overrideAll hkept .., halike.inBody.trans hplain, rfl⟩
    · intro hbody hothers
      rw [List.filterMap_append, List.filterMap_append, filterMap_parameter?_of_mapM hshared,
        filterMap_parameter?_of_mapM hfront, filterMap_parameter?_of_mapM hback,
        ← List.map_append, ← List.map_append] at hothers
      exact requestBody_eq_ref_iff.2 ⟨_, lastBody_mergeParameters (halike.isBody.trans hbody)
        (List.forall_mem_map.1 hothers), rfl⟩
  leads := by
    intro item operation upgraded operation' hrenders
    have hcomponents := hrenders.components_eq
    obtain ⟨shared, own, responses, rfl, hshared, hown, -⟩ := hrenders.exists_assemble
    have hmerged : ∀ r ∈ mergeParameters shared own, r.globalName = some (escaped name) →
        r.parameter = found := by
      intro r hr hrname
      have hget := global_of_mergeParameters hshared hown r hr _ hrname
      rw [hfound] at hget
      cases hget
      rfl
    constructor
    · intro hmem
      obtain ⟨r, hr, hplain, hrname⟩ := ref_mem_parameters_iff.1 hmem
      rw [hmerged r hr hrname, halike.inBody] at hplain
      exact parameter?_escaped hcomponents hname hglobal hplain
    · intro hbody
      obtain ⟨r, hlast, hrname⟩ := requestBody_eq_ref_iff.1 hbody
      have hisBody := isBody_of_lastBody hlast
      have hr : r ∈ mergeParameters shared own :=
        (List.mem_filter.1 (List.mem_of_getLast? hlast)).1
      rw [hmerged r hr hrname, halike.isBody] at hisBody
      exact requestBody?_escaped hcomponents hname hglobal hisBody

/-- An operation with one reference, to a parameter. -/
def pointing (name : String) : Operation where
  parameters := [.ref (parameterPointer name)]

/-- An operation with one reference, to a response. -/
def answering (name : String) : Operation where
  responses := .ofList [("default", .ref (responsePointer name))]

/-- The operation is upgraded to one with a reference in the section of the found parameter. -/
theorem exists_renders_pointing {found : Parameter}
    (hfound : doc.parameters.get? (escaped name) = some found) {upgraded : Api.Document}
    (h : (doc.withPaths (alone (pointing name))).upgrade = .ok upgraded) :
    ∃ operation', doc.Renders { get := some (pointing name) } (pointing name) upgraded operation' ∧
      (.ref (referenceTo .parameters (escaped name)) ∈ operation'.parameters ↔
        found.inBody = false) ∧
      (operation'.requestBody = some (.ref (referenceTo .requestBodies (escaped name))) ↔
        found.isBody) := by
  obtain ⟨operation', hrenders⟩ := exists_renders h
  refine ⟨operation', hrenders, ?_⟩
  obtain ⟨shared, own, responses, rfl, hshared, hown, -⟩ := hrenders.exists_assemble
  obtain rfl : shared = [] := (Except.ok.inj hshared).symm
  obtain rfl : own = [⟨some (escaped name), found⟩] := by
    have hpointer : [RefOr.ref (parameterPointer name)].mapM doc.resolveParameter =
        .ok [⟨some (escaped name), found⟩] :=
      mapM_eq_ok_iff.2 (.cons (resolveParameter_pointer_iff.2 ⟨found, hfound, rfl⟩) .nil)
    exact Except.ok.inj (hown.symm.trans hpointer)
  have hmerged : mergeParameters [] [⟨some (escaped name), found⟩] =
      [⟨some (escaped name), found⟩] := rfl
  rw [ref_mem_parameters_iff, requestBody_eq_ref_iff, hmerged, lastBody]
  constructor
  · simp
  · cases hbody : found.isBody <;> simp [hbody]

theorem get?_componentParameters (doc : Document) (name : String) :
    doc.components.parameters.get? name = (doc.parameters.get? name).bind fun parameter =>
      if parameter.inBody then none else some (.inline (upgradeParameter parameter)) :=
  Dict.get?_filterMap ..

theorem get?_componentBodies (doc : Document) (name : String) :
    doc.components.requestBodies.get? name = (doc.parameters.get? name).bind fun parameter =>
      if parameter.isBody then some (.inline (bodyOf parameter doc.consumes)) else none :=
  Dict.get?_filterMap ..

section
variable {upgraded : Api.Document} (hcomponents : upgraded.components = some doc.components)
include hcomponents

/-- A reference to a parameter resolves only if the global is no part of a body. -/
theorem inBody_of_parameter?_escaped (hname : name ≠ "") {global : Parameter}
    (hglobal : doc.parameters.get? name = some global) {parameter : Api.Parameter}
    (h : upgraded.parameter? (.ref (referenceTo .parameters (escaped name))) = some parameter) :
    global.inBody = false := by
  obtain ⟨entry, hentry⟩ := exists_entry_of_resolve? (nameIn?_escaped .parameters hname) h
  rw [upgraded.entries_eq .parameters hcomponents] at hentry
  have hkept : doc.components.parameters.get? name = some entry := hentry
  rw [get?_componentParameters, hglobal, Option.bind_some] at hkept
  by_contra hbody
  rw [if_pos (by simpa using hbody)] at hkept
  cases hkept

/-- A reference to a request body resolves only if the global is a body. -/
theorem isBody_of_requestBody?_escaped (hname : name ≠ "") {global : Parameter}
    (hglobal : doc.parameters.get? name = some global) {body : RequestBody}
    (h : upgraded.requestBody? (.ref (referenceTo .requestBodies (escaped name))) = some body) :
    global.isBody := by
  obtain ⟨entry, hentry⟩ := exists_entry_of_resolve? (nameIn?_escaped .requestBodies hname) h
  rw [upgraded.entries_eq .requestBodies hcomponents] at hentry
  have hkept : doc.components.requestBodies.get? name = some entry := hentry
  rw [get?_componentBodies, hglobal, Option.bind_some] at hkept
  by_contra hbody
  rw [if_neg hbody] at hkept
  cases hkept

end

/-- Pointers to a global parameter lead to it just if there is one like it under the written
    name, where the upgrade looks. -/
theorem followsParameter_iff (hname : name ≠ "") {global : Parameter}
    (hglobal : doc.parameters.get? name = some global) : doc.FollowsParameter name global ↔
      ∃ found, doc.parameters.get? (escaped name) = some found ∧ found.Alike global := by
  refine ⟨fun hfollows => ?_, fun ⟨found, hfound, halike⟩ =>
    followsParameter_of_alike hname hglobal hfound halike⟩
  obtain ⟨upgraded, hupgrade⟩ := hfollows.upgrades (alone (pointing name))
    (fun parameter hlists => .inl (List.mem_singleton.1 (lists_alone_iff.1 hlists)))
    (fun response hanswers => nomatch answers_alone_iff.1 hanswers)
  have hlists : ((doc.withPaths (alone (pointing name))).parameter?
      (.ref (parameterPointer name))).isSome :=
    (exists_upgrade_iff.1 ⟨upgraded, hupgrade⟩).1 _
      (lists_alone_iff.2 (List.mem_singleton_self _))
  obtain ⟨found, hfound⟩ : ∃ found, doc.parameters.get? (escaped name) = some found :=
    isSome_parameter?_pointer_iff.1 hlists
  obtain ⟨operation', hrenders, hplain, hbody⟩ := exists_renders_pointing hfound hupgrade
  have hcomponents := hrenders.components_eq
  obtain ⟨hrefersPlain, hrefersBody⟩ := hfollows.refers hrenders [] [] rfl
  obtain ⟨hleadsPlain, hleadsBody⟩ := hfollows.leads hrenders
  have hbodies : found.isBody ↔ global.isBody := by
    constructor
    · intro h
      exact isBody_of_requestBody?_escaped hcomponents hname hglobal (hleadsBody (hbody.2 h))
    · intro h
      exact hbody.1 (hrefersBody h (by simp))
  have hplains : found.inBody = false ↔ global.inBody = false := by
    constructor
    · intro h
      exact inBody_of_parameter?_escaped hcomponents hname hglobal (hleadsPlain (hplain.2 h))
    · intro h
      exact hplain.1 (hrefersPlain h (by simp))
  exact ⟨found, hfound, Bool.eq_iff_iff.2 hbodies, by simpa using hplains⟩

theorem followsResponse_of_mem (hname : name ≠ "") {global : Response}
    (hglobal : doc.responses.get? name = some global) (hkey : escaped name ∈ doc.responses.keys) :
    doc.FollowsResponse name global where
  upgrades paths hlists hanswers := by
    refine exists_upgrade_iff.2 ⟨hlists, fun response hanswered => ?_⟩
    rcases hanswers response hanswered with rfl | hsome
    · exact isSome_response?_pointer_iff.2 hkey
    · exact hsome
  refers := by
    intro item operation upgraded operation' hrenders code hcode
    obtain ⟨shared, own, responses, rfl, -, -, hresponses⟩ := hrenders.exists_assemble
    obtain ⟨image, himage, hupgraded⟩ :=
      exists_of_rel (get?_of_upgradeValues hresponses code) hcode
    obtain ⟨name', response, hreference, -, rfl⟩ := upgradeResponseRef_ref_iff.1 hupgraded
    obtain rfl := (String.append_right_inj _).1 hreference
    exact himage
  leads := by
    intro item operation upgraded operation' hrenders code _
    exact response?_escaped hrenders.components_eq hname hglobal

/-- Pointers to a global response lead to it just if there is one under the written name. -/
theorem followsResponse_iff (hname : name ≠ "") {global : Response}
    (hglobal : doc.responses.get? name = some global) :
    doc.FollowsResponse name global ↔ escaped name ∈ doc.responses.keys := by
  refine ⟨fun hfollows => ?_, followsResponse_of_mem hname hglobal⟩
  obtain ⟨upgraded, hupgrade⟩ := hfollows.upgrades (alone (answering name))
    (fun parameter hlists => nomatch lists_alone_iff.1 hlists)
    (fun response hanswers => by
      obtain ⟨code, hresponse⟩ := answers_alone_iff.1 hanswers
      exact .inl (Dict.get?_singleton_iff.1 hresponse).2.symm)
  have hanswers : (doc.withPaths (alone (answering name))).Answers (.ref (responsePointer name)) :=
    answers_alone_iff.2 ⟨_, Dict.get?_singleton_iff.2 ⟨rfl, rfl⟩⟩
  exact isSome_response?_pointer_iff.1 ((exists_upgrade_iff.1 ⟨upgraded, hupgrade⟩).2 _ hanswers)

end

/-- **Pointers to a global object lead to it if its name is written as it is, and else just if
    there is another one, of the same kind, under the written name.** -/
theorem pointers_followed_iff (doc : Document) (name : String) (hname : name ≠ "") :
    (∀ global, doc.parameters.get? name = some global →
      (doc.FollowsParameter name global ↔ PlainName name ∨
        ∃ found, doc.parameters.get? (escaped name) = some found ∧ found.Alike global)) ∧
    ∀ global, doc.responses.get? name = some global →
      (doc.FollowsResponse name global ↔ PlainName name ∨
        escaped name ∈ doc.responses.keys) := by
  constructor
  · intro global hglobal
    rw [followsParameter_iff hname hglobal, or_iff_right_of_imp]
    intro hplain
    exact ⟨global, by rwa [escaped_of_plain hplain], rfl, rfl⟩
  · intro global hglobal
    rw [followsResponse_iff hname hglobal, or_iff_right_of_imp]
    intro hplain
    rw [escaped_of_plain hplain]
    exact Dict.mem_keys.2 ⟨global, hglobal⟩

/-- A description with global objects under plain names and under others. -/
def paged : Document where
  paths := some (.ofList [("/pets", {
    get := some { parameters := [.ref "#/parameters/page~1limit"] } })])
  parameters := .ofList [("page", page), ("page/limit", limit)]
  responses := .ofList [("not~found", missing)]
where
  page : Parameter := { name := "page", location := "query" }
  limit : Parameter := { name := "limit", location := "query" }
  missing : Response := { description := "No such page" }

theorem pointers_of_paged : paged.FollowsParameter "page" paged.page ∧
    ¬ paged.FollowsParameter "page/limit" paged.limit ∧
    ¬ paged.FollowsResponse "not~found" paged.missing := by
  refine ⟨?_, fun hfollows => ?_, fun hfollows => ?_⟩
  · exact ((pointers_followed_iff paged "page" (by decide)).1 _ rfl).2 (.inl (by decide))
  · rcases ((pointers_followed_iff paged "page/limit" (by decide)).1 _ rfl).1 hfollows with
      hplain | ⟨found, hfound, -⟩
    · exact absurd hplain (by decide)
    · have hnone : paged.parameters.get? (escaped "page/limit") = none := rfl
      rw [hnone] at hfound
      cases hfound
  · rcases ((pointers_followed_iff paged "not~found" (by decide)).2 _ rfl).1 hfollows with
      hplain | hkey
    · exact absurd hplain (by decide)
    · exact absurd hkey (by decide)

/-- An operation that refers to a global parameter by its pointer is not upgraded. -/
theorem upgrade_of_paged : paged.parameters.get? "page/limit" = some paged.limit ∧
    paged.Lists (.ref (parameterPointer "page/limit")) ∧
    paged.upgrade = .error ⟨"/pets", .unresolvedParameter "#/parameters/page~1limit"⟩ := by
  have hpointer : parameterPointer "page/limit" = "#/parameters/page~1limit" := rfl
  refine ⟨rfl, ?_, rfl⟩
  rw [hpointer]
  exact .operation (Dict.get?_singleton_iff.2 ⟨rfl, rfl⟩)
    (show PathItem.at? _ .get = some _ from rfl) (List.mem_singleton_self _)

end ApiKinds.Swagger
