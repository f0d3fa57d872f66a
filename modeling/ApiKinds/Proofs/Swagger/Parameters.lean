/-
  Parameters of upgraded operations.

  * `inEffect`: the parameters that a path shares, overridden and completed by those of an
    operation; `kept_mergeParameters`: the upgrade keeps them but for those in bodies.
  * `parameter?_toParameter`: a rewritten reference leads to the upgraded global parameter.
  * `effectiveParameters_upgrade`: the parameters in effect for an upgraded operation are
    those in effect for its source, upgraded.
-/
import ApiKinds.Proofs.Api.Reference
import ApiKinds.Proofs.Override
import ApiKinds.Proofs.Swagger.Upgrade

namespace ApiKinds.Swagger

open Api

/-! ## Parameters of a description -/

/-- The global parameters that are referred to have plain names. -/
def Document.PlainReferences (doc : Document) : Prop :=
  ∀ name, doc.Lists (.ref ("#/parameters/" ++ name)) → PlainName name

/-- A body, or a field of a form. -/
def Parameter.inBody (parameter : Parameter) : Bool :=
  parameter.isBody || parameter.isFormData

/-- For each place, in the order in which these appear, the last parameter of an operation,
    or else the one that its path shares. -/
def inEffect (shared own : List Parameter) : List Parameter :=
  ((shared ++ own).map (·.place)).eraseDups.filterMap fun place =>
    (own.findRev? (·.place = place)).or (shared.find? (·.place = place))

/-! ## Merging -/

theorem map_mergeParameters (shared own : List Resolved) :
    (mergeParameters shared own).map (·.parameter) =
      overrideAll (fun new old => new.place = old.place) (shared.map (·.parameter))
        (own.map (·.parameter)) :=
  map_overrideAll (fun a b => by rw [Bool.eq_iff_iff, a.overrides_iff, decide_eq_true_iff])
    shared own

theorem inEffect_eq {shared : List Parameter} (h : (shared.map (·.place)).Nodup)
    (own : List Parameter) :
    inEffect shared own = overrideAll (fun new old => new.place = old.place) shared own :=
  (overrideAll_eq (fun _ _ => decide_eq_true_iff) h own).symm

theorem kept_mergeParameters {shared : List Resolved}
    (h : ((shared.map (·.parameter)).map (·.place)).Nodup) (own : List Resolved) :
    ((mergeParameters shared own).filter (!·.parameter.inBody)).map (·.parameter) =
      (inEffect (shared.map (·.parameter)) (own.map (·.parameter))).filter (!·.inBody) := by
  rw [inEffect_eq h, ← map_mergeParameters, List.filter_map]
  rfl

theorem nodup_inEffect {shared : List Parameter} (h : (shared.map (·.place)).Nodup)
    (own : List Parameter) : ((inEffect shared own).map (·.place)).Nodup := by
  rw [inEffect_eq h, keys_overrideAll_of_nodup (fun _ _ => decide_eq_true_iff) h]
  exact nodup_eraseDups _

/-! ## Upgraded references -/

/-- A resolved parameter that was referred to is the global one under a plain name. -/
def Document.Provides (doc : Document) (r : Resolved) : Prop :=
  ∀ name, r.globalName = some name → PlainName name ∧ doc.parameters.get? name = some r.parameter

section
variable {doc : Document} {upgraded : Api.Document}
  (hcomponents : upgraded.components = some doc.components)
include hcomponents

theorem parameter?_escaped {name : String} (hname : name ≠ "") {parameter : Parameter}
    (hglobal : doc.parameters.get? name = some parameter) (hbody : parameter.inBody = false) :
    upgraded.parameter? (.ref (referenceTo .parameters (escaped name))) =
      some (upgradeParameter parameter) := by
  have hentry : doc.components.parameters.get? name =
      some (.inline (upgradeParameter parameter)) := by
    refine Dict.get?_filterMap_eq_some_iff.2 ⟨parameter, hglobal, ?_⟩
    exact if_neg (by simpa [Parameter.inBody] using hbody)
  rw [← Api.Document.resolve?_parameters]
  refine resolve?_escaped hname ?_
  rwa [upgraded.entries_eq .parameters hcomponents]

theorem parameter?_referenceTo {name : String} (hname : PlainName name) {parameter : Parameter}
    (hglobal : doc.parameters.get? name = some parameter) (hbody : parameter.inBody = false) :
    upgraded.parameter? (.ref (referenceTo .parameters name)) =
      some (upgradeParameter parameter) := by
  rw [← escaped_of_plain hname]
  exact parameter?_escaped hcomponents hname.ne_empty hglobal hbody

/-- A parameter that was referred to is found among the upgraded globals. -/
theorem parameter?_toParameter {r : Resolved} (hr : doc.Provides r)
    (hbody : r.parameter.inBody = false) :
    upgraded.parameter? r.toParameter = some (upgradeParameter r.parameter) := by
  rw [Resolved.toParameter]
  cases hname : r.globalName with
  | none => rfl
  | some name =>
    obtain ⟨hplain, hglobal⟩ := hr name hname
    exact parameter?_referenceTo hcomponents hplain hglobal hbody

theorem filterMap_toParameter {rs : List Resolved}
    (h : ∀ r ∈ rs, doc.Provides r ∧ r.parameter.inBody = false) :
    (rs.map Resolved.toParameter).filterMap upgraded.parameter? =
      (rs.map (·.parameter)).map upgradeParameter := by
  rw [List.filterMap_map, List.map_map, ← List.filterMap_eq_map]
  exact List.filterMap_congr fun r hr => parameter?_toParameter hcomponents (h r hr).1 (h r hr).2

end

/-! ## Parameters in effect -/

section
variable {doc : Document}

theorem parameters_assemble (shared own : List Resolved)
    (responses : List (String × RefOr Api.Response)) (operation : Operation) :
    (assemble doc shared own responses operation).parameters =
      ((mergeParameters shared own).filter (!·.parameter.inBody)).map Resolved.toParameter := by
  simp only [assemble, Parameter.inBody, Bool.not_or]

/-- What was referred to by name is the global parameter under it. -/
theorem global_of_mapM {parameters : List (RefOr Parameter)} {rs : List Resolved}
    (h : parameters.mapM doc.resolveParameter = .ok rs) :
    ∀ r ∈ rs, ∀ name, r.globalName = some name →
      .ref ("#/parameters/" ++ name) ∈ parameters ∧
        doc.parameters.get? name = some r.parameter := by
  intro r hr name hname
  obtain ⟨parameter, hparameter, hresolve⟩ := exists_of_mem_mapM h r hr
  cases parameter with
  | inline parameter =>
    rw [resolveParameter_inline_iff.1 hresolve] at hname
    cases hname
  | ref reference =>
    obtain ⟨name', parameter, rfl, hglobal, rfl⟩ := resolveParameter_ref_iff.1 hresolve
    cases hname
    exact ⟨hparameter, hglobal⟩

theorem provides_of_mapM {parameters : List (RefOr Parameter)} {rs : List Resolved}
    (hplain : ∀ name, .ref ("#/parameters/" ++ name) ∈ parameters → PlainName name)
    (h : parameters.mapM doc.resolveParameter = .ok rs) : ∀ r ∈ rs, doc.Provides r := by
  intro r hr name hname
  obtain ⟨hmem, hglobal⟩ := global_of_mapM h r hr name hname
  exact ⟨hplain name hmem, hglobal⟩

/-- Upgraded parameters with distinct places are all in effect. -/
theorem effectiveParameters_of_nodup (upgraded : Api.Document) {item : Api.PathItem}
    (hitem : item.parameters = []) {operation : Api.Operation} {parameters : List Parameter}
    (hparameters : operation.parameters.filterMap upgraded.parameter? =
      parameters.map upgradeParameter)
    (hnodup : (parameters.map (·.place)).Nodup) :
    effectiveParameters upgraded item operation = parameters.map upgradeParameter := by
  have hplaces : (parameters.map upgradeParameter).map (·.place) = parameters.map (·.place) := by
    rw [List.map_map]
    rfl
  rw [effectiveParameters_eq, hitem, hparameters, List.filterMap_nil,
    overrideAll_of_nodup Api.Parameter.overrides_iff (by rwa [List.nil_append, hplaces]),
    List.nil_append]

/-- **The parameters in effect for an upgraded operation are those in effect for its source,
    upgraded**, but for those in bodies; every parameter and every reference to one leads to a
    parameter, before and after. -/
theorem effectiveParameters_upgrade {upgraded : Api.Document}
    (hupgrade : doc.upgrade = .ok upgraded) (hplain : doc.PlainReferences) {path : String}
    {item : PathItem} (hitem : doc.pathItems.get? path = some item)
    (hnodup : ((item.parameters.filterMap doc.parameter?).map (·.place)).Nodup)
    {verb : Verb} {operation : Operation} (hoperation : item.at? verb = some operation) :
    ∃ item' operation', upgraded.pathItems.get? path = some item' ∧
      item'.at? verb = some operation' ∧
      effectiveParameters upgraded item' operation' =
        ((inEffect (item.parameters.filterMap doc.parameter?)
          (operation.parameters.filterMap doc.parameter?)).filter (!·.inBody)).map
            upgradeParameter ∧
      (∀ parameter ∈ item.parameters ++ operation.parameters,
        (doc.parameter? parameter).isSome) ∧
      ∀ parameter ∈ item'.parameters ++ operation'.parameters,
        (upgraded.parameter? parameter).isSome := by
  have hcomponents := components_of_upgrade hupgrade
  obtain ⟨item', shared, own, responses, hitem', hparameters, hoperation', hshared, hown, -⟩ :=
    at?_of_upgrade hupgrade hitem hoperation
  have hprovides : ∀ r ∈ mergeParameters shared own, doc.Provides r :=
    forall_mem_overrideAll
      (provides_of_mapM (fun name hmem => hplain name (.path hitem hmem)) hshared)
      (provides_of_mapM (fun name hmem => hplain name (.operation hitem hoperation hmem)) hown)
  have hkept : ∀ r ∈ (mergeParameters shared own).filter (!·.parameter.inBody),
      doc.Provides r ∧ r.parameter.inBody = false := by
    intro r hr
    obtain ⟨hmem, hbody⟩ := List.mem_filter.1 hr
    exact ⟨hprovides r hmem, by simpa using hbody⟩
  refine ⟨item', _, hitem', hoperation', ?_, ?_, ?_⟩
  · rw [filterMap_parameter?_of_mapM hshared] at hnodup ⊢
    rw [filterMap_parameter?_of_mapM hown]
    -- The upgraded path shares no parameters, so that merging once more changes nothing.
    refine effectiveParameters_of_nodup upgraded hparameters ?_ ?_
    · rw [parameters_assemble, filterMap_toParameter hcomponents hkept,
        kept_mergeParameters hnodup]
    · exact (nodup_inEffect hnodup _).sublist (List.filter_sublist.map _)
  · obtain ⟨hlists, -⟩ := exists_upgrade_iff.1 ⟨upgraded, hupgrade⟩
    intro parameter hparameter
    rcases List.mem_append.1 hparameter with hmem | hmem
    · exact hlists parameter (.path hitem hmem)
    · exact hlists parameter (.operation hitem hoperation hmem)
  · intro parameter hparameter
    rw [hparameters, List.nil_append, parameters_assemble, List.mem_map] at hparameter
    obtain ⟨r, hr, rfl⟩ := hparameter
    rw [parameter?_toParameter hcomponents (hkept r hr).1 (hkept r hr).2, Option.isSome_some]

end

/-- An operation that refers to a global parameter and overrides one of its path, beside a
    global body of the path and a form field. -/
def mixed : Document where
  paths := some (.ofList [("/pets", {
    get := some {
      parameters :=
        [.ref "#/parameters/limit", .inline note, .inline { page with required := true }] }
    parameters := [.inline page, .ref "#/parameters/pet"] })])
  parameters := .ofList [("limit", { name := "limit", location := "query" }),
    ("pet", { name := "pet", location := "body" })]
where
  page : Parameter := { name := "page", location := "query" }
  note : Parameter := { name := "note", location := "formData" }

theorem plainReferences_mixed : mixed.PlainReferences := by
  intro name hlists
  have hname : name = "limit" ∨ name = "pet" := by
    cases hlists with
    | path hitem hmem =>
      obtain ⟨rfl, rfl⟩ := Dict.get?_singleton_iff.1 hitem
      have hpet : "#/parameters/" ++ name = "#/parameters/pet" := by simpa using hmem
      exact .inr (String.append_right_inj _ |>.1 hpet)
    | @operation _ _ verb _ hitem hoperation hmem =>
      obtain ⟨rfl, rfl⟩ := Dict.get?_singleton_iff.1 hitem
      cases verb <;> cases hoperation
      have hlimit : "#/parameters/" ++ name = "#/parameters/limit" := by simpa using hmem
      exact .inl (String.append_right_inj _ |>.1 hlimit)
  rcases hname with rfl | rfl <;> decide

/-- The parameter of the path is overridden, the global one is found, and what is sent in the
    body is left out. -/
theorem effectiveParameters_of_mixed : ∃ upgraded item operation,
    mixed.upgrade = .ok upgraded ∧ upgraded.pathItems.get? "/pets" = some item ∧
      item.get = some operation ∧
      (effectiveParameters upgraded item operation).map (fun p => (p.name, p.required)) =
        [("page", true), ("limit", false)] := by
  have hok : mixed.upgrade.isOk := by decide +kernel
  obtain ⟨upgraded, hupgrade⟩ := isOk_iff.1 hok
  obtain ⟨item, operation, hitem, hoperation, heffective, -, -⟩ :=
    effectiveParameters_upgrade hupgrade plainReferences_mixed
      (Dict.get?_singleton_iff.2 ⟨rfl, rfl⟩) (by decide +kernel)
      (show PathItem.at? _ .get = some _ from rfl)
  refine ⟨upgraded, item, operation, hupgrade, hitem, hoperation, ?_⟩
  rw [heffective]
  decide +kernel

end ApiKinds.Swagger
