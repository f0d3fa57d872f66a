/-
  When a description can be upgraded, and what its upgraded form has at each of its places.

  * `global?`: what an object or a reference to a global one stands for; `Document.Lists`,
    `Document.Answers`: where parameters and responses occur.
  * `upgradeOperation_eq_ok_iff`, `upgradePathItem_eq_ok_iff`: an operation or a path is
    upgraded from its parts.
  * `get?_of_upgradeValues`: entries are upgraded one by one.
  * `components_of_upgrade`, `get?_of_upgrade`: what an upgraded description has for
    components and under each path.
  * `exists_upgrade_iff`: a description can be upgraded just if its references to global
    parameters and responses lead to some.
-/
import ApiKinds.Proofs.Dict
import ApiKinds.Proofs.Except
import ApiKinds.Proofs.Text
import ApiKinds.Proofs.Verb
import ApiKinds.Survey.Basic
import ApiKinds.Swagger.Upgrade

namespace ApiKinds.Swagger

open Api

variable {doc : Document}

/-! ## Global parameters -/

/-- What an object or a reference to a global one stands for. -/
def global? {α : Type} (start : String) (globals : Dict α) : RefOr α → Option α
  | .inline object => some object
  | .ref reference => (Text.dropPrefix? start reference).bind globals.get?

def Document.parameter? (doc : Document) : RefOr Parameter → Option Parameter :=
  global? "#/parameters/" doc.parameters

section
variable {r : Resolved}

theorem resolveParameter_inline_iff {parameter : Parameter} :
    doc.resolveParameter (.inline parameter) = .ok r ↔ r = ⟨none, parameter⟩ := by
  rw [Document.resolveParameter, Except.ok.injEq, eq_comm]

theorem resolveParameter_ref_iff {reference : String} :
    doc.resolveParameter (.ref reference) = .ok r ↔ ∃ name parameter,
      reference = "#/parameters/" ++ name ∧ doc.parameters.get? name = some parameter ∧
      r = ⟨some name, parameter⟩ := by
  simp only [Document.resolveParameter, ← Text.dropPrefix?_eq_some_iff]
  cases Text.dropPrefix? "#/parameters/" reference with
  | none => simp
  | some name =>
    cases hglobal : doc.parameters.get? name with
    | none => simp [hglobal]
    | some parameter => simp [hglobal, eq_comm]

theorem parameter?_of_resolve {parameter : RefOr Parameter}
    (h : doc.resolveParameter parameter = .ok r) : doc.parameter? parameter = some r.parameter := by
  cases parameter with
  | inline parameter =>
    rw [resolveParameter_inline_iff] at h
    rw [h, Document.parameter?, global?]
  | ref reference =>
    obtain ⟨name, parameter, rfl, hglobal, rfl⟩ := resolveParameter_ref_iff.1 h
    rw [Document.parameter?, global?, Text.dropPrefix?_append, Option.bind_some, hglobal]

end

theorem exists_resolveParameter_iff {parameter : RefOr Parameter} :
    (∃ r, doc.resolveParameter parameter = .ok r) ↔ (doc.parameter? parameter).isSome := by
  constructor
  · rintro ⟨r, hr⟩
    rw [parameter?_of_resolve hr, Option.isSome_some]
  · intro h
    cases parameter with
    | inline parameter => exact ⟨_, rfl⟩
    | ref reference =>
      obtain ⟨parameter, hparameter⟩ := Option.isSome_iff_exists.1 h
      obtain ⟨name, hname, hglobal⟩ := Option.bind_eq_some_iff.1 hparameter
      rw [Text.dropPrefix?_eq_some_iff] at hname
      exact ⟨_, resolveParameter_ref_iff.2 ⟨name, parameter, hname, hglobal, rfl⟩⟩

theorem filterMap_parameter?_of_mapM {parameters : List (RefOr Parameter)} {rs : List Resolved}
    (h : parameters.mapM doc.resolveParameter = .ok rs) :
    parameters.filterMap doc.parameter? = rs.map (·.parameter) := by
  rw [mapM_eq_ok_iff] at h
  induction h with
  | nil => rfl
  | cons hr _ ih =>
    rw [List.filterMap_cons_some (parameter?_of_resolve hr), ih, List.map_cons]

/-! ## Global responses -/

def Document.response? (doc : Document) : RefOr Response → Option Response :=
  global? "#/responses/" doc.responses

theorem upgradeResponseRef_ref_iff {produces : List String} {reference : String}
    {upgraded : RefOr Api.Response} :
    doc.upgradeResponseRef produces (.ref reference) = .ok upgraded ↔ ∃ name response,
      reference = "#/responses/" ++ name ∧ doc.responses.get? name = some response ∧
      upgraded = .ref ("#/components/responses/" ++ name) := by
  simp only [Document.upgradeResponseRef, ← Text.dropPrefix?_eq_some_iff]
  cases Text.dropPrefix? "#/responses/" reference with
  | none => simp
  | some name =>
    cases hglobal : doc.responses.get? name with
    | none => simp [Dict.contains, hglobal]
    | some response => simp [Dict.contains, hglobal, eq_comm]

theorem exists_upgradeResponseRef_iff {produces : List String} {response : RefOr Response} :
    (∃ upgraded, doc.upgradeResponseRef produces response = .ok upgraded) ↔
      (doc.response? response).isSome := by
  cases response with
  | inline response => simp [Document.upgradeResponseRef, Document.response?, global?]
  | ref reference =>
    simp only [upgradeResponseRef_ref_iff, Document.response?, global?, Option.isSome_iff_exists,
      Option.bind_eq_some_iff, Text.dropPrefix?_eq_some_iff]
    constructor
    · rintro ⟨_, name, response, hname, hglobal, -⟩
      exact ⟨response, name, hname, hglobal⟩
    · rintro ⟨response, name, hname, hglobal⟩
      exact ⟨_, name, response, hname, hglobal, rfl⟩

/-! ## Entries -/

section
variable {α β ε : Type} {upgrade : String → α → Except ε β}

theorem upgradeValues_eq_ok_iff {entries : List (String × α)} {values : List (String × β)} :
    upgradeValues upgrade entries = .ok values ↔
      List.Forall₂ (fun a b => a.1 = b.1 ∧ upgrade a.1 a.2 = .ok b.2) entries values := by
  induction entries generalizing values with
  | nil => simp [upgradeValues, eq_comm]
  | cons entry rest ih =>
    obtain ⟨key, value⟩ := entry
    simp only [upgradeValues, bind_eq_ok_iff, ih, List.forall₂_cons_left_iff, Except.ok.injEq]
    constructor
    · rintro ⟨b, hb, bs, hbs, rfl⟩
      exact ⟨(key, b), bs, ⟨rfl, hb⟩, hbs, rfl⟩
    · rintro ⟨⟨_, b⟩, bs, ⟨rfl, hb⟩, hbs, rfl⟩
      exact ⟨b, hb, bs, hbs, rfl⟩

/-- An upgraded map has the upgraded values under the same keys. -/
theorem get?_of_upgradeValues {d : Dict α} {values : List (String × β)}
    (h : upgradeValues upgrade d.entries = .ok values) (key : String) :
    Option.Rel (fun a b => upgrade key a = .ok b) (d.get? key) ((Dict.ofList values).get? key) := by
  have hentries := upgradeValues_eq_ok_iff.1 h
  have hsorted : Entries.Sorted values :=
    Entries.sorted_of_forall₂ hentries (fun _ _ hab => hab.1) d.sorted
  have hvalues : (Dict.ofList values).entries = values := Entries.ofList_eq_self hsorted
  rw [Dict.get?, Dict.get?, hvalues]
  exact Entries.get?_rel (R := fun key a b => upgrade key a = .ok b) hentries key

theorem exists_upgradeValues_iff {d : Dict α} :
    (∃ values, upgradeValues upgrade d.entries = .ok values) ↔
      ∀ key a, d.get? key = some a → ∃ b, upgrade key a = .ok b := by
  have hentries : ∀ entries : List (String × α),
      (∃ values, upgradeValues upgrade entries = .ok values) ↔
        ∀ entry ∈ entries, ∃ b, upgrade entry.1 entry.2 = .ok b := by
    intro entries
    induction entries with
    | nil => simp [upgradeValues]
    | cons entry rest ih =>
      obtain ⟨key, value⟩ := entry
      rw [List.forall_mem_cons, ← ih]
      simp only [upgradeValues, bind_eq_ok_iff]
      constructor
      · rintro ⟨_, b, hb, bs, hbs, -⟩
        exact ⟨⟨b, hb⟩, bs, hbs⟩
      · rintro ⟨⟨b, hb⟩, bs, hbs⟩
        exact ⟨_, b, hb, bs, hbs, rfl⟩
  simp only [hentries, Dict.get?_eq_some_iff, Prod.forall]

end

/-! ## Operations -/

/-- An operation put together from its parameters, those of its path, and its responses. -/
def assemble (doc : Document) (shared own : List Resolved)
    (responses : List (String × RefOr Api.Response)) (operation : Operation) : Api.Operation where
  operationId := operation.operationId
  summary := operation.summary
  description := operation.description
  tags := operation.tags
  parameters := ((mergeParameters shared own).filter fun r =>
    !r.parameter.isBody && !r.parameter.isFormData).map Resolved.toParameter
  requestBody := requestBodyOf (mergeParameters shared own)
    (mediaTypes operation.consumes doc.consumes)
  responses := .ofList responses

theorem upgradeOperation_eq_ok_iff {shared : List Resolved} {operation : Operation}
    {upgraded : Api.Operation} : doc.upgradeOperation shared operation = .ok upgraded ↔
      ∃ own responses, operation.parameters.mapM doc.resolveParameter = .ok own ∧
        upgradeValues (fun _ => doc.upgradeResponseRef (mediaTypes operation.produces doc.produces))
          operation.responses.entries = .ok responses ∧
        assemble doc shared own responses operation = upgraded := by
  simp only [Document.upgradeOperation, bind_eq_ok_iff, Except.ok.injEq, assemble]
  constructor
  · rintro ⟨own, hown, responses, hresponses, rfl⟩
    exact ⟨own, responses, hown, hresponses, rfl⟩
  · rintro ⟨own, responses, hown, hresponses, rfl⟩
    exact ⟨own, hown, responses, hresponses, rfl⟩

theorem exists_upgradeOperation_iff {shared : List Resolved} {operation : Operation} :
    (∃ upgraded, doc.upgradeOperation shared operation = .ok upgraded) ↔
      (∀ parameter ∈ operation.parameters, (doc.parameter? parameter).isSome) ∧
      ∀ code response, operation.responses.get? code = some response →
        (doc.response? response).isSome := by
  have hvalues : (∃ responses, upgradeValues
      (fun _ => doc.upgradeResponseRef (mediaTypes operation.produces doc.produces))
        operation.responses.entries = .ok responses) ↔
      ∀ code response, operation.responses.get? code = some response →
        (doc.response? response).isSome := by
    simp only [exists_upgradeValues_iff, exists_upgradeResponseRef_iff]
  simp only [upgradeOperation_eq_ok_iff, ← exists_resolveParameter_iff, ← exists_mapM_iff,
    ← hvalues]
  constructor
  · rintro ⟨_, own, responses, hown, hresponses, -⟩
    exact ⟨⟨own, hown⟩, responses, hresponses⟩
  · rintro ⟨⟨own, hown⟩, responses, hresponses⟩
    exact ⟨_, own, responses, hown, hresponses, rfl⟩

theorem upgradeMethod_eq_ok_iff {shared : List Resolved} {operation : Option Operation}
    {upgraded : Option Api.Operation} : doc.upgradeMethod shared operation = .ok upgraded ↔
      Option.Rel (fun a b => doc.upgradeOperation shared a = .ok b) operation upgraded := by
  cases operation with
  | none => cases upgraded <;> simp [Document.upgradeMethod]
  | some operation =>
    rw [Document.upgradeMethod, map_eq_ok_iff]
    cases upgraded <;> simp

/-! ## Paths -/

theorem upgradePathItem_eq_ok_iff {item : PathItem} {upgraded : Api.PathItem} :
    doc.upgradePathItem item = .ok upgraded ↔
      ∃ shared, item.parameters.mapM doc.resolveParameter = .ok shared ∧
        (∀ verb, Option.Rel (fun a b => doc.upgradeOperation shared a = .ok b)
          (item.at? verb) (upgraded.at? verb)) ∧
        upgraded.parameters = [] := by
  simp only [Document.upgradePathItem, bind_eq_ok_iff, Except.ok.injEq, ← upgradeMethod_eq_ok_iff]
  constructor
  · rintro ⟨shared, hshared, get, hget, put, hput, post, hpost, delete, hdelete, patch, hpatch,
      head, hhead, options, hoptions, rfl⟩
    refine ⟨shared, hshared, fun verb => ?_, rfl⟩
    cases verb <;> assumption
  · rintro ⟨shared, hshared, hat, hparameters⟩
    refine ⟨shared, hshared, _, hat .get, _, hat .put, _, hat .post, _, hat .delete, _, hat .patch,
      _, hat .head, _, hat .options, ?_⟩
    cases upgraded
    cases hparameters
    rfl

theorem exists_upgradePathItem_iff {item : PathItem} :
    (∃ upgraded, doc.upgradePathItem item = .ok upgraded) ↔
      (∀ parameter ∈ item.parameters, (doc.parameter? parameter).isSome) ∧
      ∀ verb operation, item.at? verb = some operation →
        (∀ parameter ∈ operation.parameters, (doc.parameter? parameter).isSome) ∧
        ∀ code response, operation.responses.get? code = some response →
          (doc.response? response).isSome := by
  constructor
  · rintro ⟨upgraded, hupgraded⟩
    obtain ⟨shared, hshared, hat, -⟩ := upgradePathItem_eq_ok_iff.1 hupgraded
    constructor
    · intro parameter hmem
      exact exists_resolveParameter_iff.1 (exists_mapM_iff.1 ⟨shared, hshared⟩ parameter hmem)
    · intro verb operation hoperation
      obtain ⟨upgraded', -, hupgraded'⟩ := exists_of_rel (hat verb) hoperation
      exact exists_upgradeOperation_iff.1 ⟨upgraded', hupgraded'⟩
  · rintro ⟨hparameters, hoperations⟩
    obtain ⟨shared, hshared⟩ := exists_mapM_iff.2 fun parameter hmem =>
      exists_resolveParameter_iff.2 (hparameters parameter hmem)
    have hat : ∀ verb, ∃ upgraded, Option.Rel (fun a b => doc.upgradeOperation shared a = .ok b)
        (item.at? verb) upgraded := by
      intro verb
      cases hoperation : item.at? verb with
      | none => exact ⟨none, .none⟩
      | some operation =>
        obtain ⟨upgraded, hupgraded⟩ :=
          exists_upgradeOperation_iff.2 (hoperations verb operation hoperation)
        exact ⟨some upgraded, .some hupgraded⟩
    -- Each verb is upgraded by itself, so a result for each of them makes a path.
    choose operation? hoperation? using hat
    refine ⟨.ofVerbs operation?, upgradePathItem_eq_ok_iff.2 ⟨shared, hshared, fun verb => ?_, rfl⟩⟩
    rw [Api.PathItem.at?_ofVerbs]
    exact hoperation? verb

/-! ## Documents -/

/-- The paths of a description, of which there may be none. -/
def Document.pathItems (doc : Document) : Dict PathItem :=
  doc.paths.getD .empty

theorem upgradePath_eq_ok_iff {path : String} {item : PathItem} {upgraded : Api.PathItem} :
    doc.upgradePath path item = .ok upgraded ↔ doc.upgradePathItem item = .ok upgraded := by
  rw [Document.upgradePath, mapError_eq_ok_iff]

theorem upgrade_eq_ok_iff {upgraded : Api.Document} : doc.upgrade = .ok upgraded ↔
    ∃ paths, (match doc.paths with
      | none => paths = none
      | some items => ∃ values, upgradeValues doc.upgradePath items.entries = .ok values ∧
          paths = some (Dict.ofList values)) ∧
      upgraded = {
        openapi := some "3.0.3"
        info := doc.info
        servers := doc.servers
        paths := paths
        components := some doc.components } := by
  rw [Document.upgrade]
  cases doc.paths with
  | none =>
    simp only [bind_eq_ok_iff, Except.ok.injEq, exists_eq_left', exists_eq_left]
    exact eq_comm
  | some items =>
    simp only [bind_eq_ok_iff, map_eq_ok_iff, Function.comp_apply, Except.ok.injEq]
    constructor
    · rintro ⟨_, ⟨values, hvalues, rfl⟩, rfl⟩
      exact ⟨_, ⟨values, hvalues, rfl⟩, rfl⟩
    · rintro ⟨_, ⟨values, hvalues, rfl⟩, rfl⟩
      exact ⟨_, ⟨values, hvalues, rfl⟩, rfl⟩

/-- The components of an upgraded description are those of its source. -/
theorem components_of_upgrade {upgraded : Api.Document} (h : doc.upgrade = .ok upgraded) :
    upgraded.components = some doc.components := by
  obtain ⟨paths, -, rfl⟩ := upgrade_eq_ok_iff.1 h
  rfl

/-- Each path of an upgraded description is the upgraded path of its source. -/
theorem get?_of_upgrade {upgraded : Api.Document} (h : doc.upgrade = .ok upgraded)
    (path : String) : Option.Rel (fun item b => doc.upgradePathItem item = .ok b)
      (doc.pathItems.get? path) (upgraded.pathItems.get? path) := by
  obtain ⟨paths, hpaths, rfl⟩ := upgrade_eq_ok_iff.1 h
  rw [Document.pathItems, Api.Document.pathItems]
  cases hdoc : doc.paths with
  | none =>
    rw [hdoc] at hpaths
    subst hpaths
    exact .none
  | some items =>
    rw [hdoc] at hpaths
    obtain ⟨values, hvalues, rfl⟩ := hpaths
    simpa only [upgradePath_eq_ok_iff, Option.getD_some] using get?_of_upgradeValues hvalues path

/-- Each operation of an upgraded description is put together from the parts of its source. -/
theorem at?_of_upgrade {upgraded : Api.Document} (h : doc.upgrade = .ok upgraded) {path : String}
    {item : PathItem} (hitem : doc.pathItems.get? path = some item) {verb : Verb}
    {operation : Operation} (hoperation : item.at? verb = some operation) :
    ∃ item' shared own responses, upgraded.pathItems.get? path = some item' ∧
      item'.parameters = [] ∧
      item'.at? verb = some (assemble doc shared own responses operation) ∧
      item.parameters.mapM doc.resolveParameter = .ok shared ∧
      operation.parameters.mapM doc.resolveParameter = .ok own ∧
      upgradeValues (fun _ => doc.upgradeResponseRef (mediaTypes operation.produces doc.produces))
        operation.responses.entries = .ok responses := by
  obtain ⟨item', hitem', hpath⟩ := exists_of_rel (get?_of_upgrade h path) hitem
  obtain ⟨shared, hshared, hat, hparameters⟩ := upgradePathItem_eq_ok_iff.1 hpath
  obtain ⟨operation', hoperation', hupgraded⟩ := exists_of_rel (hat verb) hoperation
  obtain ⟨own, responses, hown, hresponses, rfl⟩ := upgradeOperation_eq_ok_iff.1 hupgraded
  exact ⟨item', shared, own, responses, hitem', hparameters, hoperation', hshared, hown, hresponses⟩

/-- A description can be upgraded just if each of its paths can be. -/
theorem exists_upgrade_iff_forall_path : (∃ upgraded, doc.upgrade = .ok upgraded) ↔
    ∀ path item, doc.pathItems.get? path = some item →
      ∃ upgraded, doc.upgradePathItem item = .ok upgraded := by
  simp only [upgrade_eq_ok_iff, Document.pathItems]
  cases doc.paths with
  | none => simp
  | some items =>
    have hvalues : (∃ values, upgradeValues doc.upgradePath items.entries = .ok values) ↔
        ∀ path item, items.get? path = some item →
          ∃ upgraded, doc.upgradePathItem item = .ok upgraded := by
      simp only [exists_upgradeValues_iff, upgradePath_eq_ok_iff]
    rw [Option.getD_some, ← hvalues]
    constructor
    · rintro ⟨_, _, ⟨values, hvalues, -⟩, -⟩
      exact ⟨values, hvalues⟩
    · rintro ⟨values, hvalues⟩
      exact ⟨_, _, ⟨values, hvalues, rfl⟩, rfl⟩

/-! ## References of a document -/

/-- A path or an operation lists a parameter or a reference to one. -/
inductive Document.Lists (doc : Document) (parameter : RefOr Parameter) : Prop
  | path {path item} : doc.pathItems.get? path = some item → parameter ∈ item.parameters →
      doc.Lists parameter
  | operation {path item verb operation} : doc.pathItems.get? path = some item →
      item.at? verb = some operation → parameter ∈ operation.parameters → doc.Lists parameter

/-- An operation answers with a response or a reference to one. -/
inductive Document.Answers (doc : Document) (response : RefOr Response) : Prop
  | operation {path item verb operation code} : doc.pathItems.get? path = some item →
      item.at? verb = some operation → operation.responses.get? code = some response →
      doc.Answers response

/-- **A description can be upgraded just if its references to global parameters and responses
    lead to some.** -/
theorem exists_upgrade_iff : (∃ upgraded, doc.upgrade = .ok upgraded) ↔
    (∀ parameter, doc.Lists parameter → (doc.parameter? parameter).isSome) ∧
    ∀ response, doc.Answers response → (doc.response? response).isSome := by
  simp only [exists_upgrade_iff_forall_path, exists_upgradePathItem_iff]
  constructor
  · intro h
    constructor
    · rintro parameter (⟨hitem, hmem⟩ | ⟨hitem, hoperation, hmem⟩)
      · exact (h _ _ hitem).1 parameter hmem
      · exact ((h _ _ hitem).2 _ _ hoperation).1 parameter hmem
    · rintro response ⟨hitem, hoperation, hresponse⟩
      exact ((h _ _ hitem).2 _ _ hoperation).2 _ response hresponse
  · rintro ⟨hlists, hanswers⟩ path item hitem
    refine ⟨fun parameter hmem => hlists _ (.path hitem hmem), fun verb operation hoperation => ?_⟩
    exact ⟨fun parameter hmem => hlists _ (.operation hitem hoperation hmem),
      fun code response hresponse => hanswers _ (.operation hitem hoperation hresponse)⟩

end ApiKinds.Swagger
