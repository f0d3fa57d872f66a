/-
  Copies of global parameters and responses in place of references to them.

  * `Document.Inlined`: a description with some of its references replaced by copies.
  * `Api.Document.signature?`: what an operation takes and gives, references resolved.
  * `contentOf_mediaTypes_iff`: when a body reads the same in the media types of an operation
    and in those of its document.
  * `signature_of_inlined`: copies change nothing but the media types of bodies and responses,
    which a reference takes from the document and a copy from the operation.
  * `bodyTypes_of_copying`: so a copy of a global body may change the request body.
-/
import ApiKinds.Proofs.Swagger.Parameters

namespace ApiKinds

/-! ## Signatures -/

namespace Api

/-- What an operation takes and gives. -/
structure Signature where
  parameters : List Parameter
  body : Option RequestBody
  /-- The responses by status code. -/
  response? : String → Option Response

namespace Document

variable {doc : Document}

/-- What an operation takes and gives, with all references resolved. -/
def signature (doc : Document) (item : PathItem) (operation : Operation) : Signature where
  parameters := effectiveParameters doc item operation
  body := operation.requestBody.bind doc.requestBody?
  response? code := (operation.responses.get? code).bind doc.response?

/-- The signature of the operation at a path, if there is one. -/
def signature? (doc : Document) (path : String) (verb : Verb) : Option Signature := do
  let item ← doc.pathItems.get? path
  let operation ← item.at? verb
  some (doc.signature item operation)

theorem signature?_eq {path : String} {item : PathItem}
    (hitem : doc.pathItems.get? path = some item) {verb : Verb} {operation : Operation}
    (hoperation : item.at? verb = some operation) :
    doc.signature? path verb = some (doc.signature item operation) := by
  simp [signature?, hitem, hoperation]

end Document

end Api

namespace Swagger

open Api

/-! ## Copies -/

/-- The same, or a copy of a global object in place of a reference to it. -/
inductive Copied {α : Type} (start : String) (globals : Dict α) : RefOr α → RefOr α → Prop
  | same {object} : Copied start globals object object
  | copy {name object} : PlainName name → globals.get? name = some object →
      Copied start globals (.ref (start ++ name)) (.inline object)

namespace Document

variable (doc : Document)

def CopiedParameter : RefOr Parameter → RefOr Parameter → Prop :=
  Copied "#/parameters/" doc.parameters

def CopiedResponse : RefOr Response → RefOr Response → Prop :=
  Copied "#/responses/" doc.responses

structure CopiedOperation (operation copy : Operation) : Prop where
  parameters : List.Forall₂ doc.CopiedParameter operation.parameters copy.parameters
  responses : ∀ code, Option.Rel doc.CopiedResponse (operation.responses.get? code)
    (copy.responses.get? code)
  rest : copy = { operation with parameters := copy.parameters, responses := copy.responses }

structure CopiedPath (item copy : PathItem) : Prop where
  parameters : List.Forall₂ doc.CopiedParameter item.parameters copy.parameters
  operations : ∀ verb, Option.Rel doc.CopiedOperation (item.at? verb) (copy.at? verb)

/-- The description with copies in place of some references. -/
structure Inlined (copy : Document) : Prop where
  paths : ∀ path, Option.Rel doc.CopiedPath (doc.pathItems.get? path) (copy.pathItems.get? path)
  rest : copy = { doc with paths := copy.paths }

end Document

/-! ## Body parameters -/

/-- The body parameter that an operation ends up with; a path and its operation may list many. -/
def lastBody (merged : List Resolved) : Option Resolved :=
  (merged.filter (·.parameter.isBody)).getLast?

theorem requestBodyOf_of_some {merged : List Resolved} {body : Resolved}
    (h : lastBody merged = some body) (consumes : List String) :
    requestBodyOf merged consumes = some (body.toBody consumes) := by
  rw [lastBody] at h
  rw [requestBodyOf, h]

theorem requestBodyOf_of_none {merged merged' : List Resolved} (h : lastBody merged = none)
    (h' : lastBody merged' = none)
    (hparameters : merged.map (·.parameter) = merged'.map (·.parameter)) (consumes : List String) :
    requestBodyOf merged consumes = requestBodyOf merged' consumes := by
  rw [lastBody] at h h'
  rw [requestBodyOf, requestBodyOf, h, h', hparameters]

theorem isBody_of_lastBody {merged : List Resolved} {body : Resolved}
    (h : lastBody merged = some body) : body.parameter.isBody :=
  (List.mem_filter.1 (List.mem_of_getLast? h)).2

namespace Document

/-- A parameter behind its reference, if it leads to one. -/
def resolved? (doc : Document) (parameter : RefOr Parameter) : Option Resolved :=
  (doc.resolveParameter parameter).toOption

/-- The body parameter of an operation, which may be that of its path. -/
def bodyParameter? (doc : Document) (item : PathItem) (operation : Operation) : Option Resolved :=
  lastBody (mergeParameters (item.parameters.filterMap doc.resolved?)
    (operation.parameters.filterMap doc.resolved?))

theorem bodyParameter?_eq (doc : Document) {item : PathItem} {operation : Operation}
    {shared own : List Resolved} (hshared : item.parameters.mapM doc.resolveParameter = .ok shared)
    (hown : operation.parameters.mapM doc.resolveParameter = .ok own) :
    doc.bodyParameter? item operation = lastBody (mergeParameters shared own) := by
  have hresolved : ∀ {parameters : List (RefOr Parameter)} {rs : List Resolved},
      parameters.mapM doc.resolveParameter = .ok rs → parameters.filterMap doc.resolved? = rs :=
    fun h => filterMap_toOption_of_mapM h
  rw [bodyParameter?, hresolved hshared, hresolved hown]

end Document

/-! ## Media types -/

/-- The media types of an operation are those of its document, perhaps in another order. -/
def SameTypes (own : Option (List String)) (document : List String) : Prop :=
  ∀ type, type ∈ mediaTypes own document ↔ type ∈ mediaTypes none document

theorem mediaTypes_ne_nil (own : Option (List String)) (document : List String) :
    mediaTypes own document ≠ [] := by
  simp only [mediaTypes, Bool.not_eq_true', List.isEmpty_eq_false_iff]
  split
  · assumption
  · split
    · assumption
    · simp

theorem mediaTypes_some_nil {types : List String} (h : types ≠ []) :
    mediaTypes (some types) [] = types := by
  rw [mediaTypes, Option.getD_some, if_pos (by simpa using h)]

theorem mediaTypes_none (document : List String) :
    mediaTypes none document = mediaTypes (some document) [] := by
  cases document with
  | nil => rfl
  | cons type rest => rfl

theorem get?_contentOf (schema : RefOr Schema) (types : List String) (type : String) :
    (contentOf (some schema) types).get? type = if type ∈ mediaTypes (some types) [] then
      some { schema := some (upgradeSchemaRef schema) } else none :=
  Dict.get?_ofList_const ..

/-- A content without a schema is the same in all media types. -/
theorem contentOf_eq_iff {schema : Option (RefOr Schema)} {a b : List String} :
    contentOf schema a = contentOf schema b ↔ (schema.isSome →
      ∀ type, type ∈ mediaTypes (some a) [] ↔ type ∈ mediaTypes (some b) []) := by
  cases schema with
  | none => simp [contentOf]
  | some schema =>
    simp only [Option.isSome_some, forall_const]
    constructor
    · intro h type
      have hget := congrArg (Dict.get? · type) h
      simp only [get?_contentOf] at hget
      by_cases ha : type ∈ mediaTypes (some a) []
      · simpa [ha] using hget
      · simpa [ha] using hget
    · intro h
      refine Dict.ext_get? fun type => ?_
      simp only [get?_contentOf, h type]

theorem contentOf_mediaTypes_iff {schema : Option (RefOr Schema)} {own : Option (List String)}
    {document : List String} :
    contentOf schema document = contentOf schema (mediaTypes own document) ↔
      (schema.isSome → SameTypes own document) := by
  rw [contentOf_eq_iff, mediaTypes_some_nil (mediaTypes_ne_nil own document), ← mediaTypes_none]
  simp only [SameTypes, iff_comm]

theorem bodyOf_eq_iff {body : Parameter} {a b : List String} :
    bodyOf body a = bodyOf body b ↔ contentOf body.schema a = contentOf body.schema b := by
  simp [bodyOf]

theorem upgradeResponse_eq_iff {response : Response} {a b : List String} :
    upgradeResponse response a = upgradeResponse response b ↔
      contentOf response.schema a = contentOf response.schema b := by
  simp [upgradeResponse]

/-! ## Global bodies and responses -/

section
variable {doc : Document} {upgraded : Api.Document}
  (hcomponents : upgraded.components = some doc.components)
include hcomponents

theorem requestBody?_escaped {name : String} (hname : name ≠ "") {body : Parameter}
    (hglobal : doc.parameters.get? name = some body) (hbody : body.isBody) :
    upgraded.requestBody? (.ref (referenceTo .requestBodies (escaped name))) =
      some (bodyOf body doc.consumes) := by
  have hentry : doc.components.requestBodies.get? name =
      some (.inline (bodyOf body doc.consumes)) :=
    Dict.get?_filterMap_eq_some_iff.2 ⟨body, hglobal, if_pos hbody⟩
  rw [← Api.Document.resolve?_requestBodies]
  refine resolve?_escaped hname ?_
  rwa [upgraded.entries_eq .requestBodies hcomponents]

theorem requestBody?_referenceTo {name : String} (hname : PlainName name) {body : Parameter}
    (hglobal : doc.parameters.get? name = some body) (hbody : body.isBody) :
    upgraded.requestBody? (.ref (referenceTo .requestBodies name)) =
      some (bodyOf body doc.consumes) := by
  rw [← escaped_of_plain hname]
  exact requestBody?_escaped hcomponents hname.ne_empty hglobal hbody

theorem response?_escaped {name : String} (hname : name ≠ "") {response : Response}
    (hglobal : doc.responses.get? name = some response) :
    upgraded.response? (.ref (referenceTo .responses (escaped name))) =
      some (upgradeResponse response doc.produces) := by
  have hentry : doc.components.responses.get? name =
      some (.inline (upgradeResponse response doc.produces)) := by
    rw [Document.components, Dict.get?_map, hglobal, Option.map_some]
  rw [← Api.Document.resolve?_responses]
  refine resolve?_escaped hname ?_
  rwa [upgraded.entries_eq .responses hcomponents]

theorem response?_referenceTo {name : String} (hname : PlainName name) {response : Response}
    (hglobal : doc.responses.get? name = some response) :
    upgraded.response? (.ref (referenceTo .responses name)) =
      some (upgradeResponse response doc.produces) := by
  rw [← escaped_of_plain hname]
  exact response?_escaped hcomponents hname.ne_empty hglobal

end

/-! ## Copied parameters -/

/-- The same parameter, or one that was referred to and is now a copy. -/
inductive Document.CopiedResolved (doc : Document) : Resolved → Resolved → Prop
  | same {r} : doc.CopiedResolved r r
  | copy {name parameter} : PlainName name → doc.parameters.get? name = some parameter →
      doc.CopiedResolved ⟨some name, parameter⟩ ⟨none, parameter⟩

section
variable {doc copy : Document}

theorem Document.CopiedResolved.parameter_eq {r r' : Resolved} (h : doc.CopiedResolved r r') :
    r.parameter = r'.parameter := by
  cases h with
  | same => rfl
  | copy => rfl

theorem lastBody_copied {merged merged' : List Resolved}
    (h : List.Forall₂ doc.CopiedResolved merged merged') :
    Option.Rel doc.CopiedResolved (lastBody merged) (lastBody merged') :=
  rel_getLast? (List.rel_filter (fun r r' hr => by simp only [hr.parameter_eq]) h)

theorem map_parameter_copied {merged merged' : List Resolved}
    (h : List.Forall₂ doc.CopiedResolved merged merged') :
    merged.map (·.parameter) = merged'.map (·.parameter) := by
  rw [← List.filterMap_eq_map]
  exact filterMap_eq_of_forall₂ h fun r r' hr => by simp only [Function.comp_apply, hr.parameter_eq]

theorem copiedResolved_of_resolve (hglobals : copy.parameters = doc.parameters)
    {parameter parameter' : RefOr Parameter} (hcopied : doc.CopiedParameter parameter parameter')
    {r r' : Resolved} (hr : doc.resolveParameter parameter = .ok r)
    (hr' : copy.resolveParameter parameter' = .ok r') : doc.CopiedResolved r r' := by
  cases hcopied with
  | same =>
    have hsame : copy.resolveParameter parameter = doc.resolveParameter parameter := by
      cases parameter with
      | inline => rfl
      | ref => rw [Document.resolveParameter, Document.resolveParameter, hglobals]
    rw [hsame, hr] at hr'
    cases hr'
    exact .same
  | copy hname hglobal =>
    obtain ⟨name, parameter, hreference, hglobal', rfl⟩ := resolveParameter_ref_iff.1 hr
    obtain rfl := (String.append_right_inj _).1 hreference
    rw [hglobal] at hglobal'
    cases hglobal'
    rw [resolveParameter_inline_iff.1 hr']
    exact .copy hname hglobal

theorem copiedResolved_of_mapM (hglobals : copy.parameters = doc.parameters)
    {parameters parameters' : List (RefOr Parameter)}
    (hcopied : List.Forall₂ doc.CopiedParameter parameters parameters') {rs rs' : List Resolved}
    (hrs : parameters.mapM doc.resolveParameter = .ok rs)
    (hrs' : parameters'.mapM copy.resolveParameter = .ok rs') :
    List.Forall₂ doc.CopiedResolved rs rs' := by
  rw [mapM_eq_ok_iff] at hrs hrs'
  induction hcopied generalizing rs rs' with
  | nil =>
    cases hrs
    cases hrs'
    exact .nil
  | cons hparameter _ ih =>
    obtain _ | ⟨hr, hrest⟩ := hrs
    obtain _ | ⟨hr', hrest'⟩ := hrs'
    exact .cons (copiedResolved_of_resolve hglobals hparameter hr hr') (ih hrest hrest')

theorem copiedResolved_merge {shared shared' own own' : List Resolved}
    (hshared : List.Forall₂ doc.CopiedResolved shared shared')
    (hown : List.Forall₂ doc.CopiedResolved own own') :
    List.Forall₂ doc.CopiedResolved (mergeParameters shared own)
      (mergeParameters shared' own') := by
  refine rel_overrideAll (fun a b c d hab hcd => ?_) hshared hown
  rw [Resolved.overrides, Resolved.overrides, hab.parameter_eq, hcd.parameter_eq]

end

/-! ## Upgraded copies -/

section
variable {doc copy : Document} {upgraded upgraded' : Api.Document}
  (hcomponents : upgraded.components = some doc.components)
  (hcomponents' : upgraded'.components = some doc.components)
include hcomponents hcomponents'

theorem parameters_of_copied {merged merged' : List Resolved}
    (h : List.Forall₂ doc.CopiedResolved merged merged') :
    ((merged.filter (!·.parameter.inBody)).map Resolved.toParameter).filterMap
        upgraded.parameter? =
      ((merged'.filter (!·.parameter.inBody)).map Resolved.toParameter).filterMap
        upgraded'.parameter? := by
  have hsame : upgraded.parameter? = upgraded'.parameter? :=
    Api.Document.resolve?_congr .parameters (hcomponents.trans hcomponents'.symm)
  have hfiltered : List.Forall₂ doc.CopiedResolved (merged.filter (!·.parameter.inBody))
      (merged'.filter (!·.parameter.inBody)) :=
    List.rel_filter (fun r r' hr => by simp only [hr.parameter_eq]) h
  have hkept : List.Forall₂ (fun r r' => r.parameter.inBody = false ∧ doc.CopiedResolved r r')
      (merged.filter (!·.parameter.inBody)) (merged'.filter (!·.parameter.inBody)) :=
    (List.forall₂_and_left _ _).2 ⟨fun r hr => by simpa using (List.mem_filter.1 hr).2, hfiltered⟩
  rw [List.filterMap_map, List.filterMap_map]
  refine filterMap_eq_of_forall₂ hkept ?_
  rintro r r' ⟨hbody, hr⟩
  cases hr with
  | same => rw [Function.comp_apply, Function.comp_apply, hsame]
  | copy hname hglobal => exact parameter?_referenceTo hcomponents hname hglobal hbody

/-- A copied body is the same just if the media types of its operation are. -/
theorem requestBody_of_copied {merged merged' : List Resolved}
    (h : List.Forall₂ doc.CopiedResolved merged merged') (own : Option (List String)) :
    (requestBodyOf merged (mediaTypes own doc.consumes)).bind upgraded.requestBody? =
        (requestBodyOf merged' (mediaTypes own doc.consumes)).bind upgraded'.requestBody? ↔
      ∀ name body, lastBody merged = some ⟨some name, body⟩ →
        lastBody merged' = some ⟨none, body⟩ → body.schema.isSome → SameTypes own doc.consumes := by
  have hsame : upgraded.requestBody? = upgraded'.requestBody? :=
    Api.Document.resolve?_congr .requestBodies (hcomponents.trans hcomponents'.symm)
  have hlast := lastBody_copied h
  generalize hbody : lastBody merged = body, hbody' : lastBody merged' = body' at hlast ⊢
  cases hlast with
  | none =>
    rw [requestBodyOf_of_none hbody hbody' (map_parameter_copied h), hsame]
    simp
  | @some r _ hr =>
    rw [requestBodyOf_of_some hbody, requestBodyOf_of_some hbody', Option.bind_some,
      Option.bind_some]
    cases hr with
    | same =>
      rw [hsame]
      refine iff_of_true rfl fun name body hname hname' => ?_
      rw [hname] at hname'
      cases hname'
    | @copy name parameter hname hglobal =>
      -- The component has the media types of the document, the copy those of the operation.
      have hbodies : upgraded.requestBody?
            (Resolved.toBody (mediaTypes own doc.consumes) ⟨some name, parameter⟩) =
          some (bodyOf parameter doc.consumes) :=
        requestBody?_referenceTo hcomponents hname hglobal (isBody_of_lastBody hbody)
      have hcopy : upgraded'.requestBody?
            (Resolved.toBody (mediaTypes own doc.consumes) ⟨none, parameter⟩) =
          some (bodyOf parameter (mediaTypes own doc.consumes)) := rfl
      rw [hbodies, hcopy, Option.some.injEq, bodyOf_eq_iff, contentOf_mediaTypes_iff]
      constructor
      · rintro h name body - ⟨⟩
        exact h
      · intro h
        exact h name parameter rfl rfl

theorem response_of_copied (hglobals : copy.responses = doc.responses)
    {response response' : RefOr Response} (hcopied : doc.CopiedResponse response response')
    {own : Option (List String)} {image image' : RefOr Api.Response}
    (himage : doc.upgradeResponseRef (mediaTypes own doc.produces) response = .ok image)
    (himage' : copy.upgradeResponseRef (mediaTypes own doc.produces) response' = .ok image') :
    upgraded.response? image = upgraded'.response? image' ↔
      ∀ name global, response = .ref ("#/responses/" ++ name) → response' = .inline global →
        global.schema.isSome → SameTypes own doc.produces := by
  have hsame : upgraded.response? = upgraded'.response? :=
    Api.Document.resolve?_congr .responses (hcomponents.trans hcomponents'.symm)
  cases hcopied with
  | same =>
    have himages : copy.upgradeResponseRef (mediaTypes own doc.produces) response =
        doc.upgradeResponseRef (mediaTypes own doc.produces) response := by
      cases response with
      | inline => rfl
      | ref => rw [Document.upgradeResponseRef, Document.upgradeResponseRef, hglobals]
    rw [himages, himage] at himage'
    cases himage'
    rw [hsame]
    refine iff_of_true rfl fun name global hreference hinline => ?_
    rw [hreference] at hinline
    cases hinline
  | @copy name object hname hglobal =>
    obtain ⟨name', object', hreference, hglobal', rfl⟩ := upgradeResponseRef_ref_iff.1 himage
    obtain rfl := (String.append_right_inj _).1 hreference
    cases himage'
    have hresponses : upgraded.response? (.ref ("#/components/responses/" ++ name)) =
        some (upgradeResponse object doc.produces) :=
      response?_referenceTo hcomponents hname hglobal
    have hcopy : upgraded'.response?
          (.inline (upgradeResponse object (mediaTypes own doc.produces))) =
        some (upgradeResponse object (mediaTypes own doc.produces)) := rfl
    rw [hresponses, hcopy, Option.some.injEq, upgradeResponse_eq_iff, contentOf_mediaTypes_iff]
    constructor
    · rintro h name global - ⟨⟩
      exact h
    · intro h
      exact h name object rfl rfl

theorem responses_of_copied (hglobals : copy.responses = doc.responses)
    {response response' : Option (RefOr Response)}
    (hcopied : Option.Rel doc.CopiedResponse response response') {own : Option (List String)}
    {image image' : Option (RefOr Api.Response)}
    (himage : Option.Rel (fun a b => doc.upgradeResponseRef (mediaTypes own doc.produces) a = .ok b)
      response image)
    (himage' : Option.Rel (fun a b =>
      copy.upgradeResponseRef (mediaTypes own doc.produces) a = .ok b) response' image') :
    image.bind upgraded.response? = image'.bind upgraded'.response? ↔ ∀ name global,
      response = some (.ref ("#/responses/" ++ name)) → response' = some (.inline global) →
        global.schema.isSome → SameTypes own doc.produces := by
  cases hcopied with
  | none =>
    cases himage
    cases himage'
    simp
  | some hresponse =>
    cases himage with
    | some hvalue =>
      cases himage' with
      | some hvalue' =>
        simp only [Option.bind_some, Option.some.injEq]
        exact response_of_copied hcomponents hcomponents' hglobals hresponse hvalue hvalue'

end

/-! ## Upgraded descriptions -/

section
variable {doc copy : Document}

/-- A copy stands for something if the original does. -/
theorem isSome_global?_of_copied {α : Type} {start : String} {globals : Dict α}
    {object object' : RefOr α} (hcopied : Copied start globals object object')
    (h : (global? start globals object).isSome) : (global? start globals object').isSome := by
  cases hcopied with
  | same => exact h
  | copy => rfl

namespace Document.Inlined

variable (hinlined : doc.Inlined copy)
include hinlined

theorem parameters_eq : copy.parameters = doc.parameters :=
  congrArg (·.parameters) hinlined.rest

theorem responses_eq : copy.responses = doc.responses :=
  congrArg (·.responses) hinlined.rest

theorem components_eq : copy.components = doc.components := by
  rw [hinlined.rest]
  rfl

/-- Every parameter that the copy lists comes from one of the original. -/
theorem exists_lists {parameter' : RefOr Parameter} (h : copy.Lists parameter') :
    ∃ parameter, doc.Lists parameter ∧ doc.CopiedParameter parameter parameter' := by
  obtain ⟨hitem', hmem'⟩ | ⟨hitem', hoperation', hmem'⟩ := h
  · obtain ⟨item, hitem, hpath⟩ := exists_of_rel_right (hinlined.paths _) hitem'
    obtain ⟨parameter, hmem, hcopied⟩ := exists_of_mem_right hpath.parameters _ hmem'
    exact ⟨parameter, .path hitem hmem, hcopied⟩
  · obtain ⟨item, hitem, hpath⟩ := exists_of_rel_right (hinlined.paths _) hitem'
    obtain ⟨operation, hoperation, hcopies⟩ := exists_of_rel_right (hpath.operations _) hoperation'
    obtain ⟨parameter, hmem, hcopied⟩ := exists_of_mem_right hcopies.parameters _ hmem'
    exact ⟨parameter, .operation hitem hoperation hmem, hcopied⟩

/-- Every response of the copy comes from one of the original. -/
theorem exists_answers {response' : RefOr Response} (h : copy.Answers response') :
    ∃ response, doc.Answers response ∧ doc.CopiedResponse response response' := by
  obtain ⟨hitem', hoperation', hresponse'⟩ := h
  obtain ⟨item, hitem, hpath⟩ := exists_of_rel_right (hinlined.paths _) hitem'
  obtain ⟨operation, hoperation, hcopies⟩ := exists_of_rel_right (hpath.operations _) hoperation'
  obtain ⟨response, hresponse, hcopied⟩ := exists_of_rel_right (hcopies.responses _) hresponse'
  exact ⟨response, .operation hitem hoperation hresponse, hcopied⟩

theorem exists_upgrade (h : ∃ upgraded, doc.upgrade = .ok upgraded) :
    ∃ upgraded, copy.upgrade = .ok upgraded := by
  obtain ⟨hlists, hanswers⟩ := exists_upgrade_iff.1 h
  refine exists_upgrade_iff.2 ⟨fun parameter' hlists' => ?_, fun response' hanswers' => ?_⟩
  · obtain ⟨parameter, hlisted, hcopied⟩ := hinlined.exists_lists hlists'
    rw [Document.parameter?, hinlined.parameters_eq]
    exact isSome_global?_of_copied hcopied (hlists parameter hlisted)
  · obtain ⟨response, hanswered, hcopied⟩ := hinlined.exists_answers hanswers'
    rw [Document.response?, hinlined.responses_eq]
    exact isSome_global?_of_copied hcopied (hanswers response hanswered)

end Document.Inlined

/-- **Copies of global objects in place of references change what an operation takes and gives
    just in the media types of the copies**: a reference has those of the document and a copy
    has those of its operation. -/
theorem signature_of_inlined (hinlined : doc.Inlined copy) {upgraded : Api.Document}
    (hupgrade : doc.upgrade = .ok upgraded) : ∃ upgraded', copy.upgrade = .ok upgraded' ∧
      ∀ path item item' verb operation operation', doc.pathItems.get? path = some item →
        copy.pathItems.get? path = some item' → item.at? verb = some operation →
        item'.at? verb = some operation' → ∃ s s',
          upgraded.signature? path verb = some s ∧ upgraded'.signature? path verb = some s' ∧
          s.parameters = s'.parameters ∧
          (s.body = s'.body ↔ ∀ name body,
            doc.bodyParameter? item operation = some ⟨some name, body⟩ →
            copy.bodyParameter? item' operation' = some ⟨none, body⟩ →
            body.schema.isSome → SameTypes operation.consumes doc.consumes) ∧
          ∀ code, s.response? code = s'.response? code ↔ ∀ name response,
            operation.responses.get? code = some (.ref ("#/responses/" ++ name)) →
            operation'.responses.get? code = some (.inline response) →
            response.schema.isSome → SameTypes operation.produces doc.produces := by
  obtain ⟨upgraded', hupgrade'⟩ := hinlined.exists_upgrade ⟨upgraded, hupgrade⟩
  refine ⟨upgraded', hupgrade', ?_⟩
  intro path item item' verb operation operation' hitem hitem' hoperation hoperation'
  have hpath : doc.CopiedPath item item' := by
    simpa only [hitem, hitem', Option.rel_some_some] using hinlined.paths path
  have hcopied : doc.CopiedOperation operation operation' := by
    simpa only [hoperation, hoperation', Option.rel_some_some] using hpath.operations verb
  have hcomponents := components_of_upgrade hupgrade
  have hcomponents' : upgraded'.components = some doc.components := by
    rw [components_of_upgrade hupgrade', hinlined.components_eq]
  have hconsumes : mediaTypes operation'.consumes copy.consumes =
      mediaTypes operation.consumes doc.consumes := by
    rw [hcopied.rest, hinlined.rest]
  have hproduces : mediaTypes operation'.produces copy.produces =
      mediaTypes operation.produces doc.produces := by
    rw [hcopied.rest, hinlined.rest]
  obtain ⟨up, shared, own, values, hup, hshares, hat, hshared, hown, hvalues⟩ :=
    at?_of_upgrade hupgrade hitem hoperation
  obtain ⟨up', shared', own', values', hup', hshares', hat', hshared', hown', hvalues'⟩ :=
    at?_of_upgrade hupgrade' hitem' hoperation'
  have hmerged : List.Forall₂ doc.CopiedResolved (mergeParameters shared own)
      (mergeParameters shared' own') :=
    copiedResolved_merge
      (copiedResolved_of_mapM hinlined.parameters_eq hpath.parameters hshared hshared')
      (copiedResolved_of_mapM hinlined.parameters_eq hcopied.parameters hown hown')
  refine ⟨_, _, Api.Document.signature?_eq hup hat, Api.Document.signature?_eq hup' hat',
    ?_, ?_, fun code => ?_⟩
  · simp only [Api.Document.signature, effectiveParameters, hshares, hshares', parameters_assemble,
      parameters_of_copied hcomponents hcomponents' hmerged, List.filterMap_nil]
  · rw [doc.bodyParameter?_eq hshared hown, copy.bodyParameter?_eq hshared' hown']
    simp only [Api.Document.signature, assemble, hconsumes]
    exact requestBody_of_copied hcomponents hcomponents' hmerged operation.consumes
  · have himage := get?_of_upgradeValues hvalues code
    have himage' := get?_of_upgradeValues hvalues' code
    rw [hproduces] at himage'
    exact responses_of_copied hcomponents hcomponents' hinlined.responses_eq
      (hcopied.responses code) himage himage'

end

/-- A description with an operation whose own media type is not that of the document, with its
    global objects as it is given. -/
def overridden (parameters : List (RefOr Parameter)) (response : RefOr Response) : Document where
  consumes := ["application/xml"]
  paths := some (.ofList [("/pets", { post := some {
    consumes := some ["application/json"]
    parameters := parameters
    responses := .ofList [("200", response)] } })])
  parameters := .ofList [("limit", limit), ("pet", pet)]
  responses := .ofList [("done", done)]
where
  limit : Parameter := { name := "limit", location := "query" }
  pet : Parameter := { name := "pet", location := "body", schema := some (.inline {}) }
  done : Response := { schema := some (.inline {}) }

/-- The operation refers to its parameters and its response. -/
def referring : Document :=
  overridden [.ref "#/parameters/limit", .ref "#/parameters/pet"] (.ref "#/responses/done")

/-- The operation has copies of them. -/
def copying : Document :=
  overridden [.inline overridden.limit, .inline overridden.pet] (.inline overridden.done)

theorem inlined_copying : referring.Inlined copying := by
  have hlimit : referring.CopiedParameter (.ref ("#/parameters/" ++ "limit"))
      (.inline overridden.limit) := .copy (by decide) rfl
  have hpet : referring.CopiedParameter (.ref ("#/parameters/" ++ "pet"))
      (.inline overridden.pet) := .copy (by decide) rfl
  have hdone : referring.CopiedResponse (.ref ("#/responses/" ++ "done"))
      (.inline overridden.done) := .copy (by decide) rfl
  refine ⟨Dict.rel_get?_singleton ⟨.nil, fun verb => ?_⟩ "/pets", rfl⟩
  cases verb with
  | post => exact .some ⟨.cons hlimit (.cons hpet .nil), Dict.rel_get?_singleton hdone "200", rfl⟩
  | _ => exact .none

/-- Its copies keep the parameters and the response of the operation, and change its body. -/
theorem signature_of_copying : ∃ upgraded upgraded' s s',
    referring.upgrade = .ok upgraded ∧ copying.upgrade = .ok upgraded' ∧
      upgraded.signature? "/pets" .post = some s ∧ upgraded'.signature? "/pets" .post = some s' ∧
      s.parameters = s'.parameters ∧ s.body ≠ s'.body ∧ s.response? "200" = s'.response? "200" := by
  have hok : referring.upgrade.isOk := by decide +kernel
  obtain ⟨upgraded, hupgrade⟩ := isOk_iff.1 hok
  obtain ⟨upgraded', hupgrade', hsignatures⟩ := signature_of_inlined inlined_copying hupgrade
  obtain ⟨s, s', hs, hs', hparameters, hbody, hresponses⟩ := hsignatures "/pets" _ _ .post _ _
    (Dict.get?_singleton_iff.2 ⟨rfl, rfl⟩) (Dict.get?_singleton_iff.2 ⟨rfl, rfl⟩) rfl rfl
  have htypes : ¬ SameTypes (some ["application/json"]) ["application/xml"] := fun hsame =>
    absurd ((hsame "application/xml").2 (by decide)) (by decide)
  refine ⟨upgraded, upgraded', s, s', hupgrade, hupgrade', hs, hs', hparameters, ?_, ?_⟩
  · intro heq
    exact htypes (hbody.1 heq "pet" overridden.pet rfl rfl rfl)
  · exact (hresponses "200").2 fun _ _ _ _ _ _ => Iff.rfl

/-- The media types in which an upgraded operation takes its body. -/
def bodyTypes? (doc : Document) (path : String) (verb : Verb) : Option (List String) := do
  let upgraded ← doc.upgrade.toOption
  let s ← upgraded.signature? path verb
  s.body.map (·.content.keys)

/-- A copy of a global body may change the media types of a request. -/
theorem bodyTypes_of_copying : referring.Inlined copying ∧
    bodyTypes? referring "/pets" .post = some ["application/xml"] ∧
      bodyTypes? copying "/pets" .post = some ["application/json"] := by
  refine ⟨inlined_copying, ?_, ?_⟩ <;> decide +kernel

end Swagger

end ApiKinds
