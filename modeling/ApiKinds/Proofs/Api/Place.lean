/-
  The places of schemas in a description.

  * `SchemaPlace`, `Document.schemaAt?`: where a schema may stand, and the schema that stands
    there.
  * `exists_place_of_mentions`, `Stands.mentions`: the references to schemas are those that occur
    in the schemas at such places, and no others.
  * `stands_of_schema?`: what a reference leads to stands in the description, too.
-/
import ApiKinds.Proofs.Api.Mention
import ApiKinds.Proofs.Api.Reference
import ApiKinds.Survey.Basic

namespace ApiKinds

/-! ## Places -/

/-- Where schemas stand in a description. -/
inductive SchemaPlace where
  /-- Under a name among the components. -/
  | schema (name : String)
  | parameter (name : String)
  | requestBody (name type : String)
  | response (name type : String)
  /-- Among the parameters that a path shares. -/
  | shared (path : String) (index : Nat)
  /-- Among the parameters of an operation. -/
  | own (path : String) (verb : Verb) (index : Nat)
  /-- In the body of an operation. -/
  | body (path : String) (verb : Verb) (type : String)
  /-- In a response of an operation. -/
  | answer (path : String) (verb : Verb) (code type : String)

namespace Api

/-- The schema of a parameter that is written in place. -/
def Parameter.schemaIn? (parameter : RefOr Parameter) : Option (RefOr Schema) :=
  parameter.inline?.bind (·.schema)

/-- The schema of a body in one media type. -/
def contentSchema? (content : Dict MediaType) (type : String) : Option (RefOr Schema) :=
  (content.get? type).bind (·.schema)

namespace Document

variable (doc : Document)

def operationAt? (path : String) (verb : Verb) : Option Operation :=
  (doc.pathItems.get? path).bind (·.at? verb)

/-- The schema that stands at a place of a description. -/
def schemaAt? : SchemaPlace → Option (RefOr Schema)
  | .schema name => do (← doc.components).schemas.get? name
  | .parameter name => do Parameter.schemaIn? (← (← doc.components).parameters.get? name)
  | .requestBody name type => do
    contentSchema? (← (← (← doc.components).requestBodies.get? name).inline?).content type
  | .response name type => do
    contentSchema? (← (← (← doc.components).responses.get? name).inline?).content type
  | .shared path index => do Parameter.schemaIn? (← (← doc.pathItems.get? path).parameters[index]?)
  | .own path verb index => do
    Parameter.schemaIn? (← (← doc.operationAt? path verb).parameters[index]?)
  | .body path verb type => do
    contentSchema? (← (← (← doc.operationAt? path verb).requestBody).inline?).content type
  | .answer path verb code type => do
    contentSchema? (← (← (← doc.operationAt? path verb).responses.get? code).inline?).content type

/-- A schema stands somewhere in a description. -/
def Stands (schema : RefOr Schema) : Prop :=
  ∃ place, doc.schemaAt? place = some schema

end Document

/-! ## References at places -/

section
variable {schema : RefOr Schema} {reference : String}

theorem inline?_eq_some_iff {α : Type} {object : RefOr α} {value : α} :
    object.inline? = some value ↔ object = .inline value := by
  cases object <;> simp [RefOr.inline?]

theorem mentions_of_schemaIn? {parameter : RefOr Parameter}
    (h : Parameter.schemaIn? parameter = some schema)
    (hmention : Schema.Mentions reference schema) :
    Parameter.Mentions parameter .schemas reference := by
  obtain ⟨value, hvalue, hschema⟩ := Option.bind_eq_some_iff.1 h
  rw [inline?_eq_some_iff.1 hvalue]
  exact .inside ⟨schema, hschema, hmention⟩

theorem contentMentions_of_schema? {content : Dict MediaType} {type : String}
    (h : contentSchema? content type = some schema) (hmention : Schema.Mentions reference schema) :
    ContentMentions content reference := by
  obtain ⟨media, hmedia, hschema⟩ := Option.bind_eq_some_iff.1 h
  exact ⟨type, media, schema, hmedia, hschema, hmention⟩

end

namespace Document

variable {doc : Document} {schema : RefOr Schema} {reference : String}

/-- Every reference inside a schema of a description occurs in the schema at some place. -/
theorem exists_place_of_mentions (h : doc.Mentions .schemas reference) :
    ∃ place schema, doc.schemaAt? place = some schema ∧ Schema.Mentions reference schema := by
  have hat {path : String} {item : PathItem} {verb : Verb} {operation : Operation}
      (hitem : doc.pathItems.get? path = some item) (hverb : item.at? verb = some operation) :
      doc.operationAt? path verb = some operation := by
    rw [operationAt?, hitem, Option.bind_some, hverb]
  cases h with
  | @path paths path item _ _ hpaths hpath hmentions =>
    have hitem : doc.pathItems.get? path = some item :=
      Dict.get?_getD_empty.2 ⟨paths, hpaths, hpath⟩
    cases hmentions with
    | parameter hmem hparameter =>
      obtain ⟨index, hindex⟩ := List.mem_iff_getElem?.1 hmem
      obtain _ | ⟨schema, hschema, h⟩ := hparameter
      refine ⟨.shared path index, schema, ?_, h⟩
      simp [schemaAt?, hitem, hindex, Parameter.schemaIn?, RefOr.inline?, hschema]
    | @operation verb _ _ _ hverb hoperation =>
      have hoperationAt := hat hitem hverb
      cases hoperation with
      | parameter hmem hparameter =>
        obtain ⟨index, hindex⟩ := List.mem_iff_getElem?.1 hmem
        obtain _ | ⟨schema, hschema, h⟩ := hparameter
        refine ⟨.own path verb index, schema, ?_, h⟩
        simp [schemaAt?, hoperationAt, hindex, Parameter.schemaIn?, RefOr.inline?, hschema]
      | requestBody hbody hmentions =>
        obtain _ | ⟨type, media, schema, htype, hschema, h⟩ := hmentions
        refine ⟨.body path verb type, schema, ?_, h⟩
        simp [schemaAt?, hoperationAt, hbody, RefOr.inline?, contentSchema?, htype, hschema]
      | @response code _ _ _ hcode hmentions =>
        obtain _ | ⟨type, media, schema, htype, hschema, h⟩ := hmentions
        refine ⟨.answer path verb code type, schema, ?_, h⟩
        simp [schemaAt?, hoperationAt, hcode, RefOr.inline?, contentSchema?, htype, hschema]
  | component hcomponents hmentions =>
    cases hmentions with
    | @schema name schema _ hname h =>
      refine ⟨.schema name, schema, ?_, h⟩
      simp [schemaAt?, hcomponents, hname]
    | @parameter name _ _ _ hname hparameter =>
      obtain _ | ⟨schema, hschema, h⟩ := hparameter
      refine ⟨.parameter name, schema, ?_, h⟩
      simp [schemaAt?, hcomponents, hname, Parameter.schemaIn?, RefOr.inline?, hschema]
    | @requestBody name _ _ _ hname hmentions =>
      obtain _ | ⟨type, media, schema, htype, hschema, h⟩ := hmentions
      refine ⟨.requestBody name type, schema, ?_, h⟩
      simp [schemaAt?, hcomponents, hname, RefOr.inline?, contentSchema?, htype, hschema]
    | @response name _ _ _ hname hmentions =>
      obtain _ | ⟨type, media, schema, htype, hschema, h⟩ := hmentions
      refine ⟨.response name type, schema, ?_, h⟩
      simp [schemaAt?, hcomponents, hname, RefOr.inline?, contentSchema?, htype, hschema]

theorem mentions_of_pathItem {path : String} {item : PathItem}
    (hitem : doc.pathItems.get? path = some item) {kind : Section}
    (hmention : item.Mentions kind reference) : doc.Mentions kind reference := by
  obtain ⟨paths, hpaths, hpath⟩ := Dict.get?_getD_empty.1 hitem
  exact .path hpaths hpath hmention

/-- The references in a schema that stands in a description are references of it. -/
theorem Stands.mentions (h : doc.Stands schema) (hmention : Schema.Mentions reference schema) :
    doc.Mentions .schemas reference := by
  obtain ⟨place, hplace⟩ := h
  cases place with
  | schema name =>
    obtain ⟨components, hcomponents, hname⟩ := Option.bind_eq_some_iff.1 hplace
    exact .component hcomponents (.schema hname hmention)
  | parameter name =>
    obtain ⟨components, hcomponents, hrest⟩ := Option.bind_eq_some_iff.1 hplace
    obtain ⟨parameter, hname, hschema⟩ := Option.bind_eq_some_iff.1 hrest
    exact .component hcomponents (.parameter hname (mentions_of_schemaIn? hschema hmention))
  | requestBody name type =>
    simp only [schemaAt?, bind, Option.bind_eq_some_iff, inline?_eq_some_iff] at hplace
    obtain ⟨components, hcomponents, _, hname, _, rfl, hschema⟩ := hplace
    have hcontent := contentMentions_of_schema? hschema hmention
    exact .component hcomponents (.requestBody hname (.inside hcontent))
  | response name type =>
    simp only [schemaAt?, bind, Option.bind_eq_some_iff, inline?_eq_some_iff] at hplace
    obtain ⟨components, hcomponents, _, hname, _, rfl, hschema⟩ := hplace
    have hcontent := contentMentions_of_schema? hschema hmention
    exact .component hcomponents (.response hname (.inside hcontent))
  | shared path index =>
    simp only [schemaAt?, bind, Option.bind_eq_some_iff] at hplace
    obtain ⟨item, hitem, parameter, hindex, hschema⟩ := hplace
    have hparameter := mentions_of_schemaIn? hschema hmention
    exact mentions_of_pathItem hitem (.parameter (List.mem_of_getElem? hindex) hparameter)
  | own path verb index =>
    simp only [schemaAt?, operationAt?, bind, Option.bind_eq_some_iff] at hplace
    obtain ⟨operation, ⟨item, hitem, hverb⟩, parameter, hindex, hschema⟩ := hplace
    have hparameter := mentions_of_schemaIn? hschema hmention
    exact mentions_of_pathItem hitem
      (.operation hverb (.parameter (List.mem_of_getElem? hindex) hparameter))
  | body path verb type =>
    simp only [schemaAt?, operationAt?, bind, Option.bind_eq_some_iff,
      inline?_eq_some_iff] at hplace
    obtain ⟨operation, ⟨item, hitem, hverb⟩, _, hbody, _, rfl, hschema⟩ := hplace
    have hcontent := contentMentions_of_schema? hschema hmention
    exact mentions_of_pathItem hitem (.operation hverb (.requestBody hbody (.inside hcontent)))
  | answer path verb code type =>
    simp only [schemaAt?, operationAt?, bind, Option.bind_eq_some_iff,
      inline?_eq_some_iff] at hplace
    obtain ⟨operation, ⟨item, hitem, hverb⟩, _, hcode, _, rfl, hschema⟩ := hplace
    have hcontent := contentMentions_of_schema? hschema hmention
    exact mentions_of_pathItem hitem (.operation hverb (.response hcode (.inside hcontent)))

/-! ## Schemas behind references -/

theorem stands_component {components : Components} (hcomponents : doc.components = some components)
    {name : String} (hname : components.schemas.get? name = some schema) : doc.Stands schema := by
  refine ⟨.schema name, ?_⟩
  rw [schemaAt?, hcomponents]
  exact hname

theorem stands_of_schema? {target : Schema} (h : doc.schema? (.ref reference) = some target) :
    doc.Stands (.inline target) := by
  obtain ⟨components, name, hcomponents, hname⟩ := exists_component_of_resolve? .schemas h
  exact stands_component hcomponents hname

end Document

end Api

end ApiKinds
