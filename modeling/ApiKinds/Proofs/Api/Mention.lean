/-
  The references that occur in a description, each with the section that its position
  asks for.

  * `Schema.Mentions`: a reference occurs in a schema, at any depth.
  * `RefOr.Mentions`: it stands in place of an object, or in one of the schemas inside.
  * `Operation.Mentions`, `PathItem.Mentions`, `Components.Mentions`, `Document.Mentions`: it
    occurs in one of their parts.
-/
import ApiKinds.Api.Reference
import ApiKinds.Proofs.Verb

namespace ApiKinds.Api

/-! ## Schemas -/

/-- A reference occurs in a schema: in its place, or in that of a property, of the items or
    of a member. -/
inductive Schema.Mentions (reference : String) : RefOr Schema → Prop
  | here : Mentions reference (.ref reference)
  | property {schema : Schema} {name part} : (name, part) ∈ schema.properties →
      Mentions reference part → Mentions reference (.inline schema)
  | items {schema : Schema} {part} : schema.items = some part → Mentions reference part →
      Mentions reference (.inline schema)
  | member {schema : Schema} {part} : part ∈ schema.allOf → Mentions reference part →
      Mentions reference (.inline schema)

/-- A reference occurs in the schema of a media type. -/
def ContentMentions (content : Dict MediaType) (reference : String) : Prop :=
  ∃ type media schema, content.get? type = some media ∧ media.schema = some schema ∧
    Schema.Mentions reference schema

/-! ## Parts of operations -/

/-- A reference stands in place of an object of a section, or occurs in a schema inside it. -/
inductive RefOr.Mentions {α : Type} (kind : Section) (inside : α → String → Prop) :
    RefOr α → Section → String → Prop
  | here {reference} : Mentions kind inside (.ref reference) kind reference
  | inside {object reference} : inside object reference →
      Mentions kind inside (.inline object) .schemas reference

def Parameter.Mentions : RefOr Parameter → Section → String → Prop :=
  RefOr.Mentions .parameters fun parameter reference =>
    ∃ schema, parameter.schema = some schema ∧ Schema.Mentions reference schema

def RequestBody.Mentions : RefOr RequestBody → Section → String → Prop :=
  RefOr.Mentions .requestBodies fun body => ContentMentions body.content

def Response.Mentions : RefOr Response → Section → String → Prop :=
  RefOr.Mentions .responses fun response => ContentMentions response.content

inductive Operation.Mentions (operation : Operation) : Section → String → Prop
  | parameter {parameter kind reference} : parameter ∈ operation.parameters →
      Parameter.Mentions parameter kind reference → Mentions operation kind reference
  | requestBody {body kind reference} : operation.requestBody = some body →
      RequestBody.Mentions body kind reference → Mentions operation kind reference
  | response {code response kind reference} : operation.responses.get? code = some response →
      Response.Mentions response kind reference → Mentions operation kind reference

/-! ## Documents -/

inductive PathItem.Mentions (item : PathItem) : Section → String → Prop
  | parameter {parameter kind reference} : parameter ∈ item.parameters →
      Parameter.Mentions parameter kind reference → Mentions item kind reference
  | operation {verb operation kind reference} : item.at? verb = some operation →
      operation.Mentions kind reference → Mentions item kind reference

inductive Components.Mentions (components : Components) : Section → String → Prop
  | schema {name schema reference} : components.schemas.get? name = some schema →
      Schema.Mentions reference schema → Mentions components .schemas reference
  | parameter {name parameter kind reference} :
      components.parameters.get? name = some parameter →
      Parameter.Mentions parameter kind reference → Mentions components kind reference
  | requestBody {name body kind reference} : components.requestBodies.get? name = some body →
      RequestBody.Mentions body kind reference → Mentions components kind reference
  | response {name response kind reference} : components.responses.get? name = some response →
      Response.Mentions response kind reference → Mentions components kind reference

/-- A reference occurs in a document, where an object of the given section belongs. -/
inductive Document.Mentions (doc : Document) : Section → String → Prop
  | path {paths path item kind reference} : doc.paths = some paths →
      paths.get? path = some item → item.Mentions kind reference → Mentions doc kind reference
  | component {components kind reference} : doc.components = some components →
      components.Mentions kind reference → Mentions doc kind reference

end ApiKinds.Api
