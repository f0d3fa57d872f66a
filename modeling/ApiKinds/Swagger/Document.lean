/-
  API descriptions in the form of Swagger 2.0.

  * Bodies are parameters here: one at `body` carries a schema, those at `formData`
    are the fields of a form; every other parameter describes its value by keywords
    of its own (`Parameter.valueSchema`).
  * Media types are listed per document or per operation, and schemas, global
    parameters and global responses stand at the top of a document.
-/
import ApiKinds.Api.Document
import ApiKinds.Text.Basic

namespace ApiKinds.Swagger

open Api

/-- A parameter of an operation. -/
structure Parameter where
  name : String
  /-- Where it is sent: `path`, `query`, `header`, `body` or `formData`. -/
  location : String
  description : Option String := none
  required : Bool := false
  /-- The schema of a body. -/
  schema : Option (RefOr Schema) := none
  types : List String := []
  format : Option String := none
  items : Option (RefOr Schema) := none
  enum : List Json := []
  default : Option Json := none
  minimum : Option Binary64 := none
  maximum : Option Binary64 := none
  minLength : Option Nat := none
  maxLength : Option Nat := none
  pattern : Option String := none
  minItems : Option Nat := none
  maxItems : Option Nat := none
  extensions : Dict Json := .empty

structure Response where
  description : Option String := none
  schema : Option (RefOr Schema) := none
deriving Inhabited

structure Operation where
  operationId : Option String := none
  summary : Option String := none
  description : Option String := none
  tags : List String := []
  /-- The media types of requests, in place of the document's. -/
  consumes : Option (List String) := none
  /-- The media types of responses, in place of the document's. -/
  produces : Option (List String) := none
  parameters : List (RefOr Parameter) := []
  responses : Dict (RefOr Response) := .empty
deriving Inhabited

structure PathItem where
  get : Option Operation := none
  put : Option Operation := none
  post : Option Operation := none
  delete : Option Operation := none
  patch : Option Operation := none
  head : Option Operation := none
  options : Option Operation := none
  parameters : List (RefOr Parameter) := []
deriving Inhabited

/-- A description in the form of Swagger 2.0. -/
structure Document where
  swagger : Option String := none
  info : Info := {}
  host : Option String := none
  basePath : Option String := none
  schemes : List String := []
  consumes : List String := []
  produces : List String := []
  paths : Option (Dict PathItem) := none
  definitions : Dict (RefOr Schema) := .empty
  parameters : Dict Parameter := .empty
  responses : Dict Response := .empty
deriving Inhabited

namespace Parameter

def isBody (parameter : Parameter) : Bool :=
  parameter.location == "body"

def isFormData (parameter : Parameter) : Bool :=
  parameter.location == "formData"

/-- The schema of the value of a parameter; a file is a binary text. -/
def valueSchema (parameter : Parameter) : Schema where
  types := if parameter.types.contains "file" then ["string"] else parameter.types
  format := if parameter.types.contains "file" then some "binary" else parameter.format
  description := parameter.description
  items := parameter.items
  enum := parameter.enum
  default := parameter.default
  minimum := parameter.minimum
  maximum := parameter.maximum
  minLength := parameter.minLength
  maxLength := parameter.maxLength
  pattern := parameter.pattern
  minItems := parameter.minItems
  maxItems := parameter.maxItems

/-- The members whose key begins with `x-`. -/
def vendorExtensions (parameter : Parameter) : Dict Json :=
  parameter.extensions.filterKeys (Text.hasPrefix "x-")

end Parameter

/-- Every operation of a path. -/
def PathItem.operations (item : PathItem) : List Operation :=
  [item.get, item.put, item.post, item.delete, item.patch, item.head, item.options].filterMap id

end ApiKinds.Swagger
