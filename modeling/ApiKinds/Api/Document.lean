/-
  API descriptions in the form of OpenAPI 3, as far as classification depends on
  them.

  * `Document`: version, information, servers, paths and components.
  * `PathItem.operations`: every operation of a path, HEAD and OPTIONS included.
-/
import ApiKinds.Api.Schema

namespace ApiKinds.Api

/-- What the API is called. -/
structure Info where
  title : Option String := none
  version : Option String := none
  description : Option String := none
deriving Inhabited

structure Server where
  url : String
  description : Option String := none

/-- A parameter of an operation; members the model does not know are its
    `extensions`. -/
structure Parameter where
  name : String
  /-- Where it is sent: `path`, `query`, `header` or `cookie`. -/
  location : String
  description : Option String := none
  required : Bool := false
  schema : Option (RefOr Schema) := none
  extensions : Dict Json := .empty

/-- A body in one media type. -/
structure MediaType where
  schema : Option (RefOr Schema) := none
deriving Inhabited

structure RequestBody where
  description : Option String := none
  /-- The body by media type. -/
  content : Dict MediaType := .empty
  required : Bool := false
deriving Inhabited

structure Response where
  description : Option String := none
  /-- The body by media type. -/
  content : Dict MediaType := .empty
deriving Inhabited

structure Operation where
  operationId : Option String := none
  summary : Option String := none
  description : Option String := none
  tags : List String := []
  parameters : List (RefOr Parameter) := []
  requestBody : Option (RefOr RequestBody) := none
  /-- The responses by status code. -/
  responses : Dict (RefOr Response) := .empty
deriving Inhabited

/-- The operations of a path by method, and the parameters they share. -/
structure PathItem where
  get : Option Operation := none
  put : Option Operation := none
  post : Option Operation := none
  delete : Option Operation := none
  patch : Option Operation := none
  head : Option Operation := none
  options : Option Operation := none
  parameters : List (RefOr Parameter) := []
deriving Inhabited

/-- The objects that can be referred to, by section and name. -/
structure Components where
  schemas : Dict (RefOr Schema) := .empty
  parameters : Dict (RefOr Parameter) := .empty
  requestBodies : Dict (RefOr RequestBody) := .empty
  responses : Dict (RefOr Response) := .empty
deriving Inhabited

/-- An API description. -/
structure Document where
  openapi : Option String := none
  info : Info := {}
  servers : List Server := []
  paths : Option (Dict PathItem) := none
  components : Option Components := none
deriving Inhabited

/-- Every operation of a path, in the order in which they are checked. -/
def PathItem.operations (item : PathItem) : List Operation :=
  [item.get, item.post, item.put, item.delete, item.patch, item.head, item.options].filterMap id

/-- The text under a member that the model does not know. -/
def Parameter.extensionText? (parameter : Parameter) (key : String) : Option String :=
  match parameter.extensions.get? key with
  | some (.string s) => some s
  | _ => none

end ApiKinds.Api
