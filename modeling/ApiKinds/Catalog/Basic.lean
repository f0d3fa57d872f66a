/-
  Catalogs: what an API offers, sorted into resources, queries and actions.

  * `Resource`: an entity with an operation for each of some methods.
  * `QueryEndpoint`: a path that is only read.
  * `ActionEndpoint`: an operation that is done once.
  * `Catalog`: all of them with title, version and component shapes, and the
    look-ups by name.
-/
import ApiKinds.Catalog.Shape

namespace ApiKinds

/-- The methods that take part in classification, in the order they are listed. -/
inductive Method where
  | get
  | post
  | put
  | patch
  | delete
deriving DecidableEq, Repr, Inhabited

namespace Method

def all : List Method :=
  [get, post, put, patch, delete]

def name : Method → String
  | get => "GET"
  | post => "POST"
  | put => "PUT"
  | patch => "PATCH"
  | delete => "DELETE"

end Method

/-- Where a parameter is sent. -/
inductive ParamLocation where
  | path
  | query
  | header
  | cookie
deriving DecidableEq, Repr, Inhabited

namespace ParamLocation

def all : List ParamLocation :=
  [path, query, header, cookie]

def name : ParamLocation → String
  | path => "path"
  | query => "query"
  | header => "header"
  | cookie => "cookie"

/-- The location with a name. -/
def ofName? (name : String) : Option ParamLocation :=
  all.find? (·.name == name)

end ParamLocation

/-- A parameter of an operation. -/
structure Param where
  name : String
  location : ParamLocation
  required : Bool
  /-- The type name; for arrays of queries with that of the items. -/
  type : Option String
  description : Option String
  /-- The field of the body that the parameter is merged into. -/
  idField : Option String
deriving DecidableEq, Repr

/-- An operation of a resource. -/
structure ResourceOperation where
  method : Method
  path : String
  operationId : Option String
  summary : Option String
  requestBody : Option Shape
  responseBody : Option Shape
  pathParams : List Param
  queryParams : List Param

/-- An entity that is created, read, updated and deleted. -/
structure Resource where
  /-- The Kind, a singular name. -/
  name : String
  pluralName : String
  /-- The path of the collection. -/
  path : String
  /-- At most one operation per method. -/
  operations : List ResourceOperation
  /-- The shape of the entity. -/
  schema : Option Shape
  description : Option String

/-- A path that is only read. -/
structure QueryEndpoint where
  name : String
  operationId : Option String
  path : String
  basePath : String
  /-- The last segment. -/
  operation : String
  summary : Option String
  description : Option String
  pathParams : List Param
  queryParams : List Param
  responseSchema : Option Shape
  /-- The component that the response, or each of its items, is. -/
  responseComponent : Option String
  responseIsArray : Bool

/-- An operation that is done once. -/
structure ActionEndpoint where
  name : String
  operationId : Option String
  path : String
  /-- The Kind that the action is done to. -/
  parentResource : Option String
  /-- The parameter that identifies the parent, and its type. -/
  parentIdParam : Option String
  parentIdType : Option String
  /-- The last segment. -/
  actionName : String
  method : Method
  summary : Option String
  description : Option String
  pathParams : List Param
  queryParams : List Param
  requestSchema : Option Shape
  responseSchema : Option Shape
  /-- The body is a file, or has one among its parts. -/
  hasBinaryBody : Bool
  binaryContentType : Option String

/-- What an API offers. -/
structure Catalog where
  title : String
  version : String
  description : Option String
  baseUrl : Option String
  /-- In the order of their names. -/
  resources : List Resource
  queryEndpoints : List QueryEndpoint
  actionEndpoints : List ActionEndpoint
  /-- The shapes of the components. -/
  schemas : Dict Shape

namespace Resource

def operation? (resource : Resource) (method : Method) : Option ResourceOperation :=
  resource.operations.find? (·.method = method)

def methods (resource : Resource) : List Method :=
  resource.operations.map (·.method)

end Resource

namespace Catalog

def resource? (catalog : Catalog) (name : String) : Option Resource :=
  catalog.resources.find? (·.name == name)

def queryEndpoint? (catalog : Catalog) (name : String) : Option QueryEndpoint :=
  catalog.queryEndpoints.find? (·.name == name)

def actionEndpoint? (catalog : Catalog) (name : String) : Option ActionEndpoint :=
  catalog.actionEndpoints.find? (·.name == name)

end Catalog

end ApiKinds
