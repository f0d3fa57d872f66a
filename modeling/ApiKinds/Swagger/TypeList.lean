/-
  The members `type` of a document, where one name stands for the list of it.

  * `listTypes` puts every such name into a list, everywhere in a document.
-/
import ApiKinds.Json.Basic

namespace ApiKinds.Swagger

/-- A member whose value is a single type name. -/
def isTypeName (key : String) (value : Json) : Bool :=
  key == "type" && match value with
    | .string _ => true
    | _ => false

mutual
/-- The document with a list for every type name. -/
def listTypes : Json → Json
  | .null => .null
  | .bool b => .bool b
  | .number n => .number n
  | .string s => .string s
  | .array items => .array (listTypesIn items)
  | .object members => .object (listTypesOf members)

def listTypesIn : List Json → List Json
  | [] => []
  | item :: rest => listTypes item :: listTypesIn rest

def listTypesOf : List (String × Json) → List (String × Json)
  | [] => []
  | (key, value) :: rest =>
    (key, if isTypeName key value then .array [value] else listTypes value) :: listTypesOf rest
end

end ApiKinds.Swagger
