/-
  Which API descriptions are valid.

  * `ValidityError`: the causes for refusing a description, and their wording.
  * `checkReference`: a reference has to be local and name a component of the section
    its position asks for.
  * `Document.check`: version, information and paths are there, every path begins
    with a slash, and every reference is good. The first fault in document order is
    reported.
  * `Document.checkLeniently`: there are paths.
-/
import ApiKinds.Api.Reference
import ApiKinds.Text.Quoted

namespace ApiKinds.Api

open Text

/-- Why a description is refused. -/
inductive ValidityError where
  | missingVersion
  | unsupportedVersion (version : String)
  | missingTitle
  | missingInfoVersion
  | noPaths
  | pathWithoutSlash (path : String)
  | externalReference (reference : String)
  | unresolvedReference (reference : String)
  /-- A fault in the operations of a path. -/
  | inPath (path : String) (cause : ValidityError)
  /-- A fault in a component schema. -/
  | inSchema (name : String) (cause : ValidityError)
deriving DecidableEq, Repr

/-- The wording of a fault. -/
def ValidityError.message : ValidityError → String
  | missingVersion => "missing openapi version field"
  | unsupportedVersion version => "unsupported openapi version " ++ quoted version
  | missingTitle => "info.title is required"
  | missingInfoVersion => "info.version is required"
  | noPaths => "no paths defined"
  | pathWithoutSlash path => "path " ++ quoted path ++ " must start with '/'"
  | externalReference reference =>
    "external reference " ++ quoted reference ++ " is not supported"
  | unresolvedReference reference => "unresolved reference " ++ quoted reference
  | inPath path cause => "path " ++ path ++ ": " ++ cause.message
  | inSchema name cause => "schema " ++ name ++ ": " ++ cause.message

/-- The outcome of a check. -/
abbrev Check := Except ValidityError Unit

/-- Adds to a fault where it was found. -/
def Check.within (place : ValidityError → ValidityError) : Check → Check
  | .ok () => .ok ()
  | .error cause => .error (place cause)

/-- Checks one after the other up to the first fault. -/
def checkAll {α : Type} (check : α → Check) : List α → Check
  | [] => .ok ()
  | a :: rest => do
    check a
    checkAll check rest

def checkOption {α : Type} (check : α → Check) : Option α → Check
  | none => .ok ()
  | some a => check a

/-! ## References -/

/-- The names of a section. -/
def Components.names (components : Components) : Section → List String
  | .schemas => components.schemas.keys
  | .parameters => components.parameters.keys
  | .requestBodies => components.requestBodies.keys
  | .responses => components.responses.keys

/-- Whether the components have the name in a section. -/
def Document.hasComponent (doc : Document) (kind : Section) (name : String) : Bool :=
  match doc.components with
  | none => false
  | some components => (components.names kind).contains name

/-- A reference is local and names a component of the section. -/
def Document.checkReference (doc : Document) (kind : Section) (reference : String) : Check :=
  if !hasPrefix "#" reference then .error (.externalReference reference)
  else match nameIn? kind reference with
    | some name =>
      if doc.hasComponent kind name then .ok () else .error (.unresolvedReference reference)
    | none => .error (.unresolvedReference reference)

/-- The reference is good, or the object written in place is. -/
def Document.checkRefOr {α : Type} (doc : Document) (kind : Section) (check : α → Check) :
    RefOr α → Check
  | .ref reference => doc.checkReference kind reference
  | .inline value => check value

mutual
/-- The references of a schema: those of its properties, items and members. -/
def checkSchema (check : String → Check) : Schema → Check
  | ⟨_, properties, items, allOf⟩ => do
    checkProperties check properties
    match items with
    | none => pure ()
    | some schema => checkSchemaRef check schema
    checkMembers check allOf

def checkSchemaRef (check : String → Check) : RefOr Schema → Check
  | .ref reference => check reference
  | .inline schema => checkSchema check schema

def checkProperties (check : String → Check) : List (String × RefOr Schema) → Check
  | [] => .ok ()
  | (_, schema) :: rest => do
    checkSchemaRef check schema
    checkProperties check rest

def checkMembers (check : String → Check) : List (RefOr Schema) → Check
  | [] => .ok ()
  | schema :: rest => do
    checkSchemaRef check schema
    checkMembers check rest
end

namespace Document

variable (doc : Document)

def checkSchema : RefOr Schema → Check :=
  checkSchemaRef (doc.checkReference .schemas)

def checkParameter : RefOr Parameter → Check :=
  doc.checkRefOr .parameters fun parameter => checkOption doc.checkSchema parameter.schema

def checkContent (content : Dict MediaType) : Check :=
  checkAll (fun media => checkOption doc.checkSchema media.schema) content.values

def checkRequestBody : RefOr RequestBody → Check :=
  doc.checkRefOr .requestBodies fun body => doc.checkContent body.content

def checkResponse : RefOr Response → Check :=
  doc.checkRefOr .responses fun response => doc.checkContent response.content

def checkOperation (operation : Operation) : Check := do
  checkAll doc.checkParameter operation.parameters
  checkOption doc.checkRequestBody operation.requestBody
  checkAll doc.checkResponse operation.responses.values

/-- A path and its operations. -/
def checkPath (path : String) (item : PathItem) : Check := do
  if !hasPrefix "/" path then throw (.pathWithoutSlash path)
  checkAll doc.checkParameter item.parameters
  checkAll (fun operation => (doc.checkOperation operation).within (.inPath path))
    item.operations

def checkComponents (components : Components) : Check := do
  checkAll (fun entry => (doc.checkSchema entry.2).within (.inSchema entry.1))
    components.schemas.entries
  checkAll doc.checkParameter components.parameters.values
  checkAll doc.checkRequestBody components.requestBodies.values
  checkAll doc.checkResponse components.responses.values

/-- The version is there and one of OpenAPI 3. -/
def checkVersion : Check :=
  match doc.openapi with
  | none => .error .missingVersion
  | some version =>
    if hasPrefix "3." version then .ok () else .error (.unsupportedVersion version)

/-- Title, version and paths are there. -/
def checkPresence : Check := do
  if doc.info.title.isNone then throw .missingTitle
  if doc.info.version.isNone then throw .missingInfoVersion
  if doc.paths.isNone then throw .noPaths

/-- A description in the form of OpenAPI 3 is valid. -/
def check : Check := do
  doc.checkVersion
  doc.checkPresence
  checkAll (fun entry => doc.checkPath entry.1 entry.2) ((doc.paths.getD .empty).entries)
  checkOption doc.checkComponents doc.components

/-- A description that was upgraded is valid as soon as it has paths, since its
    responses are often incomplete. -/
def checkLeniently : Check :=
  if doc.paths.isSome then .ok () else .error .noPaths

end Document

end ApiKinds.Api
