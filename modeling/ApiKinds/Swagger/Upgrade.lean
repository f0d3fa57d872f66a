/-
  The OpenAPI 3 form of a Swagger 2.0 description.

  * Definitions, global parameters and global responses move below the components,
    and every reference is rewritten to match (`upgradeSchemaRef`).
  * The parameters that a path shares are merged into each of its operations
    (`mergeParameters`): one of the operation replaces one of the path with the same
    name and location.
  * A body parameter becomes the request body, in every media type that is consumed;
    form fields become the properties of one form schema.
  * `UpgradeError`: the upgrade fails only on parameter and response references that
    name no global object.
-/
import ApiKinds.Swagger.Document
import ApiKinds.Text.Quoted

namespace ApiKinds.Swagger

open Api Text

/-- Why a description cannot be upgraded. -/
inductive UpgradeCause where
  | unsupportedParameter (reference : String)
  | unresolvedParameter (reference : String)
  | unresolvedResponse (reference : String)
deriving DecidableEq, Repr

/-- The wording of a cause. -/
def UpgradeCause.message : UpgradeCause → String
  | unsupportedParameter reference => "unsupported parameter reference " ++ quoted reference
  | unresolvedParameter reference => "unresolved parameter reference " ++ quoted reference
  | unresolvedResponse reference => "unresolved response reference " ++ quoted reference

/-- The path that cannot be upgraded, and why. -/
structure UpgradeError where
  path : String
  cause : UpgradeCause
deriving DecidableEq, Repr

def UpgradeError.message (e : UpgradeError) : String :=
  "path " ++ e.path ++ ": " ++ e.cause.message

/-! ## Schemas -/

/-- A reference to a definition as a reference to a component schema. -/
def upgradeReference (reference : String) : String :=
  match dropPrefix? "#/definitions/" reference with
  | some name => "#/components/schemas/" ++ name
  | none => reference

/-- The keyword by which a schema says that it admits `null`. -/
def nullableKeyword : String := "x-nullable"

/-- The facets with `x-nullable` taken into `nullable`. -/
def upgradeFacets (facets : Facets) : Facets :=
  { facets with
    nullable := facets.nullable ||
      (match Entries.get? nullableKeyword facets.extensions with
        | some (.bool true) => true
        | _ => false)
    extensions := facets.extensions.filter (·.1 != nullableKeyword) }

mutual
/-- A schema with references and nullability in the form of OpenAPI 3. -/
def upgradeSchema : Schema → Schema
  | ⟨facets, properties, items, allOf⟩ =>
    { toFacets := upgradeFacets facets
      properties := upgradeEntries properties
      items := match items with
        | none => none
        | some schema => some (upgradeSchemaRef schema)
      allOf := upgradeList allOf }

def upgradeSchemaRef : RefOr Schema → RefOr Schema
  | .ref reference => .ref (upgradeReference reference)
  | .inline schema => .inline (upgradeSchema schema)

def upgradeEntries : List (String × RefOr Schema) → List (String × RefOr Schema)
  | [] => []
  | (key, schema) :: rest => (key, upgradeSchemaRef schema) :: upgradeEntries rest

def upgradeList : List (RefOr Schema) → List (RefOr Schema)
  | [] => []
  | schema :: rest => upgradeSchemaRef schema :: upgradeList rest
end

/-! ## Parameters and bodies -/

/-- The media type of bodies when none is listed. -/
def defaultMediaType : String := "application/json"

/-- The first list that is not empty, or else the default media type. -/
def mediaTypes (own : Option (List String)) (document : List String) : List String :=
  let own := own.getD []
  if !own.isEmpty then own
  else if !document.isEmpty then document
  else [defaultMediaType]

/-- The schema, upgraded, in each of the media types. -/
def contentOf (schema : Option (RefOr Schema)) (types : List String) : Dict MediaType :=
  match schema with
  | none => .empty
  | some schema =>
    .ofList ((mediaTypes (some types) []).map (·, { schema := some (upgradeSchemaRef schema) }))

/-- A parameter that is no part of a body. -/
def upgradeParameter (parameter : Parameter) : Api.Parameter where
  name := parameter.name
  location := parameter.location
  description := parameter.description
  required := parameter.required
  schema := some (.inline (upgradeSchema parameter.valueSchema))
  extensions := parameter.vendorExtensions

/-- The request body of a body parameter. -/
def bodyOf (parameter : Parameter) (consumes : List String) : RequestBody where
  description := parameter.description
  content := contentOf parameter.schema consumes
  required := parameter.required

def upgradeResponse (response : Response) (produces : List String) : Api.Response where
  description := response.description
  content := contentOf response.schema produces

/-- The media types of a form: with files among its types, or without. -/
def multipartType : String := "multipart/form-data"

def urlEncodedType : String := "application/x-www-form-urlencoded"

/-- The schema of a form with the given fields; of two fields with one name the later
    one gives the schema. -/
def formSchema (fields : List Parameter) : Schema where
  types := ["object"]
  properties := Entries.ofList
    (fields.map fun field => (field.name, .inline (upgradeSchema field.valueSchema)))
  required := (fields.filter (·.required)).map (·.name)

/-- The request body of a form. -/
def formBody (fields : List Parameter) (consumes : List String) : RequestBody where
  content := .ofList
    [(if consumes.contains multipartType then multipartType else urlEncodedType,
      { schema := some (.inline (formSchema fields)) })]
  required := fields.any (·.required)

/-! ## Merging parameters -/

/-- A parameter behind its reference, with the name of the global one, if it was
    referred to. -/
structure Resolved where
  globalName : Option String
  parameter : Parameter

/-- The parameter itself, or the global one that is referred to. -/
def Document.resolveParameter (doc : Document) :
    RefOr Parameter → Except UpgradeCause Resolved
  | .inline parameter => .ok ⟨none, parameter⟩
  | .ref reference =>
    match dropPrefix? "#/parameters/" reference with
    | none => .error (.unsupportedParameter reference)
    | some name =>
      match doc.parameters.get? name with
      | none => .error (.unresolvedParameter reference)
      | some parameter => .ok ⟨some name, parameter⟩

/-- Puts a value in place of the first one that it overrides, or at the end. -/
def replaceOrAppend {α : Type} (overrides : α → α → Bool) (new : α) : List α → List α
  | [] => [new]
  | old :: rest =>
    if overrides new old then new :: rest else old :: replaceOrAppend overrides new rest

/-- Same name and same location. -/
def Resolved.overrides (new old : Resolved) : Bool :=
  new.parameter.name == old.parameter.name && new.parameter.location == old.parameter.location

/-- The shared parameters, overridden and completed by those of an operation. -/
def mergeParameters (shared own : List Resolved) : List Resolved :=
  own.foldl (fun merged new => replaceOrAppend Resolved.overrides new merged) shared

/-! ## Operations -/

/-- A parameter of the upgraded operation. -/
def Resolved.toParameter (r : Resolved) : RefOr Api.Parameter :=
  match r.globalName with
  | some name => .ref ("#/components/parameters/" ++ name)
  | none => .inline (upgradeParameter r.parameter)

/-- The request body of the upgraded operation. -/
def Resolved.toBody (consumes : List String) (r : Resolved) : RefOr RequestBody :=
  match r.globalName with
  | some name => .ref ("#/components/requestBodies/" ++ name)
  | none => .inline (bodyOf r.parameter consumes)

/-- The last body parameter, or a form of the form fields, if there are any. -/
def requestBodyOf (merged : List Resolved) (consumes : List String) :
    Option (RefOr RequestBody) :=
  match (merged.filter (·.parameter.isBody)).getLast? with
  | some body => some (body.toBody consumes)
  | none =>
    let fields := (merged.map (·.parameter)).filter (·.isFormData)
    if fields.isEmpty then none else some (.inline (formBody fields consumes))

/-- The response itself, or a reference to the global one. -/
def Document.upgradeResponseRef (doc : Document) (produces : List String) :
    RefOr Response → Except UpgradeCause (RefOr Api.Response)
  | .inline response => .ok (.inline (upgradeResponse response produces))
  | .ref reference =>
    match dropPrefix? "#/responses/" reference with
    | none => .error (.unresolvedResponse reference)
    | some name =>
      if doc.responses.contains name then .ok (.ref ("#/components/responses/" ++ name))
      else .error (.unresolvedResponse reference)

/-- Upgrades the values of a list of entries, up to the first that cannot be. -/
def upgradeValues {α β ε : Type} (upgrade : String → α → Except ε β) :
    List (String × α) → Except ε (List (String × β))
  | [] => .ok []
  | (key, value) :: rest => do
    let value ← upgrade key value
    let values ← upgradeValues upgrade rest
    .ok ((key, value) :: values)

/-- An operation with the parameters that its path shares. -/
def Document.upgradeOperation (doc : Document) (shared : List Resolved)
    (operation : Operation) : Except UpgradeCause Api.Operation := do
  let own ← operation.parameters.mapM doc.resolveParameter
  let merged := mergeParameters shared own
  let consumes := mediaTypes operation.consumes doc.consumes
  let produces := mediaTypes operation.produces doc.produces
  let responses ← upgradeValues (fun _ => doc.upgradeResponseRef produces)
    operation.responses.entries
  .ok {
    operationId := operation.operationId
    summary := operation.summary
    description := operation.description
    tags := operation.tags
    parameters := (merged.filter fun r => !r.parameter.isBody && !r.parameter.isFormData).map
      Resolved.toParameter
    requestBody := requestBodyOf merged consumes
    responses := .ofList responses }

/-- An operation that may be absent. -/
def Document.upgradeMethod (doc : Document) (shared : List Resolved) :
    Option Operation → Except UpgradeCause (Option Api.Operation)
  | none => .ok none
  | some operation => (doc.upgradeOperation shared operation).map some

/-- A path, whose shared parameters are merged into its operations. -/
def Document.upgradePathItem (doc : Document) (item : PathItem) :
    Except UpgradeCause Api.PathItem := do
  let shared ← item.parameters.mapM doc.resolveParameter
  .ok {
    get := ← doc.upgradeMethod shared item.get
    put := ← doc.upgradeMethod shared item.put
    post := ← doc.upgradeMethod shared item.post
    delete := ← doc.upgradeMethod shared item.delete
    patch := ← doc.upgradeMethod shared item.patch
    head := ← doc.upgradeMethod shared item.head
    options := ← doc.upgradeMethod shared item.options }

/-! ## Documents -/

/-- The servers: the host under each scheme, or the base path alone. -/
def Document.servers (doc : Document) : List Server :=
  let basePath := doc.basePath.getD ""
  let host := doc.host.getD ""
  if host != "" then
    (if doc.schemes.isEmpty then ["https"] else doc.schemes).map fun scheme =>
      { url := scheme ++ "://" ++ host ++ basePath }
  else if basePath != "" && basePath != "/" then [{ url := basePath }]
  else []

/-- The components: global parameters are parameters, or request bodies if they are
    bodies; form fields are neither. -/
def Document.components (doc : Document) : Components where
  schemas := doc.definitions.map fun _ schema => upgradeSchemaRef schema
  parameters := doc.parameters.filterMap fun _ parameter =>
    if parameter.isBody || parameter.isFormData then none
    else some (.inline (upgradeParameter parameter))
  requestBodies := doc.parameters.filterMap fun _ parameter =>
    if parameter.isBody then some (.inline (bodyOf parameter doc.consumes)) else none
  responses := doc.responses.map fun _ response =>
    .inline (upgradeResponse response doc.produces)

/-- A path, and the path named in the error if it cannot be upgraded. -/
def Document.upgradePath (doc : Document) (path : String) (item : PathItem) :
    Except UpgradeError Api.PathItem :=
  (doc.upgradePathItem item).mapError (⟨path, ·⟩)

/-- The description in the form of OpenAPI 3. -/
def Document.upgrade (doc : Document) : Except UpgradeError Api.Document := do
  let paths ← match doc.paths with
    | none => .ok none
    | some paths => (upgradeValues doc.upgradePath paths.entries).map (some ∘ Dict.ofList)
  .ok {
    openapi := some "3.0.3"
    info := doc.info
    servers := doc.servers
    paths := paths
    components := some doc.components }

end ApiKinds.Swagger
