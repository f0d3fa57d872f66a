/-
  Configuration: which description to read, and what to leave out.

  * `Config.ofText`: a configuration as YAML; a text without content is the empty one.
  * `Config.effectiveRootKind`: the Kind of the root path, given or taken from the name
    of the description.
  * `FilterLists.read?`, `Config.read?`, `toJson`: the same as JSON.
  * `Config.example`: what a new configuration file holds.
-/
import ApiKinds.Failure
import ApiKinds.Filter
import ApiKinds.Json.Record
import ApiKinds.Json.Written
import ApiKinds.RootKind
import ApiKinds.Yaml.Reading
import ApiKinds.Yaml.Record

namespace ApiKinds

/-- A configuration. -/
structure Config where
  /-- Path or web address of the description. -/
  spec : Option String := none
  /-- The Kind of the root path. -/
  rootKind : Option String := none
  filters : Option FilterLists := none
deriving DecidableEq, Repr, Inhabited

/-! ## YAML -/

def FilterLists.fieldNames : List String :=
  ["includePaths", "excludePaths", "includeTags", "excludeTags", "includeOperations",
    "excludeOperations"]

def Config.fieldNames : List String :=
  ["spec", "rootKind", "filters"]

/-- The filter lists that a node holds. -/
def FilterLists.ofNode? (doc : Yaml.Document) (node : Yaml.Node) : Option FilterLists := do
  let fields ← doc.fields? fieldNames node
  let list := fun name => Yaml.Document.field? fields name [] (doc.list? doc.text?)
  some {
    includePaths := ← list "includePaths"
    excludePaths := ← list "excludePaths"
    includeTags := ← list "includeTags"
    excludeTags := ← list "excludeTags"
    includeOperations := ← list "includeOperations"
    excludeOperations := ← list "excludeOperations" }

namespace Config

/-- The configuration that a node holds. -/
def ofNode? (doc : Yaml.Document) (node : Yaml.Node) : Option Config := do
  let fields ← doc.fields? fieldNames node
  let text := fun name => Yaml.Document.field? fields name none (doc.nullable? doc.text?)
  some {
    spec := ← text "spec"
    rootKind := ← text "rootKind"
    filters := ← Yaml.Document.field? fields "filters" none
      (doc.nullable? (FilterLists.ofNode? doc)) }

/-- The configuration written in a text. -/
def ofText? (text : String) : Option Config :=
  if text.toList.all Text.isBlank then some {}
  else do
    match ← Yaml.Document.ofText? text.toList with
    | none => some {}
    | some doc => ofNode? doc doc.root

/-- The configuration written in a text. -/
def ofText (text : String) : Except Failure Config :=
  match ofText? text with
  | some config => .ok config
  | none => .error (.config .malformed)

end Config

/-! ## JSON -/

def FilterLists.read? (value : Json) : Option FilterLists := do
  let r ← Json.record? fieldNames value
  some {
    includePaths := ← r.list "includePaths" Json.string?
    excludePaths := ← r.list "excludePaths" Json.string?
    includeTags := ← r.list "includeTags" Json.string?
    excludeTags := ← r.list "excludeTags" Json.string?
    includeOperations := ← r.list "includeOperations" Json.string?
    excludeOperations := ← r.list "excludeOperations" Json.string? }

def FilterLists.toJson (lists : FilterLists) : Json :=
  let texts := Json.ofList .string
  .object [
    ("includePaths", texts lists.includePaths),
    ("excludePaths", texts lists.excludePaths),
    ("includeTags", texts lists.includeTags),
    ("excludeTags", texts lists.excludeTags),
    ("includeOperations", texts lists.includeOperations),
    ("excludeOperations", texts lists.excludeOperations)]

namespace Config

def read? (value : Json) : Option Config := do
  let r ← Json.record? fieldNames value
  some {
    spec := ← r.optional "spec" Json.string?
    rootKind := ← r.optional "rootKind" Json.string?
    filters := ← r.optional "filters" FilterLists.read? }

def toJson (config : Config) : Json :=
  .object [
    ("spec", .ofOption .string config.spec),
    ("rootKind", .ofOption .string config.rootKind),
    ("filters", .ofOption FilterLists.toJson config.filters)]

/-- The parts of a configuration in JSON that are asked for. -/
inductive Position where
  | config
  | filters
  /-- Asked for as a whole. -/
  | whole

/-- The fields that are asked for. -/
def layout : Json.Layout Position where
  member
    | .config, "filters" => some .filters
    | .config, name => if fieldNames.contains name then some .whole else none
    | .filters, name => if FilterLists.fieldNames.contains name then some .whole else none
    | .whole, _ => some .whole
  item
    | .config, 2 => .filters
    | _, _ => .whole

/-! ## Root Kind -/

/-- The Kind of the root path: the one that is given, or the one that the name of the
    description stands for. -/
def effectiveRootKind (config : Config) : Option String :=
  (config.rootKind.filter (· != "")) <|>
    (config.spec.map RootKind.ofLocation).filter (· != "")

/-! ## Files -/

/-- The names of configuration files, in the order they are looked for. -/
def fileNames : List String :=
  [".openapi-operator-gen.yaml", ".openapi-operator-gen.yml", "openapi-operator-gen.yaml",
    "openapi-operator-gen.yml"]

/-- What a new configuration file holds. -/
def exampleLines : List String :=
  ["# openapi-operator-gen configuration file",
    "# All options can be overridden by CLI flags",
    "",
    "# OpenAPI specification path or URL",
    "spec: ./api/openapi.yaml",
    "",
    "# Kind name for the root \"/\" endpoint (derived from the spec file name if not set)",
    "# rootKind: MyApp",
    "",
    "# Path, tag, and operation filtering",
    "filters:",
    "  # Only include paths matching these patterns (glob supported)",
    "  includePaths: []",
    "    # - /users",
    "    # - /pets/*",
    "",
    "  # Exclude paths matching these patterns",
    "  excludePaths: []",
    "    # - /internal/*",
    "",
    "  # Only include endpoints with these OpenAPI tags",
    "  includeTags: []",
    "    # - public",
    "",
    "  # Exclude endpoints with these OpenAPI tags",
    "  excludeTags: []",
    "    # - deprecated",
    "",
    "  # Only include operations with these operationIds (glob supported)",
    "  includeOperations: []",
    "    # - getPet*",
    "",
    "  # Exclude operations with these operationIds",
    "  excludeOperations: []",
    "    # - \"*Deprecated\""]

/-- The text of a new configuration file. -/
def exampleText : String :=
  Text.join "" (exampleLines.map (· ++ "\n"))

end Config

end ApiKinds
