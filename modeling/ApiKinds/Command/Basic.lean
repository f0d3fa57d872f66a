/-
  The program as it is called: commands, what they print, and how they end.

  * `Command.ofArguments`: the command that a command line asks for.
  * `Command.run`: runs it with any access to files.
  * `summary`: what is printed of a catalog behind the table of its report.
-/
import ApiKinds.Catalog.Writing
import ApiKinds.Command.Arguments
import ApiKinds.Files
import ApiKinds.Json.Printer
import ApiKinds.Survey.Basic
import ApiKinds.Table

namespace ApiKinds

open Command

/-! ## Commands -/

/-- What is to be parsed and how it is shown. -/
structure Command.ParseOptions where
  spec : Option String := none
  rootKind : Option String := none
  /-- The configuration file; if none is given it is looked for. -/
  config : Option String := none
  filters : FilterLists := {}
  asJson : Bool := false
  verbose : Bool := false
deriving DecidableEq, Repr

/-- What the program can do. -/
inductive Command where
  | parse (options : ParseOptions)
  | writeConfig (output : String)
deriving DecidableEq, Repr

namespace Command

def verboseOption : OptionSpec := ⟨"verbose", some 'v', .flag⟩

def helpOption : OptionSpec := ⟨"help", some 'h', .help⟩

/-- The options in front of a command. -/
def programOptions : List OptionSpec :=
  [verboseOption, helpOption, ⟨"version", some 'V', .version⟩]

/-- The options of the command that parses a description. -/
def parseOptions : List OptionSpec :=
  [⟨"spec", some 's', .text⟩, ⟨"root-kind", none, .text⟩, ⟨"config", some 'c', .path⟩,
    ⟨"include-path", none, .list⟩, ⟨"exclude-path", none, .list⟩,
    ⟨"include-tag", none, .list⟩, ⟨"exclude-tag", none, .list⟩,
    ⟨"include-operation", none, .list⟩, ⟨"exclude-operation", none, .list⟩,
    ⟨"json", none, .flag⟩, verboseOption, helpOption]

/-- The options of the command that writes a configuration. -/
def writeOptions : List OptionSpec :=
  [⟨"output", some 'o', .path⟩, verboseOption, helpOption]

/-- The options for parsing that are given. -/
def ParseOptions.ofGiven (given : Given) (verbose : Bool) : ParseOptions where
  spec := given.value? "spec"
  rootKind := given.value? "root-kind"
  config := given.value? "config"
  filters :=
    { includePaths := given.values "include-path"
      excludePaths := given.values "exclude-path"
      includeTags := given.values "include-tag"
      excludeTags := given.values "exclude-tag"
      includeOperations := given.values "include-operation"
      excludeOperations := given.values "exclude-operation" }
  asJson := given.has "json"
  verbose := verbose || given.has "verbose"

/-- Where a configuration is written if no place is given. -/
def defaultOutput : String := ".openapi-operator-gen.yaml"

/-- The names of commands, of which one asks for help. -/
def helpCommand : String := "help"

/-- The commands that help can be asked for. -/
def commandNames : List String :=
  ["parse", "init-config", helpCommand]

/-- The command that the arguments of the program ask for. -/
def ofArguments (arguments : List String) : Except Stop Command := do
  let (before, rest) ← Given.readOptions programOptions (arguments.length + 1) [] arguments
  let verbose := before.has "verbose"
  match rest with
  | "parse" :: rest => return .parse (.ofGiven (← Given.read parseOptions rest) verbose)
  | "init-config" :: rest =>
    let given ← Given.read writeOptions rest
    return .writeConfig ((given.value? "output").getD defaultOutput)
  | "help" :: topics =>
    .error (if topics.length ≤ 1 && topics.all commandNames.contains then .help else .misuse)
  | _ => .error .misuse

/-! ## Results -/

/-- How a run ends. -/
structure Outcome where
  exitCode : Nat := 0
  /-- What is printed. -/
  output : String := ""
  /-- What is printed as a complaint. -/
  complaint : String := ""
deriving DecidableEq, Repr

/-- The version of the program. -/
def version : String := "openapi-operator-gen 0.3.0"

/-- How a run ends when there is no command. -/
def Outcome.ofStop : Stop → Outcome
  | .help => {}
  | .version => { output := version ++ "\n" }
  | .misuse => { exitCode := 2, complaint := "unusable arguments\n" }

/-- A run that fails behind some output. -/
def Outcome.failed (output complaint : String) : Outcome :=
  { exitCode := 1, output := output, complaint := "Error: " ++ complaint ++ "\n" }

/-- Lines, each with its end. -/
def lines (texts : List String) : String :=
  Text.join "" (texts.map (· ++ "\n"))

/-! ## Summaries -/

/-- A line with a number of things. -/
def countLine (label : String) (count : Nat) : String :=
  "  " ++ label ++ ": " ++ toString count

/-- The lines about the document as a whole. -/
def titleLines (catalog : Catalog) : List String :=
  ["", "✓ Parse successful!", "", "API:",
    "  Title: " ++ catalog.title,
    "  Version: " ++ catalog.version] ++
  (catalog.baseUrl.map ("  Base URL: " ++ ·)).toList ++
  [countLine "Resources" catalog.resources.length,
    countLine "Query endpoints" catalog.queryEndpoints.length,
    countLine "Action endpoints" catalog.actionEndpoints.length,
    countLine "Schemas" catalog.schemas.size]

/-- The lines about paths that came to nothing. -/
def lossLines (report : Report) : List String :=
  let skipped := (report.pathsWith .skipped).length
  let dropped := (report.pathsWith .dropped).length
  (if report.filteredCount = 0 then [] else [countLine "Filtered paths" report.filteredCount]) ++
  if skipped = 0 ∧ dropped = 0 then []
  else [s!"  ! {skipped} skipped, {dropped} dropped"]

/-- A heading over lines, if there are any. -/
def under (heading : String) (texts : List String) : List String :=
  if texts.isEmpty then [] else ["", heading] ++ texts

/-- The lines of a resource. -/
def resourceLines (verbose : Bool) (resource : Resource) : List String :=
  let methods := Text.join ", " (resource.methods.map (·.name))
  ("  • " ++ resource.name ++ " " ++ resource.path ++ " [" ++ methods ++ "]") ::
  if verbose then
    resource.operations.map fun operation =>
      "    " ++ operation.method.name ++ " " ++ operation.path ++ " " ++
        operation.operationId.getD "-"
  else []

def queryLine (query : QueryEndpoint) : String :=
  "  • " ++ query.name ++ " GET " ++ query.path

/-- The lines of an action. -/
def actionLines (verbose : Bool) (action : ActionEndpoint) : List String :=
  ("  • " ++ action.name ++ " " ++ action.method.name ++ " " ++ action.path) ::
  match verbose, action.parentResource with
  | true, some parent => ["    parent: " ++ parent ++ " (" ++ action.parentIdParam.getD "-" ++ ")"]
  | _, _ => []

/-- What is printed of a catalog. -/
def summary (verbose : Bool) (catalog : Catalog) (report : Report) : String :=
  lines (titleLines catalog ++ lossLines report ++
    under "Resources:" (catalog.resources.flatMap (resourceLines verbose)) ++
    under "Query endpoints:" (catalog.queryEndpoints.map queryLine) ++
    under "Action endpoints:" (catalog.actionEndpoints.flatMap (actionLines verbose)))

/-! ## Runs -/

/-- The filter of some lists, unless they restrict nothing. -/
def filterOf (lists : FilterLists) : Option PathFilter :=
  if lists.isEmpty then none else some lists.toPathFilter

/-- The configuration with the options put before it. -/
def ParseOptions.over (options : ParseOptions) (config : Config) : Config :=
  { config with
    spec := options.spec <|> config.spec
    rootKind := options.rootKind <|> config.rootKind }

/-- The filter lists of the options, completed by those of the configuration. -/
def ParseOptions.allFilters (options : ParseOptions) (config : Config) : FilterLists :=
  match config.filters with
  | some lists => options.filters.fillFrom lists
  | none => options.filters

/-- The lines that say what is parsed. -/
def progressLines (spec : String) (rootKind : Option String) : String :=
  lines (("→ Parsing spec: " ++ spec) :: (rootKind.map ("→ Root kind: " ++ ·)).toList)

/-- What is printed of a document. -/
def shown (options : ParseOptions) (doc : Api.Document) (filter : Option PathFilter)
    (rootKind : Option String) : String :=
  let (catalog, report) := doc.catalog filter rootKind
  if options.asJson then catalog.toJson.pretty ++ "\n"
  else Table.ofNotices (doc.notices filter rootKind) ++ summary options.verbose catalog report

/-- The lines about a configuration that is written. -/
def writtenLines (output : String) : String :=
  lines [
    "✓ Wrote example configuration to " ++ output,
    "",
    "Next steps:",
    "  1. Set " ++ code "spec" ++ " to your OpenAPI document",
    "  2. Adjust the filters, then run " ++ code "openapi-operator-gen parse"]
where
  code (s : String) : String :=
    let mark := (Char.ofNat 0x60).toString
    mark ++ s ++ mark

section
variable {m : Type → Type} [Monad m] (files : Files m)

/-- The configuration that is given or found, or else the empty one. -/
def configFor (given : Option String) : m (Except Failure Config) := do
  let path ← match given with
    | some path => pure (some path)
    | none => Config.find files ""
  match path with
  | some path => Config.load files path
  | none => return .ok {}

/-- Parses the description that a configuration names. -/
def runConfigured (options : ParseOptions) (config : Config) : m Outcome := do
  match config.spec with
  | none => return .failed "" "No spec given: pass --spec or set it in the config file"
  | some spec =>
    let rootKind := config.effectiveRootKind
    let progress := if options.asJson then "" else progressLines spec rootKind
    match ← loadDocument files spec with
    | .error failure => return .failed progress failure.message
    | .ok doc =>
      let filter := filterOf (options.allFilters config)
      return { output := progress ++ shown options doc filter rootKind }

/-- Runs a command. -/
def run : Command → m Outcome
  | .parse options => do
    match ← configFor files options.config with
    | .error failure => return .failed "" failure.message
    | .ok config => runConfigured files options (options.over config)
  | .writeConfig output => do
    match ← Config.writeExample files output with
    | .error failure => return .failed "" failure.message
    | .ok () => return { output := writtenLines output }

/-- Runs the program with its arguments. -/
def runArguments (arguments : List String) : m Outcome :=
  match ofArguments arguments with
  | .error stop => return .ofStop stop
  | .ok command => run files command

end

end Command

end ApiKinds
