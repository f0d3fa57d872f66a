/-
  The survey of an API: every path is filtered, sorted and reported.

  * `keptViews`, `findings`: the paths that are kept, and what each path turns out to
    be, in path order.
  * `gather`: the contributions to resources, each added to the draft of its name.
  * `Document.survey`: resources, queries, actions and the report.
  * `Document.notices`: what an observer is told while the paths are surveyed.
  * `Document.catalog`: all that the document offers, under its title.
-/
import ApiKinds.Survey.Draft
import ApiKinds.Survey.Finding

namespace ApiKinds

open Api

/-! ## Findings of all paths -/

/-- The paths of a document, of which there may be none. -/
def Api.Document.pathItems (doc : Document) : Dict PathItem :=
  doc.paths.getD .empty

/-- What a filter makes of the paths of a document. -/
def decisions (doc : Document) (filter : Option PathFilter) : Dict Decision :=
  doc.pathItems.map (decidePath filter)

/-- The paths that a filter keeps, as they are classified. -/
def keptViews (doc : Document) (filter : Option PathFilter) : Dict PathView :=
  (decisions doc filter).filterMap fun _ decision => decision.view?

/-- The finding behind a decision. -/
def Decision.finding (doc : Document) (rootKind : Option String) (paired : Dict String)
    (path : String) : Decision → Finding
  | keep view => view.finding doc rootKind paired
  | drop reason methods => .filtered path reason methods

/-- What the paths of a document turn out to be, in path order. -/
def findings (doc : Document) (filter : Option PathFilter) (rootKind : Option String) :
    List Finding :=
  let paired := pairs (keptViews doc filter)
  ((decisions doc filter).map (Decision.finding doc rootKind paired)).values

/-! ## Resources -/

/-- Adds a path to the resource of a name, which it starts if there is none yet. -/
def addContribution (doc : Document) (drafts : Dict Draft) (name : String)
    (view : PathView) : Dict Draft :=
  let draft := (drafts.get? name).getD (Draft.start name view.path)
  drafts.insert name (draft.contribute doc view)

/-- The drafts of the resources that paths contribute to. -/
def drafts (doc : Document) (contributions : List (String × PathView)) : Dict Draft :=
  contributions.foldl (fun drafts entry => addContribution doc drafts entry.1 entry.2) .empty

/-- The resources that paths contribute to, in the order of their names. -/
def gather (doc : Document) (contributions : List (String × PathView)) : List Resource :=
  (drafts doc contributions).values.map Draft.finish

/-! ## Surveys -/

/-- What the paths of a document are. -/
structure Survey where
  /-- In the order of their names. -/
  resources : List Resource
  queryEndpoints : List QueryEndpoint
  actionEndpoints : List ActionEndpoint
  report : Report

/-- The survey of what was found. -/
def Survey.ofFindings (doc : Document) (found : List Finding) : Survey where
  resources := gather doc (found.filterMap Finding.contribution?)
  queryEndpoints := found.filterMap Finding.query?
  actionEndpoints := found.filterMap Finding.action?
  report := ⟨found.map Finding.row⟩

/-- The root Kind, unless it is empty. -/
def namedKind? (rootKind : Option String) : Option String :=
  rootKind.filter (· != "")

/-- The survey of a document. An empty root Kind is none. -/
def Api.Document.survey (doc : Document) (filter : Option PathFilter)
    (rootKind : Option String) : Survey :=
  .ofFindings doc (findings doc filter (namedKind? rootKind))

/-- What an observer of a survey is told: how many paths there are and how many of them
    the filter drops, then the row of each path, and that this is all. -/
def Api.Document.notices (doc : Document) (filter : Option PathFilter)
    (rootKind : Option String) : List Notice :=
  let decided := decisions doc filter
  let dropped := decided.values.filter fun decision => decision.view?.isNone
  .opening decided.size dropped.length ::
    (findings doc filter (namedKind? rootKind)).map (fun finding => .row finding.row) ++ [.closing]

/-! ## Catalogs -/

/-- The shapes of the components of a document. -/
def componentShapes (doc : Document) : Dict Shape :=
  match doc.components with
  | some components => components.schemas.filterMap doc.shape?
  | none => .empty

/-- What a document offers, with the survey that shows how it was found. -/
def Api.Document.catalog (doc : Document) (filter : Option PathFilter)
    (rootKind : Option String) : Catalog × Report :=
  let survey := doc.survey filter rootKind
  ({ title := doc.info.title.getD ""
     version := doc.info.version.getD ""
     description := doc.info.description
     baseUrl := doc.servers.head?.map (·.url)
     resources := survey.resources
     queryEndpoints := survey.queryEndpoints
     actionEndpoints := survey.actionEndpoints
     schemas := componentShapes doc }, survey.report)

end ApiKinds
