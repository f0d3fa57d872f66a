/-
  Reports: what became of each path of an API.

  * `Outcome`: the sorts of results, and their labels.
  * `Row`, `Report`: the outcome of a path, and of all paths in order.
  * `Notice`: what an observer is told while the rows come in.
-/
import ApiKinds.Text.Basic

namespace ApiKinds

/-- What kept a path out. -/
inductive FilterReason where
  | path
  | tag
  /-- Every operation of the path is filtered. -/
  | operation
deriving DecidableEq, Repr, Inhabited

/-- What became of a path. -/
inductive Outcome where
  | filtered (reason : FilterReason)
  | resource
  /-- A collection whose POST belongs to the resource of its item path. -/
  | resourceCollection
  /-- The item path of such a collection. -/
  | resourceItem
  | queryEndpoint
  | actionEndpoint
  /-- It has no operation, or no resource name. -/
  | skipped
  /-- The root path, without a root Kind. -/
  | dropped
deriving DecidableEq, Repr, Inhabited

namespace Outcome

def isResource : Outcome → Bool
  | resource | resourceCollection | resourceItem => true
  | _ => false

def isFiltered : Outcome → Bool
  | filtered _ => true
  | _ => false

/-- The words of a table. -/
def label : Outcome → String
  | filtered .path => "Filtered (path)"
  | filtered .tag => "Filtered (tag)"
  | filtered .operation => "Filtered (op)"
  | resource => "Resource"
  | resourceCollection => "Resource (POST)"
  | resourceItem => "Resource (ID)"
  | queryEndpoint => "QueryEndpoint"
  | actionEndpoint => "ActionEndpoint"
  | skipped => "Skipped"
  | dropped => "Dropped"

end Outcome

/-- The outcome of a path. -/
structure Row where
  path : String
  /-- The methods, with filtered ones behind them. -/
  methods : String
  outcome : Outcome
  /-- The name of the resource or endpoint. -/
  kind : Option String
  parentIdParam : Option String
deriving DecidableEq, Repr, Inhabited

/-- The outcomes of all paths, in order. -/
structure Report where
  rows : List Row
deriving DecidableEq, Repr, Inhabited

namespace Report

def row? (report : Report) (path : String) : Option Row :=
  report.rows.find? (·.path == path)

def outcome? (report : Report) (path : String) : Option Outcome :=
  (report.row? path).map (·.outcome)

/-- The paths with an outcome. -/
def pathsWith (report : Report) (outcome : Outcome) : List String :=
  (report.rows.filter (·.outcome = outcome)).map (·.path)

def filteredCount (report : Report) : Nat :=
  (report.rows.filter (·.outcome.isFiltered)).length

end Report

/-- What an observer is told. -/
inductive Notice where
  /-- Before any row: how many paths there are, and how many of them are filtered. -/
  | opening (paths filtered : Nat)
  | row (row : Row)
  | closing
deriving DecidableEq, Repr, Inhabited

/-- The notices that tell of a report. -/
def Report.notices (report : Report) : List Notice :=
  .opening report.rows.length report.filteredCount :: report.rows.map .row ++ [.closing]

end ApiKinds
