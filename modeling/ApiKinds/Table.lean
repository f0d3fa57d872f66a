/-
  The table of a survey as text: a box with a column for each field of a row.

  * `opening`, `line`, `closing`: the text before the rows, that of a row, and the
    text behind them. A field too wide for its column continues below.
  * `ofNotices`, `render`: the table of a survey, and that of a report.
-/
import ApiKinds.Catalog.Report
import ApiKinds.Text.Wrap

namespace ApiKinds.Table

/-! ## Layout -/

/-- Characters for path, methods, outcome, Kind and parent parameter. -/
def columnWidths : List Nat :=
  [34, 12, 18, 19, 19]

/-- The characters between the outer borders. -/
def innerWidth : Nat :=
  columnWidths.foldr (fun width rest => width + 3 + rest) 0 - 1

def title : String := "Endpoint Classification"

def headings : List String :=
  ["Endpoint", "Method", "Classification", "Kind", "Parent ID Param"]

/-- A character some times over. -/
def times (n : Nat) (c : Char) : String :=
  .ofList (List.replicate n c)

/-- A text with blanks behind it. -/
def padRight (width : Nat) (s : String) : String :=
  s ++ times (width - s.length) ' '

/-! ## Lines -/

/-- A line across the table, with the characters for its ends and its crossings. -/
def rule (left joint right : Char) : String :=
  let pieces := columnWidths.map fun width => times (width + 2) '─'
  left.toString ++ Text.join joint.toString pieces ++ right.toString ++ "\n"

/-- One line of cells, each with the width of its column. -/
def cellLine (cells : List (String × Nat)) : String :=
  "│" ++ Text.join "" (cells.map fun cell => " " ++ padRight cell.2 cell.1 ++ " │") ++ "\n"

/-- The lines of cells of any length. -/
def cells (fields : List String) : String :=
  let columns := (fields.zip columnWidths).map fun field => (Text.wrap field.2 field.1, field.2)
  let height := (columns.map (·.1.length)).foldl max 0
  Text.join "" ((List.range height).map fun i =>
    cellLine (columns.map fun column => (column.1[i]?.getD "", column.2)))

/-- The title between the outer borders. -/
def titleLine : String :=
  let pad := innerWidth - title.length
  "│" ++ times (pad / 2) ' ' ++ title ++ times (pad - pad / 2) ' ' ++ "│\n"

/-! ## The table -/

/-- How many paths the filter excludes, if any. -/
def filterNote (total filtered : Nat) : String :=
  if filtered = 0 then ""
  else s!"Filtering: {filtered} of {total} paths excluded by filter\n"

/-- What stands before the rows. -/
def opening (total filtered : Nat) : String :=
  filterNote total filtered ++ "\n┌" ++ times innerWidth '─' ++ "┐\n" ++ titleLine ++
    rule '├' '┬' '┤' ++ cells headings ++ rule '├' '┼' '┤'

/-- The fields of a row as the table shows them. -/
def fields (row : Row) : List String :=
  [row.path, row.methods, row.outcome.label, row.kind.getD "-", row.parentIdParam.getD "-"]

/-- The lines of a row. -/
def line (row : Row) : String :=
  cells (fields row)

/-- What stands behind the rows. -/
def closing : String :=
  rule '└' '┴' '┘' ++ "\n"

/-- What is written at a notice. -/
def entry : Notice → String
  | .opening paths filtered => opening paths filtered
  | .row row => line row
  | .closing => closing

/-- The table that the notices of a survey tell of. -/
def ofNotices (notices : List Notice) : String :=
  Text.join "" (notices.map entry)

/-- The table of a report. -/
def render (report : Report) : String :=
  ofNotices report.notices

end ApiKinds.Table
