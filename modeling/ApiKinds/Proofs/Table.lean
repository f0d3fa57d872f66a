/-
  The lines of a table, and its columns.

  * `linesOf_unlines`: lines that are written one below the other are found again.
  * `length_of_mem_cellLines`: the lines of any cells are of one width.
  * `columnDown_cellLines`: a column, read down the lines of some cells, is the field without its
    blanks.
  * `isTableOf_ofNotices`: both of the table of any rows.
-/
import ApiKinds.Table
import ApiKinds.Proofs.Wrap
import Mathlib

namespace ApiKinds.Table

open Text

/-! ## Lines of a text -/

/-- Lines one below the other, each with a line feed behind it. -/
def unlines (lines : List String) : String :=
  join "" (lines.map (· ++ "\n"))

/-- The lines of a text that ends in a line feed. -/
def linesOf (text : String) : List String :=
  (splitOn '\n' text).dropLast

theorem unlines_nil : unlines [] = "" :=
  rfl

theorem unlines_cons (first : String) (rest : List String) :
    unlines (first :: rest) = first ++ "\n" ++ unlines rest :=
  join_empty_cons ..

theorem unlines_append (above below : List String) :
    unlines (above ++ below) = unlines above ++ unlines below := by
  rw [unlines, List.map_append, join_empty_append, unlines, unlines]

theorem join_map_unlines {α : Type} (lines : α → List String) (items : List α) :
    join "" (items.map fun item => unlines (lines item)) = unlines (items.flatMap lines) := by
  induction items with
  | nil => rfl
  | cons item rest ih => rw [List.map_cons, join_empty_cons, ih, List.flatMap_cons, unlines_append]

theorem linesOf_unlines {lines : List String} (h : ∀ line ∈ lines, '\n' ∉ line.toList) :
    linesOf (unlines lines) = lines := by
  have hsplit : splitOn '\n' (unlines lines) = lines ++ [""] := by
    induction lines with
    | nil => rfl
    | cons first rest ih =>
      obtain ⟨hfirst, hrest⟩ := List.forall_mem_cons.1 h
      have hchars : unlines (first :: rest) =
          .ofList (first.toList ++ '\n' :: (unlines rest).toList) := by
        simp [← String.toList_inj, unlines_cons]
      rw [hchars, splitOn_append_cons, String.ofList_toList, String.ofList_toList, ih hrest,
        splitOn_of_not_mem hfirst]
      rfl
  rw [linesOf, hsplit, List.dropLast_concat]

/-! ## A line of cells -/

/-- A cell with the border behind it. -/
def cellText (cell : String × Nat) : List Char :=
  ' ' :: (padRight cell.2 cell.1).toList ++ [' ', '│']

/-- Cells between their borders. -/
def bordered (cells : List (String × Nat)) : String :=
  .ofList ('│' :: cells.flatMap cellText)

theorem cellLine_eq (cells : List (String × Nat)) : cellLine cells = bordered cells ++ "\n" := by
  have hcells : cells.flatMap cellText =
      cells.flatMap fun cell => ' ' :: ((padRight cell.2 cell.1).toList ++ [' ', '│']) := rfl
  simp [← String.toList_inj, cellLine, bordered, toList_join_empty, List.flatMap_map, hcells]

theorem toList_times (n : Nat) (c : Char) : (times n c).toList = List.replicate n c := by
  rw [times, String.toList_ofList]

theorem length_times (n : Nat) (c : Char) : (times n c).length = n := by
  rw [times, String.length_ofList, List.length_replicate]

theorem toList_padRight (width : Nat) (s : String) :
    (padRight width s).toList = s.toList ++ List.replicate (width - s.length) ' ' := by
  rw [padRight, String.toList_append, toList_times]

/-- Each cell fits its column. -/
def Fit (cells : List (String × Nat)) : Prop :=
  ∀ cell ∈ cells, cell.1.length ≤ cell.2

section
variable {cells : List (String × Nat)}

theorem length_padRight {cell : String × Nat} (h : cell.1.length ≤ cell.2) :
    (padRight cell.2 cell.1).toList.length = cell.2 := by
  rw [toList_padRight, List.length_append, List.length_replicate, String.length_toList]
  omega

theorem length_flatMap_cellText (h : Fit cells) :
    (cells.flatMap cellText).length = ((cells.map (·.2)).map (· + 3)).sum := by
  rw [List.length_flatMap, List.map_map]
  congr 1
  refine List.map_congr_left fun cell hcell => ?_
  rw [cellText, List.length_append, List.length_cons, length_padRight (h cell hcell)]
  rfl

theorem length_bordered (h : Fit cells) :
    (bordered cells).length = 1 + ((cells.map (·.2)).map (· + 3)).sum := by
  rw [bordered, String.length_ofList, List.length_cons, length_flatMap_cellText h, Nat.add_comm]

theorem not_mem_bordered (h : ∀ cell ∈ cells, '\n' ∉ cell.1.toList) :
    '\n' ∉ (bordered cells).toList := by
  rw [bordered, String.toList_ofList, List.mem_cons, List.mem_flatMap]
  rintro (hborder | ⟨cell, hcell, hmem⟩)
  · exact absurd hborder (by decide)
  · rw [cellText, toList_padRight] at hmem
    simp [h cell hcell] at hmem

/-! ## Columns -/

/-- Where the cells of a column start in a line. -/
def columnStart (k : Nat) : Nat :=
  2 + ((columnWidths.take k).map (· + 3)).sum

example : (List.range 5).map columnStart = [2, 39, 54, 75, 97] := by decide

/-- What stands in a column of a line. -/
def cellIn (k : Nat) (line : String) : List Char :=
  (line.toList.drop (columnStart k)).take (columnWidths[k]?.getD 0)

/-- A text without its blanks. -/
def inked (s : List Char) : List Char :=
  s.filter (· != ' ')

/-- What stands in a column of some lines, read downwards and without blanks. -/
def columnDown (k : Nat) (lines : List String) : List Char :=
  inked (lines.flatMap (cellIn k))

theorem cellIn_bordered {k : Nat} {cell : String × Nat} (h : Fit cells)
    (hwidths : cells.map (·.2) = columnWidths) (hk : cells[k]? = some cell) :
    cellIn k (bordered cells) = (padRight cell.2 cell.1).toList := by
  obtain ⟨hlt, hcell⟩ := List.getElem?_eq_some_iff.1 hk
  have hsplit : cells = cells.take k ++ cell :: cells.drop (k + 1) := by
    rw [← hcell, List.getElem_cons_drop, List.take_append_drop]
  have hwidth : columnWidths[k]?.getD 0 = cell.2 := by
    rw [← hwidths, List.getElem?_map, hk]
    rfl
  have hstart : ('│' :: (cells.take k).flatMap cellText ++ [' ']).length = columnStart k := by
    have hfront : Fit (cells.take k) := fun other hother => h other (List.mem_of_mem_take hother)
    rw [columnStart, ← hwidths, ← List.map_take, List.length_append, List.length_cons,
      length_flatMap_cellText hfront, List.length_singleton]
    omega
  -- A line is what stands before the column, the text of the cell, and what stands behind it.
  have hline : (bordered cells).toList = ('│' :: (cells.take k).flatMap cellText ++ [' ']) ++
      ((padRight cell.2 cell.1).toList ++
        ([' ', '│'] ++ (cells.drop (k + 1)).flatMap cellText)) := by
    conv_lhs => rw [bordered, String.toList_ofList, hsplit]
    simp [cellText]
  rw [cellIn, hline, hwidth, List.drop_left' hstart,
    List.take_left' (length_padRight (h cell (List.mem_of_getElem? hk)))]

end

/-! ## Lines of cells -/

/-- The lines of each field, with the width of its column. -/
def columns (fields : List String) : List (List String × Nat) :=
  (fields.zip columnWidths).map fun field => (wrap field.2 field.1, field.2)

/-- As many lines as the highest column has. -/
def height (fields : List String) : Nat :=
  ((columns fields).map (·.1.length)).foldl max 0

/-- The cells of a line, which are empty below the end of their column. -/
def cellsAt (fields : List String) (i : Nat) : List (String × Nat) :=
  (columns fields).map fun column => (column.1[i]?.getD "", column.2)

def cellLines (fields : List String) : List String :=
  (List.range (height fields)).map fun i => bordered (cellsAt fields i)

theorem cells_eq (fields : List String) : cells fields = unlines (cellLines fields) := by
  rw [unlines, cellLines, List.map_map]
  exact congrArg (join "") (List.map_congr_left fun i _ => cellLine_eq (cellsAt fields i))

section
variable {fields : List String}

theorem exists_of_mem_columns {column : List String × Nat} (h : column ∈ columns fields) :
    ∃ field ∈ fields, 0 < column.2 ∧ column.1 = wrap column.2 field := by
  obtain ⟨⟨field, width⟩, hmem, rfl⟩ := List.mem_map.1 h
  obtain ⟨hfield, hwidth⟩ := List.of_mem_zip hmem
  have hpos : ∀ width ∈ columnWidths, 0 < width := by decide
  exact ⟨field, hfield, hpos width hwidth, rfl⟩

/-- What stands in a cell is a line of its field, or nothing. -/
theorem exists_of_mem_cellsAt {i : Nat} {cell : String × Nat} (h : cell ∈ cellsAt fields i) :
    0 < cell.2 ∧ ∃ field ∈ fields, cell.1 = (wrap cell.2 field)[i]?.getD "" := by
  obtain ⟨column, hcolumn, rfl⟩ := List.mem_map.1 h
  obtain ⟨field, hfield, hpos, hlines⟩ := exists_of_mem_columns hcolumn
  exact ⟨hpos, field, hfield, by rw [hlines]⟩

theorem fit_cellsAt (fields : List String) (i : Nat) : Fit (cellsAt fields i) := by
  intro cell hcell
  obtain ⟨hpos, field, -, hline⟩ := exists_of_mem_cellsAt hcell
  rw [hline]
  cases hat : (wrap cell.2 field)[i]? with
  | none => exact Nat.zero_le _
  | some line => exact length_le_of_mem_wrap hpos line (List.mem_of_getElem? hat)

theorem widths_cellsAt (h : fields.length = 5) (i : Nat) :
    (cellsAt fields i).map (·.2) = columnWidths := by
  rw [cellsAt, columns, List.map_map, List.map_map]
  exact List.map_snd_zip (by rw [h]; rfl)

/-- **All lines of cells are of one width.** -/
theorem length_of_mem_cellLines (h : fields.length = 5) :
    ∀ line ∈ cellLines fields, line.length = 118 := by
  rw [cellLines, List.forall_mem_map]
  intro i _
  rw [length_bordered (fit_cellsAt fields i), widths_cellsAt h i]
  rfl

theorem not_mem_of_mem_cellLines (h : ∀ field ∈ fields, '\n' ∉ field.toList) :
    ∀ line ∈ cellLines fields, '\n' ∉ line.toList := by
  rw [cellLines, List.forall_mem_map]
  intro i _
  refine not_mem_bordered fun cell hcell => ?_
  obtain ⟨-, field, hfield, hline⟩ := exists_of_mem_cellsAt hcell
  rw [hline]
  cases hat : (wrap cell.2 field)[i]? with
  | none => simp
  | some line =>
    intro hmem
    refine h field hfield ?_
    rw [← flatMap_toList_wrap cell.2 field]
    exact List.mem_flatMap.2 ⟨line, List.mem_of_getElem? hat, hmem⟩

end

/-! ## Reading a column -/

theorem le_height {fields : List String} {column : List String × Nat}
    (h : column ∈ columns fields) : column.1.length ≤ height fields := by
  have hmax : (0 :: (columns fields).map (·.1.length)).max? = some (height fields) :=
    List.max?_cons'
  exact (List.max?_eq_some_iff.1 hmax).2 _ (List.mem_cons_of_mem _ (List.mem_map_of_mem h))

/-- Going through a list beyond its end adds what stands for a missing element. -/
theorem flatMap_range_getD {α β : Type} {missing : α} {f : α → List β} (h : f missing = [])
    {items : List α} {n : Nat} (hn : items.length ≤ n) :
    ((List.range n).flatMap fun i => f (items[i]?.getD missing)) = items.flatMap f := by
  induction items generalizing n with
  | nil => simp [h]
  | cons item rest ih =>
    obtain ⟨m, rfl⟩ := Nat.exists_eq_add_of_le' (Nat.one_le_of_lt hn)
    rw [List.range_succ_eq_map, List.flatMap_cons, List.flatMap_map, List.flatMap_cons,
      ← ih (Nat.le_of_succ_le_succ hn)]
    rfl

theorem inked_flatMap {α : Type} (items : List α) (f : α → List Char) :
    inked (items.flatMap f) = items.flatMap fun item => inked (f item) :=
  List.filter_flatMap ..

/-- The blanks behind the text of a cell are all that is added to it. -/
theorem inked_padRight (width : Nat) (s : String) :
    inked (padRight width s).toList = inked s.toList := by
  rw [toList_padRight, inked, List.filter_append, List.filter_replicate]
  simp [inked]

/-- **A column, read downwards, is the field**, up to blanks. -/
theorem columnDown_cellLines {fields : List String} {k : Nat} {field : String}
    (h : fields.length = 5) (hfield : fields[k]? = some field) :
    columnDown k (cellLines fields) = inked field.toList := by
  obtain ⟨hk, -⟩ := List.getElem?_eq_some_iff.1 hfield
  rw [h] at hk
  obtain ⟨width, hwidth⟩ : ∃ width, columnWidths[k]? = some width :=
    ⟨columnWidths[k], List.getElem?_eq_getElem hk⟩
  have hzip : (fields.zip columnWidths)[k]? = some (field, width) :=
    List.getElem?_zip_eq_some.2 ⟨hfield, hwidth⟩
  have hcolumn : (columns fields)[k]? = some (wrap width field, width) := by
    rw [columns, List.getElem?_map, hzip]
    rfl
  have hcell (i : Nat) : (cellsAt fields i)[k]? = some ((wrap width field)[i]?.getD "", width) := by
    rw [cellsAt, List.getElem?_map, hcolumn]
    rfl
  calc columnDown k (cellLines fields)
    _ = (List.range (height fields)).flatMap fun i =>
          inked (cellIn k (bordered (cellsAt fields i))) := by
      rw [columnDown, cellLines, List.flatMap_map, inked_flatMap]
    _ = (List.range (height fields)).flatMap fun i =>
          inked ((wrap width field)[i]?.getD "").toList := by
      refine List.flatMap_congr fun i _ => ?_
      rw [cellIn_bordered (fit_cellsAt fields i) (widths_cellsAt h i) (hcell i), inked_padRight]
    _ = (wrap width field).flatMap fun line => inked line.toList := by
      -- Below the last line of its field a column is blank.
      have hmissing : inked "".toList = [] := by rw [String.toList_empty, inked, List.filter_nil]
      have hheight : (wrap width field).length ≤ height fields :=
        le_height (List.mem_of_getElem? hcolumn)
      exact flatMap_range_getD (f := fun line : String => inked line.toList) hmissing hheight
    _ = inked field.toList := by
      rw [← inked_flatMap, flatMap_toList_wrap]

/-! ## Lines across the table -/

/-- A line as wide as the table, and only one. -/
structure IsLine (line : String) : Prop where
  length : line.length = 118
  unbroken : '\n' ∉ line.toList

theorem isLine_of_mem_cellLines {fields : List String} (h : fields.length = 5)
    (hfree : ∀ field ∈ fields, '\n' ∉ field.toList) : ∀ line ∈ cellLines fields, IsLine line :=
  fun line hline =>
    ⟨length_of_mem_cellLines h line hline, not_mem_of_mem_cellLines hfree line hline⟩

/-- A line with crossings at the borders of the columns. -/
def ruled (left joint right : Char) : String :=
  left.toString ++
    join joint.toString (columnWidths.map fun width => times (width + 2) '─') ++ right.toString

def upperBorder : String :=
  "┌" ++ times innerWidth '─' ++ "┐"

def titleBar : String :=
  let pad := innerWidth - title.length
  "│" ++ times (pad / 2) ' ' ++ title ++ times (pad - pad / 2) ' ' ++ "│"

theorem rule_eq (left joint right : Char) :
    rule left joint right = ruled left joint right ++ "\n" :=
  rfl

theorem titleLine_eq : titleLine = titleBar ++ "\n" := by
  have hend : "│\n" = "│" ++ "\n" := rfl
  rw [titleLine, hend, ← String.append_assoc]
  rfl

theorem toList_ruled (left joint right : Char) :
    (ruled left joint right).toList = left ::
      List.intercalate [joint] (columnWidths.map fun width => List.replicate (width + 2) '─') ++
        [right] := by
  simp [ruled, join, toList_times, Function.comp_def]

theorem length_ruled (left joint right : Char) : (ruled left joint right).length = 118 := by
  rw [← String.length_toList, toList_ruled]
  simp only [columnWidths, List.map_cons, List.map_nil, List.intercalate_cons_cons,
    List.intercalate_singleton, List.length_append, List.length_cons, List.length_nil,
    List.length_replicate]

theorem isLine_ruled {left joint right : Char} (hleft : '\n' ≠ left) (hjoint : '\n' ≠ joint)
    (hright : '\n' ≠ right) : IsLine (ruled left joint right) := by
  refine ⟨length_ruled left joint right, ?_⟩
  rw [toList_ruled]
  simp only [columnWidths, List.map_cons, List.map_nil, List.intercalate_cons_cons,
    List.intercalate_singleton, List.mem_append, List.mem_cons, List.not_mem_nil,
    List.mem_replicate]
  simp [hleft, hjoint, hright]

theorem isLine_upperBorder : IsLine upperBorder := by
  constructor
  · rw [upperBorder, String.length_append, String.length_append, length_times]
    rfl
  · simp [upperBorder, toList_times]

theorem isLine_titleBar : IsLine titleBar := by
  have htitle : '\n' ∉ title.toList := by decide
  constructor
  · simp only [titleBar, String.length_append, length_times]
    rfl
  · simp [titleBar, toList_times, htitle]

/-! ## The table -/

/-- The lines above the rows, from the upper border on. -/
def headLines : List String :=
  [upperBorder, titleBar, ruled '├' '┬' '┤'] ++ cellLines headings ++ [ruled '├' '┼' '┤']

/-- The lines of a table between the blank ones above and below it. -/
def boxLines (rows : List Row) : List String :=
  headLines ++ rows.flatMap (fun row => linesOf (line row)) ++ [ruled '└' '┴' '┘']

/-- What is said above the table. -/
def noteLines (paths filtered : Nat) : List String :=
  if filtered = 0 then [] else [s!"Filtering: {filtered} of {paths} paths excluded by filter"]

theorem filterNote_eq (paths filtered : Nat) :
    filterNote paths filtered = unlines (noteLines paths filtered) := by
  rw [filterNote, noteLines]
  split
  · rfl
  · rw [unlines_cons, unlines_nil, String.append_empty]
    simp only [String.append_assoc]
    rfl

theorem opening_eq (paths filtered : Nat) :
    opening paths filtered = unlines (noteLines paths filtered ++ "" :: headLines) := by
  have hstart : "\n┌" = "" ++ "\n" ++ "┌" := rfl
  have hend : "┐\n" = "┐" ++ "\n" := rfl
  rw [opening, filterNote_eq, cells_eq, rule_eq, rule_eq, titleLine_eq, headLines, upperBorder,
    hstart, hend]
  simp only [unlines_append, unlines_cons, unlines_nil, List.cons_append, List.nil_append,
    String.append_assoc, String.append_empty]

theorem closing_eq : closing = unlines [ruled '└' '┴' '┘', ""] := by
  rw [closing, rule_eq, unlines_cons, unlines_cons, unlines_nil, String.append_empty,
    String.empty_append]

theorem isLine_of_mem_headLines : ∀ line ∈ headLines, IsLine line := by
  have hheadings : ∀ field ∈ headings, '\n' ∉ field.toList := by decide
  simp only [headLines, List.forall_mem_append, List.forall_mem_cons]
  refine ⟨⟨⟨isLine_upperBorder, isLine_titleBar, ?_, by rintro _ ⟨⟩⟩,
    isLine_of_mem_cellLines rfl hheadings⟩, ?_, by rintro _ ⟨⟩⟩
  · exact isLine_ruled (by decide) (by decide) (by decide)
  · exact isLine_ruled (by decide) (by decide) (by decide)

theorem not_mem_toDigits (n : Nat) : '\n' ∉ Nat.toDigits 10 n := by
  intro h
  have hdigit := Nat.isDigit_of_mem_toDigits (b := 10) (by decide) (by decide) h
  exact absurd hdigit (by decide)

theorem not_mem_of_mem_noteLines (paths filtered : Nat) :
    ∀ line ∈ noteLines paths filtered, line ≠ "" ∧ '\n' ∉ line.toList := by
  rw [noteLines]
  split
  · simp
  · have htext : s!"Filtering: {filtered} of {paths} paths excluded by filter" =
        "Filtering: " ++ toString filtered ++ " of " ++ toString paths ++
          " paths excluded by filter" := rfl
    rw [List.forall_mem_singleton, htext]
    refine ⟨?_, ?_⟩
    · simp
    · simp [not_mem_toDigits]

/-! ## Rows -/

/-- No text of a row has a line feed. -/
structure Unbroken (row : Row) : Prop where
  path : '\n' ∉ row.path.toList
  methods : '\n' ∉ row.methods.toList
  kind : ∀ kind ∈ row.kind, '\n' ∉ kind.toList
  parentIdParam : ∀ param ∈ row.parentIdParam, '\n' ∉ param.toList

theorem not_mem_label (outcome : Outcome) : '\n' ∉ outcome.label.toList := by
  cases outcome with
  | filtered reason => cases reason <;> decide
  | _ => decide

theorem not_mem_getD {text : Option String} (h : ∀ s ∈ text, '\n' ∉ s.toList) :
    '\n' ∉ (text.getD "-").toList := by
  cases text with
  | none => decide
  | some s => exact h s rfl

theorem Unbroken.not_mem_field {row : Row} (h : Unbroken row) :
    ∀ field ∈ fields row, '\n' ∉ field.toList := by
  simp only [fields, List.forall_mem_cons]
  exact ⟨h.path, h.methods, not_mem_label row.outcome, not_mem_getD h.kind,
    not_mem_getD h.parentIdParam, by rintro _ ⟨⟩⟩

/-- The lines of a row are those of its fields. -/
theorem Unbroken.linesOf_line {row : Row} (h : Unbroken row) :
    linesOf (line row) = cellLines (fields row) := by
  rw [line, cells_eq, linesOf_unlines (not_mem_of_mem_cellLines h.not_mem_field)]

theorem ofNotices_cons (notice : Notice) (rest : List Notice) :
    ofNotices (notice :: rest) = entry notice ++ ofNotices rest :=
  join_empty_cons ..

theorem ofNotices_append (before after : List Notice) :
    ofNotices (before ++ after) = ofNotices before ++ ofNotices after := by
  rw [ofNotices, List.map_append, join_empty_append, ofNotices, ofNotices]

theorem ofNotices_rows {rows : List Row} (h : ∀ row ∈ rows, Unbroken row) :
    ofNotices (rows.map .row) = unlines (rows.flatMap fun row => linesOf (line row)) := by
  rw [ofNotices, List.map_map, ← join_map_unlines]
  refine congrArg (join "") (List.map_congr_left fun row hrow => ?_)
  rw [(h row hrow).linesOf_line, ← cells_eq]
  rfl

/-- The lines of the whole table. -/
theorem ofNotices_eq {rows : List Row} (h : ∀ row ∈ rows, Unbroken row) (paths filtered : Nat) :
    ofNotices (.opening paths filtered :: rows.map .row ++ [.closing]) =
      unlines (noteLines paths filtered ++ [""] ++ boxLines rows ++ [""]) := by
  have hopening : entry (.opening paths filtered) =
      unlines (noteLines paths filtered ++ [""] ++ headLines) := by
    rw [List.append_assoc]
    exact opening_eq paths filtered
  have hclosing : ofNotices [.closing] = unlines ([ruled '└' '┴' '┘'] ++ [""]) := by
    rw [ofNotices_cons]
    exact (String.append_empty).trans closing_eq
  rw [ofNotices_append, ofNotices_cons, ofNotices_rows h, hopening, hclosing, ← unlines_append,
    ← unlines_append, boxLines]
  simp only [List.append_assoc]

theorem isLine_of_mem_boxLines {rows : List Row} (h : ∀ row ∈ rows, Unbroken row) :
    ∀ line ∈ boxLines rows, IsLine line := by
  simp only [boxLines, List.forall_mem_append, List.forall_mem_singleton, List.forall_mem_flatMap]
  refine ⟨⟨isLine_of_mem_headLines, fun row hrow => ?_⟩, ?_⟩
  · rw [(h row hrow).linesOf_line]
    exact isLine_of_mem_cellLines rfl (h row hrow).not_mem_field
  · exact isLine_ruled (by decide) (by decide) (by decide)

/-- What the lines of the table of some rows are. -/
structure IsTableOf (rows : List Row) (paths filtered : Nat) (lines : List String) : Prop where
  lines_eq : lines = linesOf (filterNote paths filtered) ++ [""] ++ boxLines rows ++ [""]
  /-- The blank line above the table is the first one. -/
  note_ne_empty : "" ∉ linesOf (filterNote paths filtered)
  length_eq : ∀ line ∈ boxLines rows, line.length = 118
  column_eq : ∀ row ∈ rows, ∀ k field, (fields row)[k]? = some field →
    columnDown k (linesOf (line row)) = inked field.toList

/-- **A table is rectangular, and faithful to its rows**: between the blank lines above and below
    it every line has the same number of characters, and each column of the lines of a row is, up
    to blanks, the field of the row. -/
theorem isTableOf_ofNotices {rows : List Row} (h : ∀ row ∈ rows, Unbroken row)
    (paths filtered : Nat) :
    IsTableOf rows paths filtered
      (linesOf (ofNotices (.opening paths filtered :: rows.map .row ++ [.closing]))) := by
  have hnote := not_mem_of_mem_noteLines paths filtered
  have hbox := isLine_of_mem_boxLines h
  have hfilterNote : linesOf (filterNote paths filtered) = noteLines paths filtered := by
    rw [filterNote_eq, linesOf_unlines fun line hline => (hnote line hline).2]
  have hlines : ∀ line ∈ noteLines paths filtered ++ [""] ++ boxLines rows ++ [""],
      '\n' ∉ line.toList := by
    simp only [List.forall_mem_append, List.forall_mem_singleton]
    exact ⟨⟨⟨fun line hline => (hnote line hline).2, by decide⟩,
      fun line hline => (hbox line hline).unbroken⟩, by decide⟩
  refine ⟨?_, ?_, fun line hline => (hbox line hline).length, fun row hrow k field hfield => ?_⟩
  · rw [ofNotices_eq h, linesOf_unlines hlines, hfilterNote]
  · rw [hfilterNote]
    exact fun hempty => (hnote "" hempty).1 rfl
  · rw [(h row hrow).linesOf_line]
    exact columnDown_cellLines rfl hfield

/-- A row with two fields too wide for their columns, and without a Kind. -/
def instancesRow : Row :=
  ⟨"/sharedmem/classes/{className}/instances", "GET ~DELETE(dropAll)~", .skipped, none,
    some "className"⟩

theorem isTableOf_instancesRow : (∀ row ∈ [instancesRow], Unbroken row) ∧
    linesOf (line instancesRow) =
      ["│ /sharedmem/classes/{className}/    │ GET ~DELETE( │ Skipped            │ -                   │ className           │",
        "│ instances                          │ dropAll)~    │                    │                     │                     │"] ∧
    IsTableOf [instancesRow] 3 1
      (linesOf (ofNotices [.opening 3 1, .row instancesRow, .closing])) := by
  have hrows : ∀ row ∈ [instancesRow], Unbroken row := by
    rw [List.forall_mem_singleton]
    refine ⟨by decide, by decide, by rintro _ ⟨⟩, ?_⟩
    rintro _ ⟨⟩
    decide
  refine ⟨hrows, ?_, isTableOf_ofNotices hrows 3 1⟩
  rw [(hrows _ (List.mem_singleton_self _)).linesOf_line]
  cbv

end ApiKinds.Table
