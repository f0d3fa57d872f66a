/-
  Positions in a YAML text.

  * `isAllowed`, `isBlank`, `isBreak`, `isWordChar`: the classes of characters.
  * `Cursor`: what is left of the text, with line and column.
  * `Cursor.lineBreak?`: a line break is one character whatever it is written as; all
    but the Unicode separators are read as a line feed.
  * `Gap`: blanks and line breaks between two words of a scalar, and the text they
    stand for when lines are folded.
-/

namespace ApiKinds.Yaml

/-! ## Characters -/

/-- Whether a text may contain the character at all. -/
def isAllowed (c : Char) : Bool :=
  let n := c.toNat
  n == 0x09 || n == 0x0A || n == 0x0D || (0x20 ≤ n && n ≤ 0x7E) || n == 0x85 ||
    (0xA0 ≤ n && n ≤ 0xFFFD) || 0x10000 ≤ n

def isBlank (c : Char) : Bool :=
  c == ' ' || c == '\t'

/-- The line separator and the paragraph separator. -/
def isSeparator (c : Char) : Bool :=
  c.toNat == 0x2028 || c.toNat == 0x2029

def isBreak (c : Char) : Bool :=
  c == '\n' || c == '\r' || c.toNat == 0x85 || isSeparator c

def isBlankOrBreak (c : Char) : Bool :=
  isBlank c || isBreak c

/-- The characters of anchors and directives. -/
def isWordChar (c : Char) : Bool :=
  c.isAlphanum || c == '_' || c == '-'

/-- The characters between which the items of a flow collection stand. -/
def isFlowIndicator (c : Char) : Bool :=
  c == ',' || c == '[' || c == ']' || c == '\x7b' || c == '\x7d'

/-- Whether a text starts with a blank or a line break, or is over. -/
def startsBlank : List Char → Bool
  | [] => true
  | c :: _ => isBlankOrBreak c

/-! ## Cursors -/

/-- A position in a text. -/
structure Cursor where
  /-- What is left of the text. -/
  rest : List Char
  /-- The number of characters before. -/
  index : Nat := 0
  line : Nat := 0
  column : Nat := 0

namespace Cursor

/-- Passes over characters of the same line. -/
def skip (n : Nat) (c : Cursor) : Cursor :=
  { c with rest := c.rest.drop n, index := c.index + n, column := c.column + n }

/-- The start of the next line, behind a break of `n` characters. -/
def nextLine (n : Nat) (c : Cursor) : Cursor :=
  { rest := c.rest.drop n, index := c.index + n, line := c.line + 1 }

/-- A line break with the position behind it. -/
def lineBreak? (c : Cursor) : Option (Char × Cursor) :=
  match c.rest with
  | '\r' :: '\n' :: _ => some ('\n', c.nextLine 2)
  | b :: _ =>
    if isSeparator b then some (b, c.nextLine 1)
    else if isBreak b then some ('\n', c.nextLine 1)
    else none
  | [] => none

/-- Behind the characters of this line that satisfy `p`. -/
def skipWhile (p : Char → Bool) (c : Cursor) : Cursor :=
  c.skip (c.rest.takeWhile p).length

/-- The characters of this line that satisfy `p`, and the position behind them. -/
def readWhile (p : Char → Bool) (c : Cursor) : List Char × Cursor :=
  (c.rest.takeWhile p, c.skipWhile p)

/-- Whether the line is over. -/
def atLineEnd (c : Cursor) : Bool :=
  match c.rest with
  | [] => true
  | b :: _ => isBreak b

/-- Behind a comment, if there is one. -/
def skipComment (c : Cursor) : Cursor :=
  if c.rest.head? = some '#' then c.skipWhile (!isBreak ·) else c

/-- Behind the line break, if there is one. -/
def skipBreak (c : Cursor) : Cursor :=
  match c.lineBreak? with
  | some (_, next) => next
  | none => c

/-- The start of the next line, when nothing but blanks and a comment is left on this
    one. -/
def finishLine? (c : Cursor) : Option Cursor :=
  let c := (c.skipWhile isBlank).skipComment
  if c.atLineEnd then some c.skipBreak else none

/-- Whether three characters at the start of a line separate documents. -/
def atMarker (c : Cursor) (marker : List Char) : Bool :=
  c.column == 0 && marker.isPrefixOf c.rest && startsBlank (c.rest.drop 3)

/-- Whether documents are separated here. -/
def atDocumentMarker (c : Cursor) : Bool :=
  c.atMarker ['-', '-', '-'] || c.atMarker ['.', '.', '.']

end Cursor

/-! ## Gaps -/

/-- What stands between two words of a scalar. -/
structure Gap where
  /-- The blanks, if there is no line break; the last one first. -/
  blanks : List Char := []
  /-- There is a line break, which may be escaped. -/
  broken : Bool := false
  /-- The first line break that is not escaped. -/
  first : Option Char := none
  /-- The line breaks behind it, the last one first. -/
  others : List Char := []

namespace Gap

/-- The text that a gap stands for: a single line feed is a blank, of several the first
    is left out. -/
def text (gap : Gap) : List Char :=
  if gap.broken then
    match gap.first with
    | some '\n' => if gap.others.isEmpty then [' '] else gap.others.reverse
    | some b => b :: gap.others.reverse
    | none => gap.others.reverse
  else gap.blanks.reverse

/-- A blank more. -/
def blank (gap : Gap) (b : Char) : Gap :=
  if gap.broken then gap else { gap with blanks := b :: gap.blanks }

/-- A line break more. -/
def lineBreak (gap : Gap) (b : Char) : Gap :=
  if gap.broken then { gap with others := b :: gap.others }
  else { broken := true, first := some b }

/-- Goes on to the next word. On a new line no tab may stand before the column of the
    text. -/
def read? (column : Nat) : Nat → Gap → Cursor → Option (Gap × Cursor)
  | 0, _, _ => none
  | fuel + 1, gap, c =>
    match c.lineBreak? with
    | some (b, next) => read? column fuel (gap.lineBreak b) next
    | none =>
      match c.rest with
      | b :: _ =>
        if isBlank b then
          if b = '\t' ∧ gap.broken ∧ c.column < column then none
          else read? column fuel (gap.blank b) (c.skip 1)
        else some (gap, c)
      | [] => some (gap, c)

end Gap

end ApiKinds.Yaml
