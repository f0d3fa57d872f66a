/-
  Scalars of YAML as they are written.

  * `plain?`: without quotes; it ends before a comment, an indicator or a line that
    is indented less.
  * `singleQuoted?`, `doubleQuoted?`: between quotes; lines are folded.
  * `blockScalar?`: the indented lines behind `|` or `>`, with the line breaks at its
    end kept or dropped as its header says.

  The fuel of each is more than the number of characters left.
-/
import ApiKinds.Text.Basic
import ApiKinds.Yaml.Cursor

namespace ApiKinds.Yaml

open Text

/-! ## Plain scalars -/

/-- Whether a plain scalar ends before the text. -/
def endsPlain (inFlow : Bool) : List Char → Bool
  | [] => true
  | c :: rest =>
    isBlankOrBreak c || (c == ':' && startsBlank rest) || (inFlow && isFlowIndicator c)

/-- Whether the text is a colon that a flow collection does not allow inside a plain
    scalar. -/
def isStrayColon : List Char → Bool
  | ':' :: c :: _ => c == '?' || isFlowIndicator c
  | _ => false

/-- The next word of a plain scalar. -/
def plainWord? (inFlow : Bool) : List Char → Option (List Char)
  | [] => some []
  | c :: rest =>
    if inFlow && isStrayColon (c :: rest) then none
    else if endsPlain inFlow (c :: rest) then some []
    else (plainWord? inFlow rest).map (c :: ·)

/-- A plain scalar: its text, whether lines were begun behind it, and where it ends. -/
structure PlainScalar where
  /-- The last character first. -/
  reversed : List Char
  lineBegun : Bool
  cursor : Cursor

/-- The words of a plain scalar whose lines start at a column or behind it. -/
def plainFrom? (inFlow : Bool) (column : Nat) :
    Nat → List Char → Gap → Cursor → Option PlainScalar
  | 0, _, _, _ => none
  | fuel + 1, reversed, gap, c =>
    if c.atDocumentMarker || c.rest.head? = some '#' then some ⟨reversed, gap.broken, c⟩
    else do
      let word ← plainWord? inFlow c.rest
      if word.isEmpty then some ⟨reversed, gap.broken, c⟩
      else
        let c := c.skip word.length
        let reversed := word.reverse ++ gap.text.reverse ++ reversed
        let (gap, next) ← Gap.read? column fuel {} c
        if gap.blanks.isEmpty && !gap.broken then some ⟨reversed, false, c⟩
        else if !inFlow && next.column < column then some ⟨reversed, gap.broken, next⟩
        else plainFrom? inFlow column fuel reversed gap next

/-- The plain scalar at a position. -/
def plain? (inFlow : Bool) (column fuel : Nat) (c : Cursor) : Option PlainScalar :=
  plainFrom? inFlow column fuel [] {} c

/-! ## Quoted scalars -/

/-- The number written by hexadecimal digits. -/
def hexValue? (digits : List Char) : Option Nat :=
  (digits.mapM hexDigit?).map fun values => values.foldl (fun n d => 16 * n + d) 0

/-- The characters that stand for one other behind a backslash. -/
def shortEscapes : List (Char × Nat) :=
  [('0', 0x00), ('a', 0x07), ('b', 0x08), ('t', 0x09), ('\t', 0x09), ('n', 0x0A), ('v', 0x0B),
    ('f', 0x0C), ('r', 0x0D), ('e', 0x1B), (' ', 0x20), ('"', 0x22), ('/', 0x2F), ('\\', 0x5C),
    ('N', 0x85), ('_', 0xA0), ('L', 0x2028), ('P', 0x2029)]

/-- The letters behind which a code point has so many hexadecimal digits. -/
def longEscapes : List (Char × Nat) :=
  [('x', 2), ('u', 4), ('U', 8)]

/-- The character of an escape, and the length of what is behind the backslash. -/
def escape? (rest : List Char) : Option (Char × Nat) := do
  let letter ← rest.head?
  match shortEscapes.lookup letter with
  | some code => some (.ofNat code, 1)
  | none =>
    let width ← longEscapes.lookup letter
    let digits := (rest.drop 1).take width
    let code ← hexValue? digits
    if digits.length = width ∧ code.isValidChar then some (.ofNat code, width + 1) else none

/-- A part of a quoted scalar without blanks. -/
structure QuotedWord where
  /-- The last character first. -/
  reversed : List Char
  /-- It ends in an escaped line break. -/
  escapedBreak : Bool
  cursor : Cursor

/-- The next word between single quotes. -/
def singleWord : Nat → List Char → Cursor → QuotedWord
  | 0, reversed, c => ⟨reversed, false, c⟩
  | fuel + 1, reversed, c =>
    match c.rest with
    | [] => ⟨reversed, false, c⟩
    | [b] =>
      if b.toNat = 0x27 ∨ isBlankOrBreak b then ⟨reversed, false, c⟩
      else singleWord fuel (b :: reversed) (c.skip 1)
    | b :: next :: _ =>
      if b.toNat = 0x27 then
        if next.toNat = 0x27 then singleWord fuel (b :: reversed) (c.skip 2)
        else ⟨reversed, false, c⟩
      else if isBlankOrBreak b then ⟨reversed, false, c⟩
      else singleWord fuel (b :: reversed) (c.skip 1)

/-- The next word between double quotes. -/
def doubleWord? : Nat → List Char → Cursor → Option QuotedWord
  | 0, _, _ => none
  | fuel + 1, reversed, c =>
    match c.rest with
    | [] => some ⟨reversed, false, c⟩
    | b :: rest =>
      if b = '"' ∨ isBlankOrBreak b then some ⟨reversed, false, c⟩
      else if b = '\\' then
        match (c.skip 1).lineBreak? with
        | some (_, next) => some ⟨reversed, true, next⟩
        | none => do
          let (char, length) ← escape? rest
          doubleWord? fuel (char :: reversed) (c.skip (length + 1))
      else doubleWord? fuel (b :: reversed) (c.skip 1)

/-- The rest of a quoted scalar, whose words are read by `word?`; the text and the
    position behind its closing quote. -/
def quotedFrom? (quote : Nat) (word? : Nat → Cursor → Option QuotedWord) :
    Nat → List Char → Cursor → Option (List Char × Cursor)
  | 0, _, _ => none
  | fuel + 1, reversed, c =>
    if c.atDocumentMarker then none
    else do
      let word ← word? fuel c
      let reversed := word.reversed ++ reversed
      match word.cursor.rest with
      | [] => none
      | b :: _ =>
        if b.toNat = quote then some (reversed.reverse, word.cursor.skip 1)
        else
          let (gap, next) ← Gap.read? 0 fuel { broken := word.escapedBreak } word.cursor
          quotedFrom? quote word? fuel (gap.text.reverse ++ reversed) next

/-- The scalar behind an opening single quote. -/
def singleQuoted? (fuel : Nat) (c : Cursor) : Option (List Char × Cursor) :=
  quotedFrom? 0x27 (fun fuel c => some (singleWord fuel [] c)) fuel [] c

/-- The scalar behind an opening double quote. -/
def doubleQuoted? (fuel : Nat) (c : Cursor) : Option (List Char × Cursor) :=
  quotedFrom? 0x22 (doubleWord? · []) fuel [] c

/-! ## Block scalars -/

/-- What becomes of the line breaks at the end of a block scalar. -/
inductive Chomping where
  /-- The last line keeps its break. -/
  | clip
  /-- All are kept. -/
  | keep
  /-- None is. -/
  | strip
deriving DecidableEq

/-- The header of a block scalar. -/
structure BlockHeader where
  chomping : Chomping := .clip
  /-- The indentation, if it is given. -/
  indent : Option Nat := none

/-- The sign for how a block scalar ends. -/
def chomping? : Char → Option Chomping
  | '+' => some .keep
  | '-' => some .strip
  | _ => none

/-- The digit for an indentation. -/
def indentDigit? (c : Char) : Option Nat :=
  if c.isDigit then some (c.toNat - 0x30) else none

/-- A part of the header, if it is there. -/
def headerPart {α : Type} (part? : Char → Option α) (c : Cursor) : Option α × Cursor :=
  match c.rest.head?.bind part? with
  | some a => (some a, c.skip 1)
  | none => (none, c)

/-- The header behind the indicator: sign and digit in either order. -/
def blockHeader? (c : Cursor) : Option (BlockHeader × Cursor) :=
  let (sign, afterSign) := headerPart chomping? c
  let (digit, afterDigit) := headerPart indentDigit? afterSign
  let (lateSign, last) :=
    if sign.isNone && digit.isSome then headerPart chomping? afterDigit else (none, afterDigit)
  if digit = some 0 then none
  else some (⟨(sign <|> lateSign).getD .clip, digit⟩, last)

/-- Goes over empty lines up to the indentation, or, while that is open, over all
    blanks; gives the line breaks, the last one first, the greatest column reached, and
    where it stops. -/
def emptyLines? (indent : Option Nat) :
    Nat → List Char → Nat → Cursor → Option (List Char × Nat × Cursor)
  | 0, _, _, _ => none
  | fuel + 1, breaks, greatest, c =>
    let blanks := (c.rest.takeWhile (· == ' ')).length
    let c := c.skip (match indent with
      | none => blanks
      | some n => min blanks (n - c.column))
    let greatest := max greatest c.column
    let isShort := match indent with
      | none => true
      | some n => decide (c.column < n)
    if isShort && c.rest.head? = some '\t' then none
    else
      match c.lineBreak? with
      | some (b, next) => emptyLines? indent fuel (b :: breaks) greatest next
      | none => some (breaks, greatest, c)

/-- The lines of a block scalar read so far. -/
structure BlockText where
  /-- The last character first. -/
  reversed : List Char := []
  /-- The break of the last line that is not empty. -/
  lineBreak : Option Char := none
  /-- The breaks of the empty lines behind it, the last one first. -/
  breaks : List Char
  /-- The last line that is not empty starts with a blank. -/
  startsBlank : Bool := false

namespace BlockText

/-- The text before another line: when lines are folded, the break between two of them
    is a blank, unless one is indented further. -/
def joined (folded : Bool) (text : BlockText) (nextBlank : Bool) : List Char :=
  if folded && text.lineBreak = some '\n' && !text.startsBlank && !nextBlank then
    text.breaks ++ (if text.breaks.isEmpty then [' '] else []) ++ text.reversed
  else text.breaks ++ text.lineBreak.toList ++ text.reversed

/-- The whole text. -/
def finish (chomping : Chomping) (text : BlockText) : List Char :=
  match chomping with
  | .strip => text.reversed.reverse
  | .clip => (text.lineBreak.toList ++ text.reversed).reverse
  | .keep => (text.breaks ++ text.lineBreak.toList ++ text.reversed).reverse

end BlockText

/-- The lines of a block scalar with an indentation. -/
def blockLines? (folded : Bool) (indent : Nat) :
    Nat → BlockText → Cursor → Option (BlockText × Cursor)
  | 0, _, _ => none
  | fuel + 1, text, c =>
    match c.rest with
    | [] => some (text, c)
    | b :: _ =>
      if c.column = indent then do
        let (line, next) := c.readWhile (!isBreak ·)
        let before := text.joined folded (isBlank b)
        let after := next.lineBreak?
        let next := next.skipBreak
        let (breaks, _, next) ← emptyLines? (some indent) fuel [] 0 next
        blockLines? folded indent fuel
          { reversed := line.reverse ++ before
            lineBreak := after.map (·.1)
            breaks := breaks
            startsBlank := isBlank b } next
      else some (text, c)

/-- The block scalar behind its indicator; `level` is the least indentation. -/
def blockScalar? (folded : Bool) (level fuel : Nat) (c : Cursor) :
    Option (List Char × Cursor) := do
  let (header, c) ← blockHeader? c
  let c ← c.finishLine?
  let given := header.indent.map fun n => max level 1 + n - 1
  let (breaks, greatest, c) ← emptyLines? given fuel [] 0 c
  let indent := given.getD (max (max greatest level) 1)
  let (text, c) ← blockLines? folded indent fuel { breaks := breaks } c
  some (text.finish header.chomping, c)

end ApiKinds.Yaml
