/-
  The text of YAML collections in block style, as it stands for a key that is no
  scalar.

  * `scalarText`: a text is written plain where that is safe, with line breaks as an
    indented block, and otherwise between quotes.
  * `Value.blockText`: items behind dashes, pairs with a colon, each level indented by
    two blanks. The items of a sequence stand at the column of their key.
-/
import ApiKinds.Text.Case
import ApiKinds.Yaml.Literal

namespace ApiKinds.Yaml

open Text

/-! ## Numbers -/

/-- Doubles in YAML text have an exponent without a plus sign. -/
def numberStyle : NumberStyle := ⟨false, 1⟩

/-- The text of a number. -/
def numberText : Json.Number → String
  | .int i => toString i
  | .real x =>
    if x.isFinite then numberStyle.write x
    else if isNotANumber x then ".nan"
    else if x.isNegative then "-.inf"
    else ".inf"

/-! ## What a text allows -/

/-- Whether a character is shown as it is. -/
def isShown (c : Char) : Bool :=
  let n := c.toNat
  n == 0x0A || (0x20 ≤ n && n ≤ 0x7E) || (0xA0 ≤ n && n != 0xFEFF && n != 0xFFFE && n != 0xFFFF)

/-- Whether a plain text in a block may not begin so. -/
def startsUnsafe : List Char → Bool
  | [] => false
  | c :: rest =>
    ['#', ',', '[', ']', '\x7b', '\x7d', '&', '*', '!', '|', '>', '"', '%', '@'].contains c ||
      c.toNat == 0x27 || c.toNat == 0x60 ||
      (['?', ':', '-'].contains c && startsBlank rest)

/-- Whether a comment or a value seems to begin inside a text, behind a character. -/
def hasIndicator (previous : Char) : List Char → Bool
  | [] => false
  | c :: rest =>
    (c == ':' && startsBlank rest) || (c == '#' && isBlankOrBreak previous) ||
      hasIndicator c rest

/-- Whether a blank stands before or behind a break, as `first` and `second` say. -/
def hasNeighbours (first second : Char → Bool) : List Char → Bool
  | a :: b :: rest => (first a && second b) || hasNeighbours first second (b :: rest)
  | _ => false

def isSpace (c : Char) : Bool := c == ' '

/-- What a text allows. -/
structure Allowance where
  plain : Bool
  singleQuoted : Bool
  block : Bool

/-- In which ways a text that is not empty may be written. -/
def allowance (s : List Char) : Allowance :=
  let edge := fun (p : Char → Bool) => s.head?.any p || s.getLast?.any p
  let breakSpace := hasNeighbours isBreak isSpace s
  let bad := hasNeighbours isSpace isBreak s || s.any (!isShown ·)
  let indicators := startsUnsafe s || ['-', '-', '-'].isPrefixOf s || ['.', '.', '.'].isPrefixOf s ||
    (match s with
      | [] => false
      | c :: rest => hasIndicator c rest)
  { plain := !(edge isSpace || s.any isBreak || bad || indicators)
    singleQuoted := !(breakSpace || bad)
    block := !(s.getLast?.any isSpace || bad) }

/-! ## Scalars -/

/-- Whether a text without quotes would be read as something else. -/
def isAmbiguous (s : String) : Bool :=
  isPaddedDigits s.toList ||
    match plainValue? s with
    | some (.string _) => false
    | _ => true

/-- A line break with an indentation. -/
def newline (indent : Nat) : List Char :=
  '\n' :: List.replicate indent ' '

/-- Puts an indentation behind each run of line breaks. -/
def indentBreaks (indent : Nat) : List Char → List Char
  | [] => []
  | c :: rest =>
    if isBreak c && !rest.head?.any isBreak then
      c :: List.replicate indent ' ' ++ indentBreaks indent rest
    else c :: indentBreaks indent rest

/-- A text between single quotes. -/
def singleQuotedText (indent : Nat) (s : List Char) : List Char :=
  let quote := Char.ofNat 0x27
  let doubled := s.flatMap fun c => if c = quote then [c, c] else [c]
  quote :: indentBreaks indent doubled ++ [quote]

/-- Hexadecimal digits up to a width. -/
def paddedHex (width n : Nat) : List Char :=
  let digits := (hexText n).map Char.toUpper
  List.replicate (width - digits.length) '0' ++ digits

/-- The letters behind a backslash. -/
def writtenEscapes : List (Nat × Char) :=
  [(0x00, '0'), (0x07, 'a'), (0x08, 'b'), (0x09, 't'), (0x0A, 'n'), (0x0B, 'v'), (0x0C, 'f'),
    (0x0D, 'r'), (0x1B, 'e'), (0x22, '"'), (0x5C, '\\'), (0x85, 'N'), (0xA0, '_'), (0x2028, 'L'),
    (0x2029, 'P')]

/-- A character that is escaped between double quotes. -/
def escapeText (c : Char) : List Char :=
  let n := c.toNat
  '\\' :: match writtenEscapes.lookup n with
    | some letter => [letter]
    | none =>
      if n ≤ 0xFF then 'x' :: paddedHex 2 n else 'u' :: paddedHex 4 n

/-- A text between double quotes. -/
def doubleQuotedText (s : List Char) : List Char :=
  let escaped := s.flatMap fun c =>
    if !isShown c || isBreak c || c == '"' || c == '\\' then escapeText c
    else [c]
  '"' :: escaped ++ ['"']

/-- How the breaks at the end of a block are kept. -/
def chompingSign (s : List Char) : List Char :=
  match s.reverse with
  | [] => ['-']
  | [c] => if isBreak c then ['+'] else ['-']
  | c :: d :: _ => if !isBreak c then ['-'] else if isBreak d then ['+'] else []

/-- Indents every line that is not empty. -/
def indentLines (indent : Nat) : Bool → List Char → List Char
  | _, [] => []
  | atStart, c :: rest =>
    if isBreak c then c :: indentLines indent true rest
    else if atStart then List.replicate indent ' ' ++ c :: indentLines indent false rest
    else c :: indentLines indent false rest

/-- A text as an indented block. -/
def literalText (indent : Nat) (s : List Char) : List Char :=
  let hint := if s.head?.any fun c => isSpace c || isBreak c then ['2'] else []
  '|' :: hint ++ chompingSign s ++ '\n' :: indentLines indent true s

/-- A text as a scalar; one that is a key has to stay on its line. -/
def scalarText (asKey : Bool) (indent : Nat) (text : String) : List Char :=
  let s := text.toList
  let allowed := if s.isEmpty then ⟨false, true, false⟩ else allowance s
  let quoted := if allowed.singleQuoted then singleQuotedText indent s else doubleQuotedText s
  if asKey && s.any isBreak then doubleQuotedText s
  else if isAmbiguous text && !s.contains '\n' then quoted
  else if s.contains '\n' then
    if allowed.block && !asKey then literalText indent s else doubleQuotedText s
  else if allowed.plain then s
  else quoted

/-! ## Tags -/

/-- What stands behind the mark of a tag. -/
def tagSuffix (tag : String) : List Char :=
  match (tagName tag).toList with
  | '!' :: rest => rest
  | name => name

/-- A character of a tag; one that may not stand there is written by its bytes. -/
def tagCharText (c : Char) : List Char :=
  if isTagChar true c && c != '!' then [c]
  else c.toString.toUTF8.toList.flatMap fun b => '%' :: paddedHex 2 b.toNat

/-- The text of a tag. One that is nothing but its mark stands between angle brackets. -/
def tagText (tag : String) : List Char :=
  match tagSuffix tag with
  | [] => "!<%21>".toList
  | suffix => '!' :: suffix.flatMap tagCharText

/-! ## Keys -/

/-- The number of bytes of a key that fits on a line. -/
def keySize? : Value → Option Nat
  | .null => some 4
  | .bool b => some (if b then 4 else 5)
  | .number n => some (numberText n).utf8ByteSize
  | .string s => if s.toList.any isBreak then none else some s.utf8ByteSize
  | .sequence items => if items.isEmpty then some 0 else none
  | .mapping pairs => if pairs.isEmpty then some 0 else none
  | .tagged tag value =>
    (keySize? value).map (· + 1 + (String.ofList (tagSuffix tag)).utf8ByteSize)

/-- Whether a key may stand in front of its colon without a mark. -/
def isSimpleKey (key : Value) : Bool :=
  (keySize? key).any (· ≤ 128)

/-! ## Collections -/

/-- The next line, unless the text is at the start of one. -/
def continueLine (indent : Nat) (s : List Char) : List Char :=
  if s.getLast?.any isBreak then s ++ List.replicate indent ' ' else s ++ newline indent

/-- Lines that begin at the same indentation. -/
def joinLines (indent : Nat) : List (List Char) → List Char
  | [] => []
  | [line] => line
  | line :: rest => continueLine indent line ++ joinLines indent rest

/-- What a value stands behind. -/
inductive Place where
  /-- A dash: it begins on the same line. -/
  | dash
  /-- The mark of a key that is no simple one, or the colon behind it. -/
  | mark
  /-- A colon behind a simple key. -/
  | colon
  /-- Nothing, as it is a simple key. -/
  | key
deriving DecidableEq

/-- A word behind a blank, unless it is a key. -/
def placed (place : Place) (s : List Char) : List Char :=
  if place = .key then s else ' ' :: s

/-- A scalar behind its tag. -/
def placedScalar (place : Place) (tag : Option String) (s : List Char) : List Char :=
  match tag with
  | none => placed place s
  | some tag => placed place (tagText tag) ++ ' ' :: s

/-- Whether a collection begins on the line of what it stands behind. -/
def beginsInLine (place : Place) (tag : Option String) : Bool :=
  (place = .dash || place = .mark) && tag.isNone

/-- The indentation of the items of a sequence. -/
def itemIndent (place : Place) (tag : Option String) (indent : Nat) : Nat :=
  if place = .dash || beginsInLine place tag then indent + 2 else indent

/-- Lines behind their mark, or below a colon or tag. -/
def placedLines (place : Place) (tag : Option String) (indent : Nat)
    (lines : List (List Char)) : List Char :=
  let shownTag := tag.elim [] fun tag => placed place (tagText tag)
  let gap := if beginsInLine place tag then [' '] else newline indent
  shownTag ++ gap ++ joinLines indent lines

mutual
/-- The text of a value behind its tag, in a collection that is indented by `indent`. -/
def Value.textAt (indent : Nat) (place : Place) (tag : Option String) : Value → List Char
  | .null => placedScalar place tag "null".toList
  | .bool b => placedScalar place tag (if b then "true" else "false").toList
  | .number n => placedScalar place tag (numberText n).toList
  | .string s => placedScalar place tag (scalarText (place = .key) (indent + 2) s)
  | .sequence items =>
    if items.isEmpty then placedScalar place tag ['[', ']']
    else
      let inner := itemIndent place tag indent
      placedLines place tag inner (itemTexts inner items)
  | .mapping pairs =>
    if pairs.isEmpty then placedScalar place tag ['\x7b', '\x7d']
    else placedLines place tag (indent + 2) (pairTexts (indent + 2) pairs)
  | .tagged name value => value.textAt indent place (some name)

def itemTexts (indent : Nat) : List Value → List (List Char)
  | [] => []
  | item :: rest => ('-' :: item.textAt indent .dash none) :: itemTexts indent rest

/-- Pairs; a key that is no simple one stands behind a question mark. -/
def pairTexts (indent : Nat) : List (Value × Value) → List (List Char)
  | [] => []
  | (key, value) :: rest =>
    let text :=
      if isSimpleKey key then
        key.textAt indent .key none ++ ':' :: value.textAt indent .colon none
      else
        continueLine indent ('?' :: key.textAt indent .mark none) ++
          ':' :: value.textAt indent .mark none
    text :: pairTexts indent rest
end

/-- The text of a value that is no part of another, without blanks around it. -/
def Value.blockText (value : Value) : String :=
  let lines := match value with
    | .sequence (item :: rest) => joinLines 0 (itemTexts 0 (item :: rest))
    | .mapping (pair :: rest) => joinLines 0 (pairTexts 0 (pair :: rest))
    | value => value.textAt 0 .key none
  .ofList (trimEnds Text.isBlank lines)

end ApiKinds.Yaml
