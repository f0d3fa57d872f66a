/-
  Tokens of YAML and the marks in front of a node.

  * `Token`: indicators, properties and scalars; the start and end of block
    collections are tokens too, although they are only shown by indentation.
  * `anchorName?`, `tagMark?`, `directive?` read what follows `&`, `*`, `!` and `%`.
-/
import ApiKinds.Decimal.Power
import ApiKinds.Yaml.Scalar

namespace ApiKinds.Yaml

open Text

/-! ## Tokens -/

/-- The smallest parts of a document. -/
inductive Token where
  /-- The version that a document asks for. -/
  | version (major minor : Nat)
  /-- An abbreviation for tags. -/
  | tagHandle (handle start : String)
  | documentStart
  | documentEnd
  | blockSequence
  | blockMapping
  | blockEnd
  | flowSequence
  | flowSequenceEnd
  | flowMapping
  | flowMappingEnd
  /-- The dash before an item. -/
  | blockEntry
  /-- The comma between items. -/
  | flowEntry
  | key
  | value
  | alias (name : String)
  | anchor (name : String)
  /-- A tag, in which the handle is an abbreviation. -/
  | tag (handle suffix : String)
  | scalar (isPlain : Bool) (text : String)
deriving DecidableEq, Repr, Inhabited

/-! ## Anchors -/

/-- The characters that may stand right behind an anchor. -/
def endsAnchor : List Char → Bool
  | [] => true
  | c :: _ =>
    isBlankOrBreak c || ['?', ':', ',', ']', '\x7d', '%', '@'].contains c || c.toNat == 0x60

/-- The name of an anchor or alias. -/
def anchorName? (c : Cursor) : Option (String × Cursor) :=
  let (name, next) := c.readWhile isWordChar
  if !name.isEmpty && endsAnchor next.rest then some (.ofList name, next) else none

/-! ## Tags -/

/-- The characters of a tag; between angle brackets there are some more. -/
def isTagChar (bracketed : Bool) (c : Char) : Bool :=
  isWordChar c ||
    [';', '/', '?', ':', '@', '&', '=', '+', '$', '.', '!', '~', '*', '(', ')'].contains c ||
    c.toNat == 0x27 || (bracketed && [',', '[', ']'].contains c)

/-- The byte behind a percent sign. -/
def percentByte? : List Char → Option Nat
  | '%' :: high :: low :: _ => hexValue? [high, low]
  | _ => none

/-- How many bytes a character has that starts with this one. -/
def utf8Width? (b : Nat) : Option Nat :=
  if b < 0x80 then some 1
  else if 0xC0 ≤ b ∧ b < 0xE0 then some 2
  else if 0xE0 ≤ b ∧ b < 0xF0 then some 3
  else if 0xF0 ≤ b ∧ b < 0xF8 then some 4
  else none

/-- The code point whose further bytes are written with percent signs. -/
def percentTail? : Nat → Nat → List Char → Option Nat
  | 0, code, _ => some code
  | more + 1, code, s => do
    let b ← percentByte? s
    if 0x80 ≤ b ∧ b < 0xC0 then percentTail? more (64 * code + (b - 0x80)) (s.drop 3) else none

/-- A character written by its bytes with percent signs, and how many there are. -/
def percentChar? (s : List Char) : Option (Char × Nat) := do
  let first ← percentByte? s
  let width ← utf8Width? first
  let high := if width = 1 then first else first % twoTo (7 - width)
  let code ← percentTail? (width - 1) high (s.drop 3)
  some (.ofNat code, width)

/-- The characters of a tag. -/
def tagText? (bracketed : Bool) : Nat → List Char → Cursor → Option (List Char × Cursor)
  | 0, _, _ => none
  | fuel + 1, reversed, c =>
    match c.rest with
    | [] => some (reversed.reverse, c)
    | b :: _ =>
      if b = '%' then do
        let (char, width) ← percentChar? c.rest
        tagText? bracketed fuel (char :: reversed) (c.skip (3 * width))
      else if isTagChar bracketed b then tagText? bracketed fuel (b :: reversed) (c.skip 1)
      else some (reversed.reverse, c)

/-- The characters of a tag, of which there has to be one. -/
def someTagText? (bracketed : Bool) (fuel : Nat) (c : Cursor) : Option (String × Cursor) := do
  let (text, next) ← tagText? bracketed fuel [] c
  if text.isEmpty then none else some (.ofList text, next)

/-- An exclamation mark, the word behind it, and the mark that may follow. -/
def handle? (c : Cursor) : Option (List Char × Bool × Cursor) :=
  if c.rest.head? = some '!' then
    let (word, next) := (c.skip 1).readWhile isWordChar
    if next.rest.head? = some '!' then some (word, true, next.skip 1) else some (word, false, next)
  else none

/-- The text of a handle. -/
def handleText (word : List Char) (closed : Bool) : String :=
  .ofList ('!' :: word ++ if closed then ['!'] else [])

/-- Whether a tag may end before the text. -/
def endsTag (inFlow : Bool) (rest : List Char) : Bool :=
  startsBlank rest || (inFlow && rest.head? == some ',')

/-- The tag at a position. -/
def tagMark? (inFlow : Bool) (fuel : Nat) (c : Cursor) : Option (Token × Cursor) := do
  let (token, next) ←
    if ['!', '<'].isPrefixOf c.rest then do
      let (text, next) ← someTagText? true fuel (c.skip 2)
      if next.rest.head? = some '>' then some (Token.tag "" text, next.skip 1) else none
    else do
      let (word, closed, next) ← handle? c
      if closed then do
        let (text, next) ← someTagText? false fuel next
        some (Token.tag (handleText word true) text, next)
      else do
        let (text, next) ← tagText? false fuel word.reverse next
        if text.isEmpty then some (Token.tag "" "!", next)
        else some (Token.tag "!" (.ofList text), next)
  if endsTag inFlow next.rest then some (token, next) else none

/-! ## Directives -/

/-- A version number of up to nine digits. -/
def versionNumber? (c : Cursor) : Option (Nat × Cursor) :=
  let (digits, next) := c.readWhile Char.isDigit
  if 1 ≤ digits.length ∧ digits.length ≤ 9 then
    some (digits.foldl (fun n d => 10 * n + (d.toNat - 0x30)) 0, next)
  else none

/-- The version behind `%YAML`. -/
def version? (c : Cursor) : Option (Token × Cursor) := do
  let (major, c) ← versionNumber? (c.skipWhile isBlank)
  if c.rest.head? = some '.' then
    let (minor, c) ← versionNumber? (c.skip 1)
    some (.version major minor, c)
  else none

/-- The abbreviation behind `%TAG`. -/
def tagHandle? (fuel : Nat) (c : Cursor) : Option (Token × Cursor) := do
  let (word, closed, c) ← handle? (c.skipWhile isBlank)
  if !closed && !word.isEmpty then none
  else if !c.rest.head?.any isBlank then none
  else do
    let (start, c) ← someTagText? true fuel (c.skipWhile isBlank)
    if startsBlank c.rest then some (.tagHandle (handleText word closed) start, c) else none

/-- The directive whose percent sign is at a position, with the start of the next
    line. -/
def directive? (fuel : Nat) (c : Cursor) : Option (Token × Cursor) := do
  let (name, c) := (c.skip 1).readWhile isWordChar
  if !startsBlank c.rest then none
  else do
    let (token, c) ←
      if name = ['Y', 'A', 'M', 'L'] then version? c
      else if name = ['T', 'A', 'G'] then tagHandle? fuel c
      else none
    some (token, ← c.finishLine?)

end ApiKinds.Yaml
