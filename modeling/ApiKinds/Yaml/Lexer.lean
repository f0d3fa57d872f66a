/-
  The tokens of a YAML text.

  * `Lexer`: what is read so far, with the columns of the open block collections and
    the places where a key without `?` may have begun.
  * `Lexer.next?` reads the next token. When a `:` shows that something was a key, the
    token for it is put in front of where it began.
  * `Token.ofText?`: all tokens of a text; `none` if it is no YAML.
-/
import ApiKinds.Yaml.Token

namespace ApiKinds.Yaml

/-! ## State -/

/-- A place where a key may have begun. -/
structure KeyMark where
  /-- Nothing but a key can stand at its column. -/
  isRequired : Bool
  /-- The number of tokens in front of it. -/
  position : Nat
  index : Nat
  line : Nat
  column : Nat

/-- What is read of a text. -/
structure Lexer where
  cursor : Cursor
  /-- The last token first. -/
  reversed : List Token := []
  /-- The number of tokens. -/
  count : Nat := 0
  /-- The number of columns that lines in the open block collection have to pass: its
      column and one, or zero outside of any. -/
  level : Nat := 0
  /-- The levels of the collections around it. -/
  levels : List Nat := []
  /-- A key may begin here. -/
  keyAllowed : Bool := true
  /-- Where the last key may have begun. -/
  keyMark : Option KeyMark := none
  /-- The same for each of the flow collections around, the innermost first. -/
  outerMarks : List (Option KeyMark) := []

namespace Lexer

/-- The text is inside a flow collection. -/
def inFlow (l : Lexer) : Bool :=
  !l.outerMarks.isEmpty

def push (l : Lexer) (token : Token) : Lexer :=
  { l with reversed := token :: l.reversed, count := l.count + 1 }

/-- Puts a token behind the first `position` ones. -/
def insert (l : Lexer) (position : Nat) (token : Token) : Lexer :=
  let behind := l.count - position
  { l with
    reversed := l.reversed.take behind ++ token :: l.reversed.drop behind
    count := l.count + 1 }

/-- Adds a token of `n` characters. -/
def take (l : Lexer) (n : Nat) (token : Token) : Lexer :=
  { l.push token with cursor := l.cursor.skip n }

/-! ## Indentation -/

/-- Opens a block collection at a column, if none is open there; its token is put behind
    the first `position` ones. -/
def openAt (l : Lexer) (column position : Nat) (token : Token) : Lexer :=
  if !l.inFlow && l.level < column + 1 then
    { l.insert position token with level := column + 1, levels := l.level :: l.levels }
  else l

/-- Ends the block collections that a line at this level does not belong to. -/
def closeTo (level : Nat) : List Nat → Lexer → Lexer
  | [], l => l
  | outer :: rest, l =>
    if level < l.level then closeTo level rest { l.push .blockEnd with level := outer, levels := rest }
    else l

/-- Ends block collections, unless a flow collection is open. -/
def close (l : Lexer) (level : Nat) : Lexer :=
  if l.inFlow then l else closeTo level l.levels l

/-! ## Keys -/

/-- Whether a key that began at a place would have to be over: it may only have one line
    and 1024 characters. -/
def isStale (c : Cursor) (mark : KeyMark) : Bool :=
  mark.line < c.line || mark.index + 1024 < c.index

/-- Forgets the place where a key may have begun, if it would have to be over; an error if
    there has to be one. The places outside of a flow collection are looked at behind it. -/
def refreshKey? (l : Lexer) : Option Lexer :=
  match l.keyMark with
  | none => some l
  | some mark =>
    if !isStale l.cursor mark then some l
    else if mark.isRequired then none
    else some { l with keyMark := none }

/-- No key has begun; an error if one had to. -/
def dropKey? (l : Lexer) : Option Lexer :=
  if l.keyMark.any (·.isRequired) then none else some { l with keyMark := none }

/-- A key may begin here, if it is allowed. -/
def markKey? (l : Lexer) : Option Lexer :=
  if l.keyAllowed then do
    let dropped ← l.dropKey?
    let c := l.cursor
    some { dropped with
      keyMark := some
        { isRequired := !l.inFlow && l.level == c.column + 1
          position := l.count
          index := c.index
          line := c.line
          column := c.column } }
  else some l

/-- Whether a key may begin behind what follows. -/
def allowKey (allowed : Bool) (l : Lexer) : Lexer :=
  { l with keyAllowed := allowed }

/-! ## Blanks and comments -/

/-- Whether the character is skipped between tokens. A tab does not indent. -/
def isSkipped (tabs : Bool) (c : Char) : Bool :=
  c == ' ' || (tabs && c == '\t')

/-- Goes to the next token. -/
def skipBlanks : Nat → Lexer → Lexer
  | 0, l => l
  | fuel + 1, l =>
    let c := l.cursor
    let c := if c.column == 0 && (c.rest.head?.any (·.toNat == 0xFEFF)) then c.skip 1 else c
    let c := (c.skipWhile (isSkipped (l.inFlow || !l.keyAllowed))).skipComment
    match c.lineBreak? with
    | some (_, next) =>
      skipBlanks fuel { l with cursor := next, keyAllowed := l.keyAllowed || !l.inFlow }
    | none => { l with cursor := c }

/-! ## Tokens -/

/-- The tokens at the start of a line that end all block collections. -/
def documentMark? (token : Token) (l : Lexer) : Option Lexer := do
  let l ← (l.close 0).dropKey?
  some ((l.take 3 token).allowKey false)

def directiveLine? (fuel : Nat) (l : Lexer) : Option Lexer := do
  let l ← (l.close 0).dropKey?
  let (token, next) ← directive? fuel l.cursor
  some ({ l.push token with cursor := next }.allowKey false)

/-- Opens a flow collection. -/
def openFlow? (token : Token) (l : Lexer) : Option Lexer := do
  let l ← l.markKey?
  let l := { l with outerMarks := l.keyMark :: l.outerMarks, keyMark := none }
  some ((l.take 1 token).allowKey true)

/-- Ends a flow collection. -/
def closeFlow? (token : Token) (l : Lexer) : Option Lexer := do
  let l ← l.dropKey?
  let l := match l.outerMarks with
    | [] => l
    | mark :: outer => { l with keyMark := mark, outerMarks := outer }
  some ((l.take 1 token).allowKey false)

def flowEntry? (l : Lexer) : Option Lexer := do
  let l ← l.dropKey?
  some ((l.take 1 .flowEntry).allowKey true)

/-- An indicator of a block collection, which it opens. -/
def openBlock? (collection : Token) (l : Lexer) : Option Lexer :=
  if l.inFlow then some l
  else if l.keyAllowed then some (l.openAt l.cursor.column l.count collection)
  else none

def blockEntry? (l : Lexer) : Option Lexer := do
  let l ← (← l.openBlock? .blockSequence).dropKey?
  some ((l.take 1 .blockEntry).allowKey true)

def explicitKey? (l : Lexer) : Option Lexer := do
  let l ← (← l.openBlock? .blockMapping).dropKey?
  some ((l.take 1 .key).allowKey (!l.inFlow))

/-- The colon behind a key. -/
def value? (l : Lexer) : Option Lexer :=
  match l.keyMark with
  | some mark =>
    let l := (l.insert mark.position .key).openAt mark.column mark.position .blockMapping
    some (({ l with keyMark := none }.take 1 .value).allowKey false)
  | none => do
    let l ← l.openBlock? .blockMapping
    some ((l.take 1 .value).allowKey (!l.inFlow))

/-- A token in front of which a key may begin. -/
def nodeToken? (read? : Lexer → Option (Token × Cursor)) (l : Lexer) : Option Lexer := do
  let l ← l.markKey?
  let (token, next) ← read? l
  some ({ l.push token with cursor := next }.allowKey false)

def named? (token : String → Token) (l : Lexer) : Option Lexer :=
  l.nodeToken? fun l => (anchorName? (l.cursor.skip 1)).map fun (name, next) => (token name, next)

def quoted? (read? : Cursor → Option (List Char × Cursor)) (l : Lexer) : Option Lexer :=
  l.nodeToken? fun l =>
    (read? (l.cursor.skip 1)).map fun (text, next) => (.scalar false (.ofList text), next)

def block? (folded : Bool) (fuel : Nat) (l : Lexer) : Option Lexer := do
  let l ← l.dropKey?
  let (text, next) ← blockScalar? folded l.level fuel (l.cursor.skip 1)
  some ({ l.push (.scalar false (.ofList text)) with cursor := next }.allowKey true)

def plainScalar? (fuel : Nat) (l : Lexer) : Option Lexer := do
  let l ← l.markKey?
  let scalar ← plain? l.inFlow l.level fuel l.cursor
  some ({ l.push (.scalar true (.ofList scalar.reversed.reverse)) with
    cursor := scalar.cursor }.allowKey scalar.lineBegun)

/-- The characters that no plain scalar starts with. -/
def isIndicator (c : Char) : Bool :=
  ['-', '?', ':', ',', '[', ']', '\x7b', '\x7d', '#', '&', '*', '!', '|', '>', '"', '%',
    '@'].contains c || c.toNat == 0x27 || c.toNat == 0x60

/-- Whether a plain scalar starts at the text, which no blank does. Some indicators may be
    its first character if it goes on behind them. -/
def startsPlain (inFlow : Bool) (c : Char) (rest : List Char) : Bool :=
  !(isIndicator c || isBlankOrBreak c) || (c == '-' && !rest.head?.any isBlank) ||
    (!inFlow && (c == '?' || c == ':') && !startsBlank rest)

/-- The token at the first character of the text. -/
def tokenAt? (fuel : Nat) (c : Char) (rest : List Char) (l : Lexer) : Option Lexer :=
  if c = '[' then l.openFlow? .flowSequence
  else if c = '\x7b' then l.openFlow? .flowMapping
  else if c = ']' then l.closeFlow? .flowSequenceEnd
  else if c = '\x7d' then l.closeFlow? .flowMappingEnd
  else if c = ',' then l.flowEntry?
  else if c = '-' && startsBlank rest then l.blockEntry?
  else if c = '?' && (l.inFlow || startsBlank rest) then l.explicitKey?
  else if c = ':' && (l.inFlow || startsBlank rest) then l.value?
  else if c = '*' then l.named? .alias
  else if c = '&' then l.named? .anchor
  else if c = '!' then l.nodeToken? fun l => tagMark? l.inFlow fuel l.cursor
  else if c = '|' && !l.inFlow then l.block? false fuel
  else if c = '>' && !l.inFlow then l.block? true fuel
  else if c.toNat = 0x27 then l.quoted? (singleQuoted? fuel)
  else if c = '"' then l.quoted? (doubleQuoted? fuel)
  else if startsPlain l.inFlow c rest then l.plainScalar? fuel
  else none

/-- The next token, behind the ends of block collections in front of it. -/
def next? (fuel : Nat) (l : Lexer) : Option Lexer := do
  let l ← l.refreshKey?
  let l := l.close (l.cursor.column + 1)
  match l.cursor.rest with
  | [] => none
  | c :: rest =>
    if l.cursor.column == 0 && c == '%' then l.directiveLine? fuel
    else if l.cursor.atMarker ['-', '-', '-'] then l.documentMark? .documentStart
    else if l.cursor.atMarker ['.', '.', '.'] then l.documentMark? .documentEnd
    else l.tokenAt? fuel c rest

/-- The end of the text. A flow collection that is still open is no document. -/
def finish? (l : Lexer) : Option (List Token) := do
  let l ← l.refreshKey?
  let l ← (l.close 0).dropKey?
  some l.reversed.reverse

/-- Reads all tokens; there is more fuel than text. -/
def run? : Nat → Lexer → Option (List Token)
  | 0, _ => none
  | fuel + 1, l =>
    let l := l.skipBlanks (fuel + 1)
    match l.cursor.rest with
    | [] => l.finish?
    | _ => (l.next? (fuel + 1)).bind (run? fuel)

end Lexer

/-- The tokens of a text. -/
def Token.ofText? (text : List Char) : Option (List Token) :=
  if text.all isAllowed then Lexer.run? (text.length + 1) { cursor := { rest := text } } else none

end ApiKinds.Yaml
