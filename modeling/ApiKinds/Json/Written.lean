/-
  JSON documents as they are written, and their values.

  * `Written`: the structure of a document whose texts and numbers are still as
    written, so that parts nobody asks for need not have a value.
  * `Written.read?` reads a document from its bytes.
  * `Layout`: which members of an object are asked for, by position in a document.
    The others are passed over.
  * `Written.value?` gives the value of a document: every text that is asked for has
    to be Unicode without lone surrogates, every number within range, and nothing
    nested deeper than allowed.
-/
import ApiKinds.Json.Basic

namespace ApiKinds.Json

/-- A number as written: an integer, or a decimal with a fraction or an exponent. -/
inductive Numeral where
  | integer (negative : Bool) (magnitude : Nat)
  | decimal (value : Decimal)
deriving DecidableEq, Repr

/-- A document as written; texts are the bytes between their quotes. -/
inductive Written where
  | null
  | bool (value : Bool)
  | number (numeral : Numeral)
  | string (body : List UInt8)
  | array (items : List Written)
  | object (members : List (List UInt8 × Written))
deriving Inhabited, Repr

/-! ## Characters and numbers -/

/-- The byte of an ASCII character. -/
def byte (c : Char) : UInt8 := c.toNat.toUInt8

def isBlankByte (b : UInt8) : Bool :=
  b == 0x20 || b == 0x0A || b == 0x0D || b == 0x09

def isDigitByte (b : UInt8) : Bool :=
  0x30 ≤ b && b ≤ 0x39

def skipBlanks (s : List UInt8) : List UInt8 :=
  s.dropWhile isBlankByte

/-- The number written by decimal digits. -/
def digitsValue (digits : List UInt8) : Nat :=
  digits.foldl (fun n b => 10 * n + (b.toNat - 0x30)) 0

/-- The bytes behind `start`, if they begin so. -/
def dropBytes? (start : String) (s : List UInt8) : Option (List UInt8) :=
  let bytes := start.toList.map byte
  if bytes.isPrefixOf s then some (s.drop bytes.length) else none

/-- The digits at the front, at least one, and the rest. -/
def digits? (s : List UInt8) : Option (List UInt8 × List UInt8) :=
  match s.span isDigitByte with
  | ([], _) => none
  | (digits, rest) => some (digits, rest)

/-- An exponent, if there is one. -/
def exponent? : List UInt8 → Option (Option Int × List UInt8)
  | [] => some (none, [])
  | b :: rest =>
    if b = byte 'e' ∨ b = byte 'E' then
      let (negative, rest) := match rest with
        | [] => (false, [])
        | s :: more =>
          if s = byte '-' then (true, more)
          else if s = byte '+' then (false, more)
          else (false, s :: more)
      (digits? rest).map fun (digits, rest) =>
        let size : Int := digitsValue digits
        (some (if negative then -size else size), rest)
    else some (none, b :: rest)

/-- The digits of a fraction, if there is one. -/
def fraction? : List UInt8 → Option (Option (List UInt8) × List UInt8)
  | [] => some (none, [])
  | b :: rest =>
    if b = byte '.' then (digits? rest).map fun (digits, rest) => (some digits, rest)
    else some (none, b :: rest)

/-- The number at the front. An integer part has no leading zero. -/
def numeral? (s : List UInt8) : Option (Numeral × List UInt8) := do
  let (negative, s) := match s with
    | [] => (false, [])
    | b :: rest => if b = byte '-' then (true, rest) else (false, b :: rest)
  let (whole, rest) ← digits? s
  if whole.head? = some (byte '0') ∧ 1 < whole.length then none
  else
    let (fraction, rest) ← fraction? rest
    let (exponent, rest) ← exponent? rest
    match fraction, exponent with
    | none, none => some (.integer negative (digitsValue whole), rest)
    | _, _ =>
      let places := fraction.getD []
      let shift : Int := places.length
      some (.decimal ⟨negative, digitsValue (whole ++ places), exponent.getD 0 - shift⟩, rest)

/-- The letters that may stand behind a backslash, `u` apart. -/
def isEscapeByte (b : UInt8) : Bool :=
  ['"', '\\', '/', 'b', 'f', 'n', 'r', 't'].any (b == byte ·)

def isHexByte (b : UInt8) : Bool :=
  (Text.hexDigit? (Char.ofNat b.toNat)).isSome

/-- The bytes of a text up to its closing quote, and the rest behind it. -/
def stringBody? : List UInt8 → Option (List UInt8 × List UInt8)
  | [] => none
  | b :: rest =>
    if b = byte '"' then some ([], rest)
    else if b < 0x20 then none
    else if b = byte '\\' then
      match rest with
      | [] => none
      | e :: rest =>
        if isEscapeByte e then (stringBody? rest).map fun (body, r) => (b :: e :: body, r)
        else if e = byte 'u' then
          match rest with
          | h₁ :: h₂ :: h₃ :: h₄ :: rest =>
            if [h₁, h₂, h₃, h₄].all isHexByte then
              (stringBody? rest).map fun (body, r) =>
                (b :: e :: h₁ :: h₂ :: h₃ :: h₄ :: body, r)
            else none
          | _ => none
        else none
    else (stringBody? rest).map fun (body, r) => (b :: body, r)

/-! ## Reading a document -/

namespace Written

mutual
/-- The value at the front of the bytes, which starts without blanks. The first
    argument bounds the number of values and is never reached. -/
def readValue : Nat → List UInt8 → Option (Written × List UInt8)
  | 0, _ => none
  | _ + 1, [] => none
  | fuel + 1, b :: rest =>
    if b = byte '"' then (stringBody? rest).map fun (body, r) => (.string body, r)
    else if b = byte '[' then
      match skipBlanks rest with
      | [] => none
      | c :: more =>
        if c = byte ']' then some (.array [], more)
        else (readItems fuel (c :: more)).map fun (items, r) => (.array items, r)
    else if b = byte '\x7b' then
      match skipBlanks rest with
      | [] => none
      | c :: more =>
        if c = byte '\x7d' then some (.object [], more)
        else (readMembers fuel (c :: more)).map fun (members, r) => (.object members, r)
    else if b = byte 'n' then (dropBytes? "ull" rest).map fun r => (.null, r)
    else if b = byte 't' then (dropBytes? "rue" rest).map fun r => (.bool true, r)
    else if b = byte 'f' then (dropBytes? "alse" rest).map fun r => (.bool false, r)
    else (numeral? (b :: rest)).map fun (n, r) => (.number n, r)

/-- The items of an array up to its bracket, at least one. -/
def readItems : Nat → List UInt8 → Option (List Written × List UInt8)
  | 0, _ => none
  | fuel + 1, s => do
    let (item, rest) ← readValue fuel s
    match skipBlanks rest with
    | [] => none
    | b :: rest =>
      if b = byte ']' then some ([item], rest)
      else if b = byte ',' then
        let (items, rest) ← readItems fuel (skipBlanks rest)
        some (item :: items, rest)
      else none

/-- The members of an object up to its brace, at least one. -/
def readMembers : Nat → List UInt8 → Option (List (List UInt8 × Written) × List UInt8)
  | 0, _ => none
  | _ + 1, [] => none
  | fuel + 1, b :: rest =>
    if b = byte '"' then do
      let (key, rest) ← stringBody? rest
      match skipBlanks rest with
      | [] => none
      | c :: rest =>
        if c = byte ':' then
          let (value, rest) ← readValue fuel (skipBlanks rest)
          match skipBlanks rest with
          | [] => none
          | d :: rest =>
            if d = byte '\x7d' then some ([(key, value)], rest)
            else if d = byte ',' then
              let (members, rest) ← readMembers fuel (skipBlanks rest)
              some ((key, value) :: members, rest)
            else none
        else none
    else none
end

/-- The document that the bytes are, with blanks around it. -/
def read? (bytes : List UInt8) : Option Written :=
  match readValue (bytes.length + 1) (skipBlanks bytes) with
  | some (document, rest) => if (skipBlanks rest).isEmpty then some document else none
  | none => none

end Written

/-! ## Values -/

/-- The code unit of four hexadecimal digits. -/
def hexUnit (digits : List UInt8) : Nat :=
  digits.foldl (fun n b => 16 * n + (Text.hexDigit? (Char.ofNat b.toNat)).getD 0) 0

/-- The bytes of a character. -/
def utf8Bytes (n : Nat) : List UInt8 :=
  (String.singleton (Char.ofNat n)).toUTF8.toList

/-- The byte that a letter behind a backslash stands for. -/
def escapedByte (b : UInt8) : UInt8 :=
  if b = byte 'b' then 0x08
  else if b = byte 'f' then 0x0C
  else if b = byte 'n' then 0x0A
  else if b = byte 'r' then 0x0D
  else if b = byte 't' then 0x09
  else b

def isHighSurrogate (n : Nat) : Bool := 0xD800 ≤ n && n < 0xDC00

def isLowSurrogate (n : Nat) : Bool := 0xDC00 ≤ n && n < 0xE000

/-- The bytes of a text without its escapes; surrogates have to come in pairs. -/
def unescape? : List UInt8 → Option (List UInt8)
  | [] => some []
  | b :: rest =>
    if b = byte '\\' then
      match rest with
      | [] => none
      | e :: rest =>
        if e = byte 'u' then
          match rest with
          | h₁ :: h₂ :: h₃ :: h₄ :: rest =>
            let unit := hexUnit [h₁, h₂, h₃, h₄]
            if isLowSurrogate unit then none
            else if isHighSurrogate unit then
              match rest with
              | s :: u :: l₁ :: l₂ :: l₃ :: l₄ :: rest =>
                let low := hexUnit [l₁, l₂, l₃, l₄]
                if s = byte '\\' ∧ u = byte 'u' ∧ isLowSurrogate low then
                  (unescape? rest).map
                    (utf8Bytes (0x10000 + (unit - 0xD800) * 0x400 + (low - 0xDC00)) ++ ·)
                else none
              | _ => none
            else (unescape? rest).map (utf8Bytes unit ++ ·)
          | _ => none
        else (unescape? rest).map (escapedByte e :: ·)
    else (unescape? rest).map (b :: ·)

/-- The text between two quotes. -/
def text? (body : List UInt8) : Option String :=
  (unescape? body).bind fun bytes => String.fromUTF8? ⟨bytes.toArray⟩

/-- The value of a number; integers that do not fit, and negative zero, are doubles. -/
def Numeral.value? : Numeral → Option Number
  | .integer negative magnitude =>
    let i : Int := if negative then -magnitude else magnitude
    if Number.fits i && !(negative && magnitude == 0) then some (.int i)
    else (Binary64.ofDecimal? ⟨negative, magnitude, 0⟩).map .real
  | .decimal d => (Binary64.ofDecimal? d).map .real

/-- The positions of a document whose members are asked for. -/
structure Layout (σ : Type) where
  /-- The position of a member of an object; `none` if it is passed over. -/
  member : σ → String → Option σ
  /-- The position of an item of an array. -/
  item : σ → Nat → σ

/-- The layout in which everything is asked for. -/
def Layout.whole : Layout Unit where
  member _ _ := some ()
  item _ _ := ()

namespace Written

mutual
/-- The value at a position, with at most `depth` containers inside each other. -/
def value? {σ : Type} (layout : Layout σ) (position : σ) (depth : Nat) : Written → Option Json
  | .null => some .null
  | .bool b => some (.bool b)
  | .number n => n.value?.map .number
  | .string body => (text? body).map .string
  | .array items =>
    match depth with
    | 0 => none
    | depth + 1 => (itemValues? layout position depth 0 items).map .array
  | .object members =>
    match depth with
    | 0 => none
    | depth + 1 => (memberValues? layout position depth members).map .object

def itemValues? {σ : Type} (layout : Layout σ) (position : σ) (depth index : Nat) :
    List Written → Option (List Json)
  | [] => some []
  | item :: rest => do
    let value ← value? layout (layout.item position index) depth item
    let values ← itemValues? layout position depth (index + 1) rest
    some (value :: values)

def memberValues? {σ : Type} (layout : Layout σ) (position : σ) (depth : Nat) :
    List (List UInt8 × Written) → Option (List (String × Json))
  | [] => some []
  | (body, member) :: rest => do
    let key ← text? body
    match layout.member position key with
    | none => memberValues? layout position depth rest
    | some inner =>
      let value ← value? layout inner depth member
      let values ← memberValues? layout position depth rest
      some ((key, value) :: values)
end

end Written

/-- How many containers may lie inside each other in a document. -/
def maxDepth : Nat := 127

/-- The value of the asked-for part of a document. -/
def readWith? {σ : Type} (layout : Layout σ) (start : σ) (bytes : List UInt8) : Option Json :=
  (Written.read? bytes).bind (Written.value? layout start maxDepth)

/-- The value of a document. -/
def read? (bytes : List UInt8) : Option Json :=
  readWith? .whole () bytes

end ApiKinds.Json
