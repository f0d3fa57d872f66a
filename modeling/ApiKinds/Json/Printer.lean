/-
  The text of a JSON value.

  * `compact` writes no blanks.
  * `pretty` puts every item and member on a line of its own, indented by two
    blanks per level; an empty array or object stays on its line.
-/
import ApiKinds.Json.Basic

namespace ApiKinds.Json

/-- The four hexadecimal digits of a control character. -/
def controlDigits (n : Nat) : List Char :=
  let digits := Text.hexText n
  List.replicate (4 - digits.length) '0' ++ digits

/-- A character inside quotes. -/
def escaped (c : Char) : List Char :=
  if c = '"' then ['\\', '"']
  else if c = '\\' then ['\\', '\\']
  else if c = '\n' then ['\\', 'n']
  else if c = '\r' then ['\\', 'r']
  else if c = '\t' then ['\\', 't']
  else if c.toNat = 0x08 then ['\\', 'b']
  else if c.toNat = 0x0C then ['\\', 'f']
  else if c.toNat < 0x20 then ['\\', 'u'] ++ controlDigits c.toNat
  else [c]

/-- A text between quotes. -/
def quotedText (s : String) : String :=
  .ofList (['"'] ++ s.toList.flatMap escaped ++ ['"'])

mutual
/-- The text of a value without blanks. -/
def compact : Json → String
  | .null => "null"
  | .bool b => if b then "true" else "false"
  | .number n => n.text
  | .string s => quotedText s
  | .array items => "[" ++ ",".intercalate (compactItems items) ++ "]"
  | .object members => "\x7b" ++ ",".intercalate (compactMembers members) ++ "\x7d"

def compactItems : List Json → List String
  | [] => []
  | item :: rest => compact item :: compactItems rest

def compactMembers : List (String × Json) → List String
  | [] => []
  | (key, value) :: rest => (quotedText key ++ ":" ++ compact value) :: compactMembers rest
end

/-- The line break before an item of the given level. -/
def newline (level : Nat) : String :=
  .ofList ('\n' :: List.replicate (2 * level) ' ')

/-- The parts of a container, one on each line. -/
def block (level : Nat) (first last : String) (parts : List String) : String :=
  if parts.isEmpty then first ++ last
  else first ++ ",".intercalate (parts.map (newline (level + 1) ++ ·)) ++ newline level ++ last

mutual
/-- The text of a value that stands at a level of indentation. -/
def prettyAt (level : Nat) : Json → String
  | .null => "null"
  | .bool b => if b then "true" else "false"
  | .number n => n.text
  | .string s => quotedText s
  | .array items => block level "[" "]" (prettyItems (level + 1) items)
  | .object members => block level "\x7b" "\x7d" (prettyMembers (level + 1) members)

def prettyItems (level : Nat) : List Json → List String
  | [] => []
  | item :: rest => prettyAt level item :: prettyItems level rest

def prettyMembers (level : Nat) : List (String × Json) → List String
  | [] => []
  | (key, value) :: rest =>
    (quotedText key ++ ": " ++ prettyAt level value) :: prettyMembers level rest
end

/-- The text of a value over several lines. -/
def pretty (value : Json) : String :=
  prettyAt 0 value

end ApiKinds.Json
