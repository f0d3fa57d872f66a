/-
  Splitting, joining and searching of text.

  The recursion is on characters: an operation on `String` is one on its list of
  characters (`pieces`, `occurs`, `trimEnds`).

  * `splitOn sep s` cuts at every `sep`, so it has one piece more than `s` has
    separators; `splitOnce sep s` cuts at the first one only.
  * `dropPrefix?`, `dropSuffix?` take an end off, if it is there.
  * `contains needle s`: `needle` occurs somewhere in `s`.
-/

namespace ApiKinds.Text

/-! ## Lists of characters -/

/-- The pieces between the characters satisfying `sep`, empty ones included. -/
def pieces (sep : Char → Bool) : List Char → List (List Char)
  | [] => [[]]
  | c :: rest =>
    if sep c then [] :: pieces sep rest
    else match pieces sep rest with
      | [] => [[c]]
      | piece :: others => (c :: piece) :: others

theorem pieces_ne_nil (sep : Char → Bool) (s : List Char) : pieces sep s ≠ [] := by
  cases s with
  | nil => simp [pieces]
  | cons c rest =>
    rw [pieces]
    split
    · simp
    · split <;> simp

/-- Whether `needle` starts at some position of the text. -/
def occurs (needle : List Char) : List Char → Bool
  | [] => needle.isEmpty
  | c :: rest => needle.isPrefixOf (c :: rest) || occurs needle rest

/-- Takes characters satisfying `drop` off both ends. -/
def trimEnds (drop : Char → Bool) (s : List Char) : List Char :=
  ((s.dropWhile drop).reverse.dropWhile drop).reverse

/-! ## Text -/

/-- The pieces between the characters satisfying `sep`. -/
def splitBy (sep : Char → Bool) (s : String) : List String :=
  (pieces sep s.toList).map String.ofList

/-- The pieces between the occurrences of `sep`. -/
def splitOn (sep : Char) (s : String) : List String :=
  splitBy (· == sep) s

/-- The text before and after the first `sep`. -/
def splitOnce (sep : Char) (s : String) : Option (String × String) :=
  match s.toList.span (· != sep) with
  | (_, []) => none
  | (before, _ :: after) => some (.ofList before, .ofList after)

/-- The text after the last `sep`, all of it if there is none. -/
def afterLast (sep : Char) (s : String) : String :=
  .ofList (s.toList.reverse.takeWhile (· != sep)).reverse

/-- The pieces with `sep` between them. -/
def join (sep : String) (pieces : List String) : String :=
  .ofList (List.intercalate sep.toList (pieces.map String.toList))

def hasPrefix (start s : String) : Bool :=
  start.toList.isPrefixOf s.toList

def hasSuffix (ending s : String) : Bool :=
  ending.toList.isSuffixOf s.toList

/-- The text after `start`, if it starts so. -/
def dropPrefix? (start s : String) : Option String :=
  if hasPrefix start s then some (.ofList (s.toList.drop start.toList.length)) else none

/-- The text before `ending`, if it ends so. -/
def dropSuffix? (ending s : String) : Option String :=
  if hasSuffix ending s then
    some (.ofList (s.toList.take (s.toList.length - ending.toList.length)))
  else none

def contains (needle s : String) : Bool :=
  occurs needle.toList s.toList

/-- Takes every `c` off both ends. -/
def trimChar (c : Char) (s : String) : String :=
  .ofList (trimEnds (· == c) s.toList)

/-! ## Letters and digits of ASCII -/

/-- The small letter of an ASCII capital; any other character itself. -/
def asciiLower (c : Char) : Char :=
  if 'A' ≤ c ∧ c ≤ 'Z' then Char.ofNat (c.toNat + 32) else c

/-- Equality up to the case of ASCII letters. -/
def sameIgnoringAsciiCase (a b : String) : Bool :=
  a.toList.map asciiLower == b.toList.map asciiLower

/-- The value of a hexadecimal digit. -/
def hexDigit? (c : Char) : Option Nat :=
  if '0' ≤ c ∧ c ≤ '9' then some (c.toNat - 48)
  else if 'a' ≤ c ∧ c ≤ 'f' then some (c.toNat - 87)
  else if 'A' ≤ c ∧ c ≤ 'F' then some (c.toNat - 55)
  else none

/-- The hexadecimal digits of a number, small letters, without leading zeros. -/
def hexText (n : Nat) : List Char :=
  Nat.toDigits 16 n

end ApiKinds.Text
