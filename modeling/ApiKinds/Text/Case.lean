/-
  Blank characters and letter case, for all of Unicode.

  * `isBlank`: the property `White_Space`.
  * `upperChar`, `lowerChar` give the case forms of one character; a form may be
    several characters (`ß` is `SS`).
  * `lowercase` is the small form of a whole text, in which a capital sigma that
    ends a word becomes `ς`.
  * `raiseFirst`, `capitalize`: the first character of a word raised; the second
    also lowers the others, one by one.
-/
import ApiKinds.Text.Basic
import ApiKinds.Text.CaseTable

namespace ApiKinds.Text

/-! ## Blanks -/

/-- The characters with the property `White_Space`. -/
def isBlank (c : Char) : Bool :=
  let n := c.toNat
  (9 ≤ n && n ≤ 13) || n == 0x20 || n == 0x85 || n == 0xA0 || n == 0x1680 ||
    (0x2000 ≤ n && n ≤ 0x200A) || n == 0x2028 || n == 0x2029 || n == 0x202F ||
    n == 0x205F || n == 0x3000

/-! ## Case of one character -/

/-- The image of a code point under a mapping given by runs and expansions. -/
def mapCase (runs : List CaseRun) (expansions : List (Nat × List Nat)) (n : Nat) : List Nat :=
  match expansions.lookup n with
  | some image => image
  | none => [(runs.findSome? (·.image? n)).getD n]

/-- The capital form of a character. -/
def upperChar (c : Char) : List Char :=
  if c.toNat < 0x80 then
    [if 'a' ≤ c ∧ c ≤ 'z' then Char.ofNat (c.toNat - 32) else c]
  else (mapCase upperRuns upperExpansions c.toNat).map Char.ofNat

/-- The small form of a character. -/
def lowerChar (c : Char) : List Char :=
  if c.toNat < 0x80 then [asciiLower c]
  else (mapCase lowerRuns lowerExpansions c.toNat).map Char.ofNat

/-- The property `Cased`. -/
def isCased (c : Char) : Bool :=
  if c.toNat < 0x80 then c.isAlpha else inRanges casedRanges c.toNat

/-- The property `Case_Ignorable`. -/
def isCaseIgnorable (c : Char) : Bool :=
  if c.toNat < 0x80 then
    [0x27, 0x2E, 0x3A, 0x5E, 0x60].contains c.toNat
  else inRanges caseIgnorableRanges c.toNat

/-! ## Case of a text -/

/-- Behind any case-ignorable characters stands a cased one. -/
def casedAhead (s : List Char) : Bool :=
  match s.dropWhile isCaseIgnorable with
  | [] => false
  | c :: _ => isCased c

/-- The small form of a text, where `before` is what precedes it, last character
    first. -/
def lowerAfter (before : List Char) : List Char → List Char
  | [] => []
  | c :: rest =>
    let form :=
      if c = 'Σ' then [if casedAhead before && !casedAhead rest then 'ς' else 'σ']
      else lowerChar c
    form ++ lowerAfter (c :: before) rest

/-- The small form of a text. -/
def lowercase (s : String) : String :=
  .ofList (lowerAfter [] s.toList)

/-- The first character raised, the others kept. -/
def raiseFirst : List Char → List Char
  | [] => []
  | c :: rest => upperChar c ++ rest

/-- The first character raised, each of the others lowered. -/
def capitalize : List Char → List Char
  | [] => []
  | c :: rest => upperChar c ++ rest.flatMap lowerChar

end ApiKinds.Text
