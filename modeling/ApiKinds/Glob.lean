/-
  Glob patterns.

  * `accepts pattern text`: the whole text has the form of the pattern, in which
    `*` stands for any run of characters and `?` for one character, neither of
    them a line feed, and every other character for itself.
  * `acceptsPath`: a pattern for paths is matched segment by segment; a final
    `/*` admits any segments below, a final `/?` exactly one.
-/
import ApiKinds.Text.Basic

namespace ApiKinds.Glob

open Text

/-! ## Texts -/

/-- Whether a character has the form of a sign other than `*`. -/
def acceptsChar (sign c : Char) : Bool :=
  if sign = '?' then c != '\n' else sign == c

/-- The answers for the rests of a text and a pattern that starts with `*`, from those for
    what is behind it. -/
def runAnswers : List Char → List Bool → List Bool
  | c :: text, answer :: answers =>
    let behind := runAnswers text answers
    (answer || (c != '\n' && behind.headD false)) :: behind
  | _, answers => answers

/-- The answers for the rests of a text and a pattern that starts with another sign. -/
def charAnswers (sign : Char) : List Char → List Bool → List Bool
  | c :: text, _ :: answers =>
    (acceptsChar sign c && answers.headD false) :: charAnswers sign text answers
  | _, _ => [false]

/-- For each rest of a text, the whole text first and the empty one last, whether it has
    the form of a pattern. -/
def answers : List Char → List Char → List Bool
  | [], text => text.map (fun _ => false) ++ [true]
  | sign :: pattern, text =>
    let behind := answers pattern text
    if sign = '*' then runAnswers text behind else charAnswers sign text behind

/-- Whether a text has the form of a pattern. -/
def accepts (pattern text : String) : Bool :=
  (answers pattern.toList text.toList).headD false

/-! ## Paths -/

/-- The segments between slashes, empty ones left out. -/
def pathSegments (path : String) : List String :=
  (splitOn '/' path).filter (· != "")

/-- Whether each segment has the form of the pattern beside it. -/
def acceptsAll (patterns segments : List String) : Bool :=
  (patterns.zip segments).all fun p => accepts p.1 p.2

/-- Whether a path has the form of a path pattern. -/
def acceptsPath (pattern path : String) : Bool :=
  let segments := pathSegments path
  match dropSuffix? "/*" pattern, dropSuffix? "/?" pattern with
  | some start, _ =>
    let patterns := pathSegments start
    decide (patterns.length ≤ segments.length) && acceptsAll patterns segments
  | none, some start =>
    let patterns := pathSegments start
    segments.length == patterns.length + 1 && acceptsAll patterns segments
  | none, none =>
    let patterns := pathSegments pattern
    patterns.length == segments.length && acceptsAll patterns segments

end ApiKinds.Glob
