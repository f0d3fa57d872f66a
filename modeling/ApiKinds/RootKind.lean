/-
  The Kind of the root path, taken from the name of the file that describes the
  API.

  * `ofLocation`: the words of the file name, without directories, host, extension
    and pieces that look like a version. `petstore.1.0.27.yaml` gives `Petstore`.
-/
import ApiKinds.Text.Case

namespace ApiKinds.RootKind

open Text

/-- Whether a piece of a file name is a version: digits, with `v` before them or
    not. -/
def isVersionLike (s : String) : Bool :=
  let digits := (dropPrefix? "v" s <|> dropPrefix? "V" s).getD s
  digits.toList.any Char.isDigit && digits.toList.all fun c => c.isDigit || c == '.'

/-- The extensions of a description. -/
def extensions : List String :=
  [".yaml", ".yml", ".json"]

/-- The name before `extension`, in any case of its letters. -/
def dropExtension? (fileName extension : String) : Option String :=
  let cs := fileName.toList
  let size := extension.toList.length
  if size ≤ cs.length ∧
      sameIgnoringAsciiCase (.ofList (cs.drop (cs.length - size))) extension then
    some (.ofList (cs.take (cs.length - size)))
  else none

/-- The part of a location that can hold a file name: behind the host of a web
    address, and nothing if the host is all there is. -/
def localPart (location : String) : String :=
  match dropPrefix? "https://" location <|> dropPrefix? "http://" location with
  | none => location
  | some rest =>
    match splitOnce '/' rest with
    | some (_, path) => path
    | none => ""

/-- The words of a piece of a file name. -/
def words (piece : String) : List String :=
  (splitBy (fun c => c == '-' || c == '_' || isBlank c) piece).filter (· != "")

/-- A word with a capital initial and its other letters small. -/
def capitalized (word : String) : String :=
  match word.toList with
  | [] => ""
  | first :: rest => .ofList (upperChar first ++ rest.flatMap lowerChar)

/-- The Kind named by the location of a description. -/
def ofLocation (location : String) : String :=
  let fileName := afterLast '/' (localPart location)
  let stem := (extensions.findSome? (dropExtension? fileName)).getD fileName
  let named := (splitOn '.' stem).filter (!isVersionLike ·)
  join "" ((named.flatMap words).map capitalized)

end ApiKinds.RootKind
