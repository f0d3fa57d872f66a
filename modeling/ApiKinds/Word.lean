/-
  Words of a path segment: how they are joined into a Kind name, their singular
  and plural, and the keywords that mark a segment as an operation.

  * `pascalCase`, `upperCamelCase` join the words of a text, which are separated
    by `-`, `_` and blanks; the first lowers what follows the initial of a word,
    the second keeps it.
  * `singular`, `plural` are rules on the ending, tried in order.
  * `isAction`, `isStrongAction` look for a keyword anywhere, in any case.
-/
import ApiKinds.Text.Case

namespace ApiKinds.Word

open Text

/-! ## Joining words -/

/-- The characters between words. -/
def isSeparator (c : Char) : Bool :=
  c == '-' || c == '_' || isBlank c

/-- The words of a text, none of them empty. -/
def ofText (s : List Char) : List (List Char) :=
  (pieces isSeparator s).filter (!·.isEmpty)

/-- `user-profiles` is `UserProfiles`, and `API` is `Api`. -/
def pascalCase (s : String) : String :=
  .ofList ((ofText s.toList).flatMap capitalize)

/-- `upload-imageFile` is `UploadImageFile`. -/
def upperCamelCase (s : String) : String :=
  .ofList ((ofText s.toList).flatMap raiseFirst)

/-! ## Singular and plural -/

/-- The endings of plurals in `-es`. -/
def sibilantEndings : List String :=
  ["sses", "ses", "xes", "zes", "ches", "shes"]

/-- The text without its last `n` characters. -/
def dropLast (n : Nat) (s : String) : String :=
  .ofList (s.toList.take (s.toList.length - n))

/-- The singular of a noun: `-ies` becomes `-y`, a sibilant ending loses its `es`,
    another single `s` at the end goes. -/
def singular (s : String) : String :=
  match dropSuffix? "ies" s with
  | some stem => stem ++ "y"
  | none =>
    if sibilantEndings.any (hasSuffix · s) then dropLast 2 s
    else if hasSuffix "s" s && !hasSuffix "ss" s then dropLast 1 s
    else s

/-- The plural of a noun: `-y` becomes `-ies`, after `s`, `x` and `ch` an `es` is
    added, and otherwise an `s`. -/
def plural (s : String) : String :=
  match dropSuffix? "y" s with
  | some stem => stem ++ "ies"
  | none =>
    if hasSuffix "s" s || hasSuffix "x" s || hasSuffix "ch" s then s ++ "es" else s ++ "s"

/-- The name of the Kind that a segment stands for. -/
def kindName (segment : String) : String :=
  singular (pascalCase segment)

/-! ## Keywords -/

/-- The words that mark a segment as an operation. -/
def actionKeywords : List String :=
  ["upload", "download", "find", "search", "get", "create", "delete", "update", "list", "login",
    "logout", "check", "validate", "verify", "send", "receive", "export", "import", "sync",
    "refresh", "reset"]

/-- The words that make an operation of a path that can only be read. -/
def strongActionKeywords : List String :=
  ["login", "logout", "signin", "signout", "register", "verify", "activate", "deactivate",
    "reset", "refresh", "revoke", "authorize", "authenticate", "token"]

/-- Whether one of the keywords occurs in the small form of a text. -/
def mentions (keywords : List String) (s : String) : Bool :=
  keywords.any (Text.contains · (lowercase s))

/-- Whether a segment looks like an operation: `uploadImage`, `findByStatus`. -/
def isAction (segment : String) : Bool :=
  mentions actionKeywords segment

/-- Whether a segment names an operation that is more than a look-up: `login`. -/
def isStrongAction (segment : String) : Bool :=
  mentions strongActionKeywords segment

end ApiKinds.Word
