/-
  Paths of an API, such as `/store/order/{orderId}`: their segments, and what
  their shape says about the resource they belong to.

  * `segments` ignores slashes at both ends; the root path has one empty segment.
  * `identifies param segment`: a parameter names the entity that the segment
    stands for, as `orderId` does for `order`, and `id` for anything.
  * `resourceName` is the Kind a path belongs to, `basePath` the path of the
    collection it lies in.
  * `isIdPath`, `collectionOf?`: a path that ends in a segment and its own
    parameter addresses one entity of the collection before the parameter.
-/
import ApiKinds.Word

namespace ApiKinds.Path

open Text Word

/-! ## Segments -/

/-- The segments of a path. -/
def segments (path : String) : List String :=
  splitOn '/' (trimChar '/' path)

/-- The path with the given segments. -/
def ofSegments (parts : List String) : String :=
  "/" ++ join "/" parts

/-- Whether a segment is a template parameter: `{petId}`. -/
def isParam (segment : String) : Bool :=
  hasPrefix "\x7b" segment

/-- The name between the braces of a parameter. -/
def paramName? (segment : String) : Option String :=
  (dropPrefix? "\x7b" segment).bind (dropSuffix? "\x7d")

/-- Whether the path has no segment at all. -/
def isRoot (path : String) : Bool :=
  (trimChar '/' path) == ""

/-! ## Parameters that identify an entity -/

/-- Whether a parameter identifies the entities named by a segment. With
    `trySingular`, its singular is looked for as well. -/
def identifies (trySingular : Bool) (param segment : String) : Bool :=
  let param := lowercase param
  Text.contains (lowercase segment) param ||
    (trySingular && Text.contains (lowercase (singular segment)) param) ||
    param == "id"

/-- Whether the segment behind `segment`, if any, is a parameter identifying it. -/
def identifiedBy (trySingular : Bool) (segment : String) (next : Option String) : Bool :=
  match next.bind paramName? with
  | some param => identifies trySingular param segment
  | none => false

/-! ## The resource of a path -/

/-- Looks from the end for the segment that names the resource; `next` is the
    segment behind the list, whose last segment comes first. A segment in the middle
    counts if its own parameter follows, the last one also if it is neither an
    operation nor a collection inside an entity. -/
def namingSegment? (next : Option String) : List String → Option String
  | [] => none
  | part :: before =>
    if isParam part then namingSegment? (some part) before
    else if identifiedBy true part next then some part
    else if next.isNone && !isAction part && !before.head?.any isParam then some part
    else namingSegment? (some part) before

/-- The Kind that a path belongs to: `/pet/{petId}/uploadImage` belongs to `Pet`. The
    root path belongs to the root Kind, if there is one. -/
def resourceName (path : String) (rootKind : Option String) : String :=
  if isRoot path then rootKind.getD ""
  else
    let parts := segments path
    match namingSegment? none parts.reverse <|> parts.find? (!isParam ·) with
    | some part => kindName part
    | none => ""

/-- The segments up to the first that is empty, a parameter or an operation, or up
    to one whose own parameter follows, which is included. -/
def baseSegments : List String → List String
  | [] => []
  | part :: rest =>
    if part == "" || isParam part || isAction part then []
    else if identifiedBy false part rest.head? then [part]
    else part :: baseSegments rest

/-- The path of the collection that a path lies in. -/
def basePath (path : String) : String :=
  ofSegments (baseSegments (segments path))

/-- Whether a path addresses one entity: `/pet/{petId}`. -/
def isIdPath (path : String) : Bool :=
  match (segments path).reverse with
  | last :: owner :: _ =>
    (paramName? last).isSome && !isParam owner && identifiedBy true owner (some last)
  | _ => false

/-- The collection that the entity of an ID path lies in. -/
def collectionOf? (path : String) : Option String :=
  if isIdPath path then some (ofSegments (segments path).dropLast) else none

end ApiKinds.Path
