/-
  References to components, such as `#/components/schemas/Pet`.

  * `escapeName`, `unescapeName`: in a reference `~` is written `~0` and `/` is
    written `~1`.
  * `componentOf?` splits a reference into section and name.
  * `follow` goes from reference to reference inside one section until it finds an
    object, for at most `maxHops` steps.
  * `Document.schema?`, `Document.parameter?`, `Document.requestBody?`,
    `Document.response?`: what an object or reference stands for.
-/
import ApiKinds.Api.Document
import ApiKinds.Text.Basic

namespace ApiKinds.Api

open Text

/-! ## References -/

/-- A name as a reference writes it. -/
def escapeName : List Char → List Char
  | [] => []
  | c :: rest =>
    if c = '~' then '~' :: '0' :: escapeName rest
    else if c = '/' then '~' :: '1' :: escapeName rest
    else c :: escapeName rest

/-- Replaces every `~` that `code` follows by `plain`, from the left. -/
def replaceCode (code plain : Char) : List Char → List Char
  | [] => []
  | [c] => [c]
  | c :: d :: rest =>
    if c = '~' ∧ d = code then plain :: replaceCode code plain rest
    else c :: replaceCode code plain (d :: rest)

/-- The name that a reference writes: first `~1` is read as a slash, then `~0` as a
    tilde. -/
def unescapeName (s : List Char) : List Char :=
  replaceCode '0' '~' (replaceCode '1' '/' s)

/-- Section and name of a reference to a component; the name is one segment. -/
def componentOf? (reference : String) : Option (String × String) := do
  let rest ← dropPrefix? "#/components/" reference
  let (kind, name) ← splitOnce '/' rest
  if name == "" || name.toList.contains '/' then none
  else some (kind, .ofList (unescapeName name.toList))

/-- The last segment of the part behind `#`, as it is written. -/
def lastSegment (reference : String) : String :=
  match splitOnce '#' reference with
  | some (_, fragment) => afterLast '/' fragment
  | none => ""

/-! ## Following references -/

/-- The sections of the components. -/
inductive Section where
  | schemas
  | parameters
  | requestBodies
  | responses
deriving DecidableEq, Repr

def Section.name : Section → String
  | schemas => "schemas"
  | parameters => "parameters"
  | requestBodies => "requestBodies"
  | responses => "responses"

/-- The name that a reference has in a section. -/
def nameIn? (kind : Section) (reference : String) : Option String :=
  match componentOf? reference with
  | some (found, name) => if found = kind.name then some name else none
  | none => none

/-- How many references in a row are followed. -/
def maxHops : Nat := 16

variable {α : Type}

/-- The object at the end of a chain of references inside a section. -/
def follow (kind : Section) (entries : Dict (RefOr α)) : Nat → String → Option α
  | 0, _ => none
  | hops + 1, reference => do
    let name ← nameIn? kind reference
    match ← entries.get? name with
    | .inline value => some value
    | .ref next => follow kind entries hops next

/-- The object itself, or the one its reference leads to. -/
def resolveIn (kind : Section) (entries : Option (Dict (RefOr α))) : RefOr α → Option α
  | .inline value => some value
  | .ref reference => entries.bind (follow kind · maxHops reference)

namespace Document

def schema? (doc : Document) : RefOr Schema → Option Schema :=
  resolveIn .schemas (doc.components.map (·.schemas))

def parameter? (doc : Document) : RefOr Parameter → Option Parameter :=
  resolveIn .parameters (doc.components.map (·.parameters))

def requestBody? (doc : Document) : RefOr RequestBody → Option RequestBody :=
  resolveIn .requestBodies (doc.components.map (·.requestBodies))

def response? (doc : Document) : RefOr Response → Option Response :=
  resolveIn .responses (doc.components.map (·.responses))

end Document

end ApiKinds.Api
