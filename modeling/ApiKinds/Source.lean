/-
  Descriptions of an API as bytes.

  * `Dialect.ofBytes`: which of the two sorts of documents it is, by a word in it.
  * `Api.Document.ofBytes`, `Swagger.Document.ofBytes`: JSON is read as it stands;
    anything else is YAML, and read by way of the JSON that it stands for.
  * `Api.Document.load`: documents of the older sort are upgraded; every document is
    checked.
-/
import ApiKinds.Api.Reading
import ApiKinds.Failure
import ApiKinds.Swagger.Reading
import ApiKinds.Swagger.TypeList
import ApiKinds.Yaml.Reading
import ApiKinds.Yaml.ToJson

namespace ApiKinds

/-! ## Dialects -/

/-- The sorts of descriptions. -/
inductive Dialect where
  | swagger2
  | openApi3
deriving DecidableEq, Repr

/-- Whether some bytes follow each other somewhere. -/
def hasBytes (needle : List UInt8) : List UInt8 → Bool
  | [] => needle.isEmpty
  | b :: rest => needle.isPrefixOf (b :: rest) || hasBytes needle rest

/-- The key of a version, in JSON and in YAML. -/
def swaggerMarks : List String :=
  ["\"swagger\"", "swagger:"]

/-- A description is of the older sort if it mentions its version key. -/
def Dialect.ofBytes (bytes : List UInt8) : Dialect :=
  if swaggerMarks.any fun mark => hasBytes mark.toUTF8.toList bytes then swagger2 else openApi3

/-! ## Documents -/

/-- The JSON that a YAML text stands for. -/
def jsonOfYaml (bytes : List UInt8) : Except Failure Json :=
  match Yaml.Value.read? bytes with
  | some value => .ok value.toJson
  | none => .error .yaml

/-- What is read, or a failure. -/
def orFail {α : Type} (failure : Failure) : Option α → Except Failure α
  | some a => .ok a
  | none => .error failure

/-- The model of an OpenAPI description. -/
def Api.Document.ofBytes (bytes : List UInt8) : Except Failure Document :=
  match readJson? bytes with
  | some doc => .ok doc
  | none => do orFail .api (read? (← jsonOfYaml bytes))

/-- The model of a Swagger description. -/
def Swagger.Document.ofBytes (bytes : List UInt8) : Except Failure Document :=
  match readJson? bytes with
  | some doc => .ok doc
  | none => do orFail .swagger (read? (listTypes (← jsonOfYaml bytes)))

/-- The upgraded model of a Swagger description. -/
def Swagger.Document.loadUpgraded (bytes : List UInt8) : Except Failure Api.Document := do
  (upgrade (← ofBytes bytes)).mapError .upgrade

/-- A document that is checked. -/
def Api.Document.checked (doc : Document) (check : Document → Check) : Except Failure Document :=
  match check doc with
  | .ok () => .ok doc
  | .error cause => .error (.invalid cause)

/-- The checked model of a description of either sort. -/
def Api.Document.load (bytes : List UInt8) : Except Failure Document :=
  match Dialect.ofBytes bytes with
  | .swagger2 => do (← Swagger.Document.loadUpgraded bytes).checked checkLeniently
  | .openApi3 => do (← ofBytes bytes).checked check

end ApiKinds
