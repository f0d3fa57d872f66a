/-
  What can go wrong between a file and its catalog.

  * `Failure`: the causes.
  * `Failure.message`: their wording.
-/
import ApiKinds.Api.Validity
import ApiKinds.Swagger.Upgrade

namespace ApiKinds

/-- Why a configuration cannot be used. -/
inductive ConfigError where
  | unreadable (path : String)
  | malformed
  /-- An example is not written over a file. -/
  | alreadyExists (path : String)
deriving DecidableEq, Repr

def ConfigError.message : ConfigError → String
  | unreadable path => "Failed to read config file " ++ Text.quoted path
  | malformed => "Failed to parse config YAML"
  | alreadyExists path => "config file already exists: " ++ path

/-- Why there is no result. -/
inductive Failure where
  /-- A file cannot be read or written. -/
  | file (path : String)
  /-- A text is no YAML. -/
  | yaml
  /-- A text is no JSON of the wanted form. -/
  | json
  /-- A document is no Swagger 2.0 description. -/
  | swagger
  /-- A document is no OpenAPI description. -/
  | api
  | upgrade (cause : Swagger.UpgradeError)
  | invalid (cause : Api.ValidityError)
  | config (cause : ConfigError)
deriving DecidableEq, Repr

namespace Failure

def message : Failure → String
  | file path => "Failed to read spec " ++ path
  | yaml => "Failed to parse spec as YAML"
  | json => "Failed to parse JSON"
  | swagger => "Failed to parse Swagger 2.0 spec"
  | api => "Failed to parse OpenAPI spec"
  | upgrade cause => "Failed to convert Swagger 2.0 to OpenAPI 3.0: " ++ cause.message
  | invalid cause => "Invalid OpenAPI spec: " ++ cause.message
  | config cause => "Invalid configuration: " ++ cause.message

end Failure

end ApiKinds
