/-
  Catalogs and reports that are written and read back.

  * `Report.read?_toJson`: every report is read back, with all outcomes and reasons.
  * `Catalog.read?_toJson`: so is every catalog whose shapes can be stored. All other parts of it
    are texts, flags and members of enumerations.
-/
import ApiKinds.Proofs.Catalog.Shape
import ApiKinds.Proofs.Survey.Shapes

namespace ApiKinds

open Json

/-! ## Enumerations -/

theorem Method.read?_toJson (method : Method) : read? method.toJson = some method := by
  cases method <;> rfl

theorem ParamLocation.read?_toJson (location : ParamLocation) :
    read? location.toJson = some location := by
  cases location <;> rfl

/-- An outcome is written by its name, but for what is filtered, which has a reason. -/
theorem Outcome.read?_toJson (outcome : Outcome) : read? outcome.toJson = some outcome := by
  cases outcome with
  | filtered reason => cases reason <;> rfl
  | _ => rfl

/-! ## Reports -/

theorem Row.read?_toJson (row : Row) : read? row.toJson = some row := by
  unfold read? toJson
  refine bind_eq_some (fullRecord?_object rfl (by decide)) ?_
  refine bind_eq_some (Record.required_of_find? rfl rfl) ?_
  refine bind_eq_some (Record.required_of_find? rfl rfl) ?_
  refine bind_eq_some (Record.required_of_find? rfl row.outcome.read?_toJson) ?_
  refine bind_eq_some (Record.optional_string rfl) ?_
  exact bind_eq_some (Record.optional_string rfl) rfl

theorem Report.read?_toJson (report : Report) : read? report.toJson = some report := by
  unfold read? toJson
  refine bind_eq_some (fullRecord?_object rfl (by decide)) ?_
  exact bind_eq_some
    (Record.required_of_find? rfl (listOf?_ofList fun row _ => row.read?_toJson)) rfl

/-! ## Catalogs -/

theorem Param.read?_toJson (param : Param) : read? param.toJson = some param := by
  unfold read? toJson
  refine bind_eq_some (fullRecord?_object rfl (by decide)) ?_
  refine bind_eq_some (Record.required_of_find? rfl rfl) ?_
  refine bind_eq_some (Record.required_of_find? rfl param.location.read?_toJson) ?_
  refine bind_eq_some (Record.required_of_find? rfl rfl) ?_
  refine bind_eq_some (Record.optional_string rfl) ?_
  refine bind_eq_some (Record.optional_string rfl) ?_
  exact bind_eq_some (Record.optional_string rfl) rfl

namespace Json.Record

variable {r : Record} {name : String}

theorem optional_shape {o : Option Shape} (hfind : r.find? name = some (optionalShape o))
    (h : ∀ shape, o = some shape → shape.Storable) : r.optional name Shape.read? = some o :=
  optional_ofOption hfind rfl fun shape hshape => Shape.read?_toJson (h shape hshape)

theorem required_params {params : List Param}
    (hfind : r.find? name = some (.ofList Param.toJson params)) :
    r.required name (listOf? Param.read?) = some params :=
  required_of_find? hfind (listOf?_ofList fun param _ => param.read?_toJson)

end Json.Record

theorem ResourceOperation.read?_toJson {operation : ResourceOperation}
    (hrequest : ∀ shape, operation.requestBody = some shape → shape.Storable)
    (hresponse : ∀ shape, operation.responseBody = some shape → shape.Storable) :
    read? operation.toJson = some operation := by
  unfold read? toJson
  refine bind_eq_some (fullRecord?_object rfl (by decide)) ?_
  refine bind_eq_some (Record.required_of_find? rfl operation.method.read?_toJson) ?_
  refine bind_eq_some (Record.required_of_find? rfl rfl) ?_
  refine bind_eq_some (Record.optional_string rfl) ?_
  refine bind_eq_some (Record.optional_string rfl) ?_
  refine bind_eq_some (Record.optional_shape rfl hrequest) ?_
  refine bind_eq_some (Record.optional_shape rfl hresponse) ?_
  refine bind_eq_some (Record.required_params rfl) ?_
  exact bind_eq_some (Record.required_params rfl) rfl

theorem Resource.read?_toJson {resource : Resource}
    (hoperations : ∀ operation ∈ resource.operations,
      ResourceOperation.read? operation.toJson = some operation)
    (hschema : ∀ shape, resource.schema = some shape → shape.Storable) :
    read? resource.toJson = some resource := by
  unfold read? toJson
  refine bind_eq_some (fullRecord?_object rfl (by decide)) ?_
  refine bind_eq_some (Record.required_of_find? rfl rfl) ?_
  refine bind_eq_some (Record.required_of_find? rfl rfl) ?_
  refine bind_eq_some (Record.required_of_find? rfl rfl) ?_
  refine bind_eq_some (Record.required_of_find? rfl (listOf?_ofList hoperations)) ?_
  refine bind_eq_some (Record.optional_shape rfl hschema) ?_
  exact bind_eq_some (Record.optional_string rfl) rfl

theorem QueryEndpoint.read?_toJson {endpoint : QueryEndpoint}
    (hresponse : ∀ shape, endpoint.responseSchema = some shape → shape.Storable) :
    read? endpoint.toJson = some endpoint := by
  unfold read? toJson
  refine bind_eq_some (fullRecord?_object rfl (by decide)) ?_
  refine bind_eq_some (Record.required_of_find? rfl rfl) ?_
  refine bind_eq_some (Record.optional_string rfl) ?_
  refine bind_eq_some (Record.required_of_find? rfl rfl) ?_
  refine bind_eq_some (Record.required_of_find? rfl rfl) ?_
  refine bind_eq_some (Record.required_of_find? rfl rfl) ?_
  refine bind_eq_some (Record.optional_string rfl) ?_
  refine bind_eq_some (Record.optional_string rfl) ?_
  refine bind_eq_some (Record.required_params rfl) ?_
  refine bind_eq_some (Record.required_params rfl) ?_
  refine bind_eq_some (Record.optional_shape rfl hresponse) ?_
  refine bind_eq_some (Record.optional_string rfl) ?_
  exact bind_eq_some (Record.required_of_find? rfl rfl) rfl

theorem ActionEndpoint.read?_toJson {endpoint : ActionEndpoint}
    (hrequest : ∀ shape, endpoint.requestSchema = some shape → shape.Storable)
    (hresponse : ∀ shape, endpoint.responseSchema = some shape → shape.Storable) :
    read? endpoint.toJson = some endpoint := by
  unfold read? toJson
  refine bind_eq_some (fullRecord?_object rfl (by decide)) ?_
  refine bind_eq_some (Record.required_of_find? rfl rfl) ?_
  refine bind_eq_some (Record.optional_string rfl) ?_
  refine bind_eq_some (Record.required_of_find? rfl rfl) ?_
  refine bind_eq_some (Record.optional_string rfl) ?_
  refine bind_eq_some (Record.optional_string rfl) ?_
  refine bind_eq_some (Record.optional_string rfl) ?_
  refine bind_eq_some (Record.required_of_find? rfl rfl) ?_
  refine bind_eq_some (Record.required_of_find? rfl endpoint.method.read?_toJson) ?_
  refine bind_eq_some (Record.optional_string rfl) ?_
  refine bind_eq_some (Record.optional_string rfl) ?_
  refine bind_eq_some (Record.required_params rfl) ?_
  refine bind_eq_some (Record.required_params rfl) ?_
  refine bind_eq_some (Record.optional_shape rfl hrequest) ?_
  refine bind_eq_some (Record.optional_shape rfl hresponse) ?_
  refine bind_eq_some (Record.required_of_find? rfl rfl) ?_
  exact bind_eq_some (Record.optional_string rfl) rfl

/-- A catalog whose shapes can be stored is read back as it was written. -/
theorem Catalog.read?_toJson {catalog : Catalog}
    (h : ∀ shape, catalog.Displays shape → shape.Storable) :
    read? catalog.toJson = some catalog := by
  have hoperation (resource) (hresource : resource ∈ catalog.resources) (operation)
      (hmem : operation ∈ resource.operations) :
      ResourceOperation.read? operation.toJson = some operation :=
    ResourceOperation.read?_toJson
      (fun shape hshape => h shape (.requestBody hresource hmem hshape))
      fun shape hshape => h shape (.responseBody hresource hmem hshape)
  have hresource (resource) (hmem : resource ∈ catalog.resources) :
      Resource.read? resource.toJson = some resource :=
    Resource.read?_toJson (hoperation resource hmem) fun shape hshape =>
      h shape (.resource hmem hshape)
  have hquery (endpoint) (hmem : endpoint ∈ catalog.queryEndpoints) :
      QueryEndpoint.read? endpoint.toJson = some endpoint :=
    QueryEndpoint.read?_toJson fun shape hshape => h shape (.queryResponse hmem hshape)
  have haction (endpoint) (hmem : endpoint ∈ catalog.actionEndpoints) :
      ActionEndpoint.read? endpoint.toJson = some endpoint :=
    ActionEndpoint.read?_toJson (fun shape hshape => h shape (.actionRequest hmem hshape))
      fun shape hshape => h shape (.actionResponse hmem hshape)
  have hschema (name shape) (hget : catalog.schemas.get? name = some shape) :
      Shape.read? shape.toJson = some shape :=
    Shape.read?_toJson (h shape (.schema hget))
  unfold read? toJson
  refine bind_eq_some (fullRecord?_object rfl (by decide)) ?_
  refine bind_eq_some (Record.required_of_find? rfl rfl) ?_
  refine bind_eq_some (Record.required_of_find? rfl rfl) ?_
  refine bind_eq_some (Record.optional_string rfl) ?_
  refine bind_eq_some (Record.optional_string rfl) ?_
  refine bind_eq_some (Record.required_of_find? rfl (listOf?_ofList hresource)) ?_
  refine bind_eq_some (Record.required_of_find? rfl (listOf?_ofList hquery)) ?_
  refine bind_eq_some (Record.required_of_find? rfl (listOf?_ofList haction)) ?_
  exact bind_eq_some (Record.required_of_find? rfl (dictOf?_ofEntries hschema)) rfl

end ApiKinds
