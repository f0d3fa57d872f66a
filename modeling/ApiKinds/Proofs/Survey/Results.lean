/-
  What a query says of its result, beside the shape of the result.

  * `Document.StandsFor`: a schema stands for a component, behind its wrappers.
  * `Document.TypedBy`: the schema that another one has its type from, behind its references and
    wrappers.
  * `Expansion.component_iff`, `Expansion.type_iff`: the component and the type of a shape are
    those that the schema stands for and is typed by.
  * `query_agrees_iff`: a query, which looks at the schema as it is written, agrees with the shape
    just if the schema is what it says in place.
-/
import ApiKinds.Proofs.Expansion.Constraints
import ApiKinds.Proofs.Survey.Shapes

namespace ApiKinds

open Api

/-! ## Behind references and wrappers -/

namespace Api.Document

/-- A schema stands for a component: it is a reference that leads to a schema, or it wraps a
    member that stands for the component. -/
inductive StandsFor (doc : Document) : RefOr Schema → String → Prop
  | ref {reference target} : doc.schema? (.ref reference) = some target →
      StandsFor doc (.ref reference) (lastSegment reference)
  | wrapped {schema member component} : schema.wrapped? = some member →
      StandsFor doc member component → StandsFor doc (.inline schema) component

/-- Inside the components being expanded, a schema has its type from another one: that behind its
    references and wrappers, or the first component on this way that is entered already. -/
inductive TypedBy (doc : Document) : List String → RefOr Schema → Schema → Prop
  | plain {inside schema} :
      (∀ member, schema.wrapped? = some member → doc.schema? member = none) →
      TypedBy doc inside (.inline schema) schema
  | wrapped {inside schema member source} : schema.wrapped? = some member →
      TypedBy doc inside member source → TypedBy doc inside (.inline schema) source
  | entered {inside reference target source} : doc.schema? (.ref reference) = some target →
      lastSegment reference ∉ inside →
      TypedBy doc (lastSegment reference :: inside) (.inline target) source →
      TypedBy doc inside (.ref reference) source
  | cut {inside reference target} : doc.schema? (.ref reference) = some target →
      lastSegment reference ∈ inside → TypedBy doc inside (.ref reference) target

section
variable {doc : Document} {inside : List String} {reference component : String}
  {schema source target : Schema} {member : RefOr Schema}

theorem not_standsFor_of_dangling (h : doc.schema? (.ref reference) = none) :
    ¬ doc.StandsFor (.ref reference) component := by
  rintro ⟨htarget⟩
  cases h.symm.trans htarget

theorem standsFor_ref_iff (h : doc.schema? (.ref reference) = some target) :
    doc.StandsFor (.ref reference) component ↔ lastSegment reference = component := by
  constructor
  · rintro ⟨-⟩
    rfl
  · rintro rfl
    exact .ref h

theorem standsFor_inline_iff : doc.StandsFor (.inline schema) component ↔
    ∃ member, schema.wrapped? = some member ∧ doc.StandsFor member component := by
  constructor
  · rintro (_ | ⟨hwrapped, hmember⟩)
    exact ⟨_, hwrapped, hmember⟩
  · rintro ⟨member, hwrapped, hmember⟩
    exact .wrapped hwrapped hmember

/-- Only what leads to a schema has its type from one. -/
theorem TypedBy.schema?_ne_none (h : doc.TypedBy inside member source) :
    doc.schema? member ≠ none := by
  cases h with
  | plain => exact Option.some_ne_none _
  | wrapped => exact Option.some_ne_none _
  | entered htarget => simp [htarget]
  | cut htarget => simp [htarget]

theorem typedBy_cut_iff (h : doc.schema? (.ref reference) = some target)
    (hinside : lastSegment reference ∈ inside) :
    doc.TypedBy inside (.ref reference) source ↔ source = target := by
  constructor
  · intro hsource
    cases hsource with
    | entered _ houtside => exact absurd hinside houtside
    | cut htarget => exact Option.some.inj (htarget.symm.trans h)
  · rintro rfl
    exact .cut h hinside

theorem typedBy_entered_iff (h : doc.schema? (.ref reference) = some target)
    (houtside : lastSegment reference ∉ inside) : doc.TypedBy inside (.ref reference) source ↔
      doc.TypedBy (lastSegment reference :: inside) (.inline target) source := by
  constructor
  · intro hsource
    cases hsource with
    | entered htarget _ hsource => rwa [Option.some.inj (h.symm.trans htarget)]
    | cut _ hinside => exact absurd hinside houtside
  · exact .entered h houtside

theorem typedBy_wrapped_iff (h : schema.wrapped? = some member)
    (hmember : doc.schema? member ≠ none) :
    doc.TypedBy inside (.inline schema) source ↔ doc.TypedBy inside member source := by
  constructor
  · intro hsource
    cases hsource with
    | plain hnone => exact absurd (hnone member h) hmember
    | wrapped hwrapped hsource => rwa [Option.some.inj (h.symm.trans hwrapped)]
  · exact .wrapped h

theorem typedBy_plain_iff
    (h : ∀ member, schema.wrapped? = some member → doc.schema? member = none) :
    doc.TypedBy inside (.inline schema) source ↔ source = schema := by
  constructor
  · intro hsource
    cases hsource with
    | plain => rfl
    | wrapped hwrapped hsource => exact absurd (h _ hwrapped) hsource.schema?_ne_none
  · rintro rfl
    exact .plain h

end

end Api.Document

/-! ## Components and types of shapes -/

section
variable {doc : Document} {inside : List String} {name : String} {schema : RefOr Schema}
  {result : Option Shape}

/-- What has no shape leads to nothing. -/
theorem Expansion.schema?_eq_none (run : Expansion doc inside name schema none) :
    doc.schema? schema = none := by
  cases run with
  | dangling htarget => exact htarget

/-- The component of a shape is the one that its schema stands for. -/
theorem Expansion.component_iff (run : Expansion doc inside name schema result)
    {component : String} :
    result.bind (·.component) = some component ↔ doc.StandsFor schema component := by
  induction run with
  | dangling htarget =>
    constructor
    · rintro ⟨⟩
    · exact fun hstands => absurd hstands (Document.not_standsFor_of_dangling htarget)
  | cut htarget =>
    rw [Document.standsFor_ref_iff htarget]
    simp [stub]
  | entered htarget =>
    rw [Document.standsFor_ref_iff htarget]
    simp
  | @wrapped _ _ _ member shape hwrapped _ ih =>
    rw [Document.standsFor_inline_iff, hwrapped]
    simpa [Shape.under] using ih
  | plain _ _ _ _ _ _ _ ihmember =>
    -- the member that it wraps, if any, has no shape
    rw [Document.standsFor_inline_iff]
    constructor
    · rintro ⟨⟩
    · rintro ⟨member, hwrapped, hmember⟩
      cases (ihmember member hwrapped).2 hmember

/-- The type of a shape is that of the schema that its schema is typed by. -/
theorem Expansion.type_iff (run : Expansion doc inside name schema result) {type : String} :
    result.bind (·.type) = some type ↔
      ∃ source, doc.TypedBy inside schema source ∧ source.impliedType = some type := by
  induction run with
  | dangling htarget =>
    constructor
    · rintro ⟨⟩
    · rintro ⟨_, hsource, -⟩
      exact absurd htarget hsource.schema?_ne_none
  | cut htarget hinside => simp [Document.typedBy_cut_iff htarget hinside, stub]
  | entered htarget houtside _ ih =>
    simp only [Document.typedBy_entered_iff htarget houtside, ← ih, Option.bind_some]
  | wrapped hwrapped run ih =>
    have hmember := Option.isSome_iff_ne_none.1 run.schema?_isSome
    simp only [Document.typedBy_wrapped_iff hwrapped hmember, ← ih, Option.bind_some, Shape.under]
  | plain _ _ hmember =>
    have hnone := fun member hwrapped => (hmember member hwrapped).schema?_eq_none
    simp [Document.typedBy_plain_iff hnone, Schema.trait]

/-- The shape of a schema with types has the shape of its items. -/
theorem Expansion.items_eq {shape : Shape} (run : Expansion doc [] name schema (some shape))
    {target : Schema} (htarget : doc.schema? schema = some target) (htypes : target.types ≠ []) :
    (target.items = none → shape.items = none) ∧ ∀ part, target.items = some part →
      ∃ inside, Expansion doc inside "Items" part shape.items := by
  have hinline : ∀ {inside shape}, Expansion doc inside name (.inline target) (some shape) →
      (target.items = none → shape.items = none) ∧ ∀ part, target.items = some part →
        ∃ inside, Expansion doc inside "Items" part shape.items := by
    intro inside shape run
    cases run with
    | wrapped hwrapped => exact absurd (wrapped?_eq_some_iff.1 hwrapped).2.1 htypes
    | plain _ _ _ _ _ hnone hitems => exact ⟨hnone, fun part hpart => ⟨inside, hitems part hpart⟩⟩
  cases schema with
  | inline schema =>
    cases htarget
    exact hinline run
  | ref reference =>
    cases run with
    | cut _ hinside => cases hinside
    | entered htarget' _ run =>
      cases htarget.symm.trans htarget'
      have hparts := hinline run
      exact hparts

end

/-! ## Results -/

/-- The schema whose component a query shows: that of the items, if it lists arrays. -/
def shownPart? (schema : RefOr Schema) (target : Schema) : Option (RefOr Schema) :=
  if "array" ∈ target.types then target.items else some schema

/-- A schema stands for the component that it refers to in place, if any, and for no other. -/
def Api.Document.NamedInPlace (doc : Document) (schema : RefOr Schema) : Prop :=
  ∀ component, doc.StandsFor schema component ↔ schema.target?.map lastSegment = some component

/-- A schema is what it says in place. -/
structure Api.Document.SpeaksPlainly (doc : Document) (schema : RefOr Schema) (target : Schema) :
    Prop where
  /-- It lists arrays among its types just if the schema that it is typed by is an array. -/
  isArray : "array" ∈ target.types ↔
    ∃ source, doc.TypedBy [] schema source ∧ source.impliedType = some "array"
  /-- Its items, or it itself if it lists no arrays, stand for what they refer to in place. -/
  component : ∀ part, shownPart? schema target = some part → doc.NamedInPlace part

/-- What a query says of its result agrees with the shape of the result. -/
structure QueryEndpoint.Agrees (endpoint : QueryEndpoint) (shape : Shape) : Prop where
  isArray : endpoint.responseIsArray ↔ shape.type = some "array"
  component : endpoint.responseComponent =
    if shape.type = some "array" then shape.items.bind (·.component) else shape.component

section
variable {doc : Document} {schema : RefOr Schema} {target : Schema} {shape : Shape}

theorem queryResult_eq (htarget : doc.schema? schema = some target) :
    queryResult doc schema = ⟨"array" ∈ target.types,
      ((shownPart? schema target).bind RefOr.target?).map lastSegment⟩ := by
  rw [queryResult, htarget, shownPart?]
  by_cases harray : "array" ∈ target.types <;> simp [harray]

/-- The component of the items of a shape, or of the shape itself. -/
theorem component_shown_iff {name : String} (run : Expansion doc [] name schema (some shape))
    (htarget : doc.schema? schema = some target) {component : String} :
    (if "array" ∈ target.types then shape.items.bind (·.component) else shape.component) =
        some component ↔
      ∃ part, shownPart? schema target = some part ∧ doc.StandsFor part component := by
  rw [shownPart?]
  by_cases harray : "array" ∈ target.types
  · rw [if_pos harray, if_pos harray]
    obtain ⟨hnone, hsome⟩ := run.items_eq htarget (List.ne_nil_of_mem harray)
    cases hitems : target.items with
    | none => simp [hnone hitems]
    | some part =>
      obtain ⟨inside, hpart⟩ := hsome part hitems
      rw [hpart.component_iff]
      simp
  · rw [if_neg harray, if_neg harray]
    have hcomponent : shape.component = some component ↔ doc.StandsFor schema component :=
      run.component_iff
    simpa using hcomponent

/-- What is read off the schema in place agrees with the shape just if the schema is what it says
    in place. -/
theorem agrees_iff {endpoint : QueryEndpoint} {name : String}
    (run : Expansion doc [] name schema (some shape)) (htarget : doc.schema? schema = some target)
    (hisArray : endpoint.responseIsArray = (queryResult doc schema).isArray)
    (hcomponent : endpoint.responseComponent = (queryResult doc schema).component) :
    endpoint.Agrees shape ↔ doc.SpeaksPlainly schema target := by
  rw [queryResult_eq htarget] at hisArray hcomponent
  have htype : shape.type = some "array" ↔
      ∃ source, doc.TypedBy [] schema source ∧ source.impliedType = some "array" := by
    rw [← run.type_iff, Option.bind_some]
  have harray : endpoint.responseIsArray ↔ "array" ∈ target.types := by
    rw [hisArray, decide_eq_true_iff]
  have hshown : ∀ (hsame : shape.type = some "array" ↔ "array" ∈ target.types) (component : String),
      (if shape.type = some "array" then shape.items.bind (·.component) else shape.component) =
          some component ↔
        ∃ part, shownPart? schema target = some part ∧ doc.StandsFor part component := by
    intro hsame component
    rw [← component_shown_iff run htarget, if_congr hsame rfl rfl]
  constructor
  · rintro ⟨hagree, hnamed⟩
    refine ⟨harray.symm.trans (hagree.trans htype), fun part hpart component => ?_⟩
    have hpartNamed := hshown (hagree.symm.trans harray) component
    rw [← hnamed, hcomponent, hpart] at hpartNamed
    simpa using hpartNamed.symm
  · rintro ⟨hplain, hnamed⟩
    refine ⟨harray.trans (hplain.trans htype.symm), Option.ext fun component => ?_⟩
    rw [hshown (htype.trans hplain.symm), hcomponent]
    cases hpart : shownPart? schema target with
    | none => simp
    | some part => simpa using (hnamed part hpart component).symm

/-- **A query says of its result what the shape of the result says** just if the schema of the
    response is what it says in place. -/
theorem query_agrees_iff {doc : Document} {filter : Option PathFilter}
    {rootKind : Option String} {endpoint : QueryEndpoint}
    (h : endpoint ∈ (doc.survey filter rootKind).queryEndpoints) {shape : Shape}
    (hshape : endpoint.responseSchema = some shape) :
    ∃ item operation schema target, doc.pathItems.get? endpoint.path = some item ∧
      item.get = some operation ∧ responseSchema? doc operation = some schema ∧
      doc.schema? schema = some target ∧ doc.shape? "Response" schema = some shape ∧
      (endpoint.Agrees shape ↔ doc.SpeaksPlainly schema target) := by
  obtain ⟨view, hview, operation, hpath, hoperation, hresponse, hcomponent, hisArray⟩ :=
    exists_get_of_query h
  rw [hshape, responseShape?, eq_comm, Option.bind_eq_some_iff] at hresponse
  obtain ⟨schema, hschema, hresponse⟩ := hresponse
  rw [hschema] at hcomponent hisArray
  obtain ⟨_, _, _, _, -, -, -, -, hsome⟩ := exists_media_of_responseSchema? hschema
  obtain ⟨target, htarget⟩ := Option.isSome_iff_exists.1 hsome
  rw [← hpath]
  exact ⟨view.item, operation, schema, target, get?_pathItems_of_kept hview,
    operation?_item_of_kept hview hoperation, hschema, htarget, hresponse,
    agrees_iff (expansion_iff.2 hresponse) htarget hisArray hcomponent⟩

/-- A path that is only read and answers with a schema. -/
def answering (schema : RefOr Schema) : PathItem where
  get := some { responses := .ofList [("200", .inline {
    content := .ofList [(jsonType, { schema := some schema })] })] }

def pet : RefOr Schema := .ref "#/components/schemas/Pet"

/-- A document with queries, one component and nothing else. -/
def asking (queries : List (String × RefOr Schema)) : Document where
  paths := some <| .ofList <| queries.map fun query => (query.1, answering query.2)
  components := some { schemas := .ofList [("Pet", .inline { types := ["object"] })] }

/-- A query for pets, which says that they are an array. -/
def foundPets : Document :=
  asking [("/pets/findByStatus", .inline { types := ["array"], items := some pet })]

theorem agrees_of_foundPets : ∃ endpoint ∈ (foundPets.survey none none).queryEndpoints,
    ∃ shape, endpoint.responseSchema = some shape ∧ shape.type = some "array" ∧
      endpoint.responseComponent = some "Pet" ∧ endpoint.Agrees shape ∧
      ∃ item operation schema target, foundPets.pathItems.get? endpoint.path = some item ∧
        item.get = some operation ∧ responseSchema? foundPets operation = some schema ∧
        foundPets.schema? schema = some target ∧
        foundPets.shape? "Response" schema = some shape ∧
        foundPets.SpeaksPlainly schema target := by
  have hqueries : (foundPets.survey none none).queryEndpoints.map (fun endpoint =>
      ((endpoint.responseIsArray, endpoint.responseComponent),
        endpoint.responseSchema.map fun shape =>
          (shape.type, shape.items.bind (·.component)))) =
      [((true, some "Pet"), some (some "array", some "Pet"))] := by decide +kernel
  obtain ⟨endpoint, hmem, heq⟩ := List.mem_map.1 (hqueries ▸ List.mem_singleton_self _)
  obtain ⟨hresult, hresponse⟩ := Prod.mk.inj heq
  obtain ⟨hisArray, hcomponent⟩ := Prod.mk.inj hresult
  obtain ⟨shape, hshape, hparts⟩ := Option.map_eq_some_iff.1 hresponse
  obtain ⟨htype, hitems⟩ := Prod.mk.inj hparts
  have hagrees : endpoint.Agrees shape :=
    ⟨by simp [hisArray, htype], by rw [hcomponent, if_pos htype, hitems]⟩
  obtain ⟨item, operation, schema, target, hitem, hoperation, hschema, htarget, hresponse, hiff⟩ :=
    query_agrees_iff hmem hshape
  exact ⟨endpoint, hmem, shape, hshape, htype, hcomponent, hagrees, item, operation, schema,
    target, hitem, hoperation, hschema, htarget, hresponse, hiff.1 hagrees⟩

/-- A document with queries that leave to be inferred what they answer with: one of an array that
    does not say so, and one of a wrapped component. -/
def impliedPets : Document := asking [
  ("/pets/listed", .inline { items := some pet }),
  ("/pets/wrapped", .inline { allOf := [pet] })]

/-- The first query does not say that its result is an array, and the second one does not name
    its component. -/
theorem disagree_of_impliedPets :
    (∃ endpoint ∈ (impliedPets.survey none none).queryEndpoints, ∃ shape,
      endpoint.path = "/pets/listed" ∧ endpoint.responseSchema = some shape ∧
        endpoint.responseIsArray = false ∧ shape.type = some "array" ∧ ¬ endpoint.Agrees shape) ∧
    ∃ endpoint ∈ (impliedPets.survey none none).queryEndpoints, ∃ shape,
      endpoint.path = "/pets/wrapped" ∧ endpoint.responseSchema = some shape ∧
        endpoint.responseComponent = none ∧ shape.type = some "object" ∧
        shape.component = some "Pet" ∧ ¬ endpoint.Agrees shape := by
  have hqueries : (impliedPets.survey none none).queryEndpoints.map (fun endpoint =>
      (endpoint.path, (endpoint.responseIsArray, endpoint.responseComponent),
        endpoint.responseSchema.map fun shape => (shape.type, shape.component))) =
      [("/pets/listed", (false, none), some (some "array", none)),
       ("/pets/wrapped", (false, none), some (some "object", some "Pet"))] := by decide +kernel
  -- any of the lines is the line of a query
  have hfound : ∀ path type component, (path, (false, none), some (type, component)) ∈
        [("/pets/listed", (false, none), some (some "array", none)),
         ("/pets/wrapped", (false, (none : Option String)), some (some "object", some "Pet"))] →
      ∃ endpoint ∈ (impliedPets.survey none none).queryEndpoints, ∃ shape,
        endpoint.path = path ∧ endpoint.responseIsArray = false ∧
          endpoint.responseComponent = none ∧ endpoint.responseSchema = some shape ∧
          shape.type = type ∧ shape.component = component := by
    intro path type component hmem
    rw [← hqueries] at hmem
    simpa only [List.mem_map, Prod.mk.injEq, Option.map_eq_some_iff, ← exists_and_left,
      ← exists_and_right, and_assoc] using hmem
  constructor
  · obtain ⟨endpoint, hmem, shape, hpath, hisArray, -, hshape, htype, -⟩ :=
      hfound "/pets/listed" _ _ (.head _)
    refine ⟨endpoint, hmem, shape, hpath, hshape, hisArray, htype, fun hagrees => ?_⟩
    rw [hagrees.isArray.2 htype] at hisArray
    cases hisArray
  · obtain ⟨endpoint, hmem, shape, hpath, -, hnone, hshape, htype, hcomponent⟩ :=
      hfound "/pets/wrapped" _ _ (.tail _ (.head _))
    refine ⟨endpoint, hmem, shape, hpath, hshape, hnone, htype, hcomponent, fun hagrees => ?_⟩
    have hnamed := hagrees.component
    rw [hnone, htype, if_neg (by decide), hcomponent] at hnamed
    cases hnamed

end

end ApiKinds
