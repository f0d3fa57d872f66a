/-
  Valid descriptions, said without the check.

  * `Document.Valid`: version, title, paths and slashes are there, and every reference that
    occurs in the document names an entry of the section that its position asks for.
  * `Document.Admits`: the references of a part are good; `checkSchema_iff` and its like say
    of each part that the check goes through just if they are.
  * `check_decides_valid`: the check accepts the valid descriptions and refuses all others.
-/
import ApiKinds.Proofs.Api.Mention
import ApiKinds.Proofs.Api.Reference
import ApiKinds.Proofs.Except
import ApiKinds.Source

namespace ApiKinds.Api

open Text

/-- A valid description. -/
structure Document.Valid (doc : Document) : Prop where
  version : ∃ version, doc.openapi = some version ∧ hasPrefix "3." version
  title : doc.info.title.isSome
  infoVersion : doc.info.version.isSome
  /-- The paths are there, and each begins with a slash. -/
  paths : ∃ paths, doc.paths = some paths ∧ ∀ path ∈ paths.keys, hasPrefix "/" path
  /-- Every reference is local and names an entry of the section that its position asks for. -/
  references : ∀ kind reference, doc.Mentions kind reference →
    hasPrefix "#" reference ∧ doc.Names kind reference

/-! ## Checks in a row -/

theorem seq_eq_ok_iff {a b : Check} : (do a; b) = .ok () ↔ a = .ok () ∧ b = .ok () := by
  rw [bind_eq_ok_iff]
  constructor
  · rintro ⟨⟨⟩, ha, hb⟩
    exact ⟨ha, hb⟩
  · rintro ⟨ha, hb⟩
    exact ⟨(), ha, hb⟩

theorem within_eq_ok_iff {check : Check} {place : ValidityError → ValidityError} :
    check.within place = .ok () ↔ check = .ok () := by
  rcases check with cause | ⟨⟨⟩⟩ <;> simp [Check.within]

section
variable {α : Type} {check : α → Check}

theorem checkAll_eq_ok_iff {items : List α} :
    checkAll check items = .ok () ↔ ∀ a ∈ items, check a = .ok () := by
  induction items with
  | nil => simp [checkAll]
  | cons a rest ih => rw [checkAll, seq_eq_ok_iff, ih, List.forall_mem_cons]

theorem checkOption_eq_ok_iff {item : Option α} :
    checkOption check item = .ok () ↔ ∀ a, item = some a → check a = .ok () := by
  cases item with
  | none => simp [checkOption]
  | some a => simp [checkOption]

end

/-! ## References -/

section
variable {doc : Document} {kind : Section} {reference : String}

theorem hasComponent_iff {name : String} :
    doc.hasComponent kind name ↔ name ∈ (doc.entries kind).keys := by
  rw [Document.hasComponent, Document.entries]
  cases doc.components with
  | none => simp [Dict.keys, Dict.empty]
  | some components =>
    rw [List.contains_iff_mem]
    cases kind <;> rfl

theorem checkReference_iff : doc.checkReference kind reference = .ok () ↔
    hasPrefix "#" reference ∧ doc.Names kind reference := by
  rw [Document.checkReference, Document.Names]
  simp only [← nameIn?_eq_some_iff, ← hasComponent_iff]
  cases hasPrefix "#" reference with
  | false => simp
  | true =>
    cases nameIn? kind reference with
    | none => simp
    | some name => simp

end

/-! ## Schemas -/

section
variable {check : String → Check}

theorem checkSchema_eq (facets : Facets) (properties : List (String × RefOr Schema))
    (items : Option (RefOr Schema)) (allOf : List (RefOr Schema)) :
    checkSchema check ⟨facets, properties, items, allOf⟩ = (do
      checkProperties check properties
      checkOption (checkSchemaRef check) items
      checkMembers check allOf) := by
  rw [checkSchema]
  cases items <;> rfl

mutual
theorem checkSchema_eq_ok_iff : ∀ schema : Schema, checkSchema check schema = .ok () ↔
    ∀ reference, Schema.Mentions reference (.inline schema) → check reference = .ok ()
  | ⟨facets, properties, items, allOf⟩ => by
    have hitems : checkOption (checkSchemaRef check) items = .ok () ↔
        ∀ part, items = some part → ∀ reference, Schema.Mentions reference part →
          check reference = .ok () :=
      match items with
      | none => by simp [checkOption]
      | some part => by simpa [checkOption] using checkSchemaRef_eq_ok_iff part
    rw [checkSchema_eq, seq_eq_ok_iff, seq_eq_ok_iff, checkProperties_eq_ok_iff properties, hitems,
      checkMembers_eq_ok_iff allOf]
    constructor
    · rintro ⟨hproperties, hitems, hmembers⟩ reference hmention
      cases hmention with
      | property hmem hpart => exact hproperties _ hmem reference hpart
      | items hpart hmention => exact hitems _ hpart reference hmention
      | member hmem hpart => exact hmembers _ hmem reference hpart
    · intro h
      exact ⟨fun _ hmem reference hpart => h reference (.property hmem hpart),
        fun _ hpart reference hmention => h reference (.items hpart hmention),
        fun _ hmem reference hpart => h reference (.member hmem hpart)⟩

theorem checkSchemaRef_eq_ok_iff : ∀ schema : RefOr Schema,
    checkSchemaRef check schema = .ok () ↔
      ∀ reference, Schema.Mentions reference schema → check reference = .ok ()
  | .ref target => by
    rw [checkSchemaRef]
    constructor
    · rintro h reference ⟨⟩
      exact h
    · intro h
      exact h target .here
  | .inline schema => by rw [checkSchemaRef, checkSchema_eq_ok_iff schema]

theorem checkProperties_eq_ok_iff : ∀ properties : List (String × RefOr Schema),
    checkProperties check properties = .ok () ↔
      ∀ property ∈ properties, ∀ reference, Schema.Mentions reference property.2 →
        check reference = .ok ()
  | [] => by simp [checkProperties]
  | (name, schema) :: rest => by
    rw [checkProperties, seq_eq_ok_iff, checkSchemaRef_eq_ok_iff schema,
      checkProperties_eq_ok_iff rest, List.forall_mem_cons]

theorem checkMembers_eq_ok_iff : ∀ members : List (RefOr Schema),
    checkMembers check members = .ok () ↔
      ∀ member ∈ members, ∀ reference, Schema.Mentions reference member →
        check reference = .ok ()
  | [] => by simp [checkMembers]
  | schema :: rest => by
    rw [checkMembers, seq_eq_ok_iff, checkSchemaRef_eq_ok_iff schema,
      checkMembers_eq_ok_iff rest, List.forall_mem_cons]
end

end

/-! ## Parts of documents -/

/-- The references that occur somewhere are good. -/
def Document.Admits (doc : Document) (mentions : Section → String → Prop) : Prop :=
  ∀ kind reference, mentions kind reference → doc.checkReference kind reference = .ok ()

section
variable {doc : Document}

theorem checkContent_iff {content : Dict MediaType} : doc.checkContent content = .ok () ↔
    ∀ reference, ContentMentions content reference →
      doc.checkReference .schemas reference = .ok () := by
  simp only [Document.checkContent, checkAll_eq_ok_iff, checkOption_eq_ok_iff,
    Document.checkSchema, checkSchemaRef_eq_ok_iff, Dict.mem_values]
  constructor
  · rintro h reference ⟨type, media, schema, hmedia, hschema, hmention⟩
    exact h media ⟨type, hmedia⟩ schema hschema reference hmention
  · rintro h media ⟨type, hmedia⟩ schema hschema reference hmention
    exact h reference ⟨type, media, schema, hmedia, hschema, hmention⟩

/-- What stands for an object is good if the reference in its place is, or if those inside
    are. -/
theorem checkRefOr_iff {α : Type} {kind : Section} {check : α → Check} {inside : α → String → Prop}
    (hinside : ∀ object, check object = .ok () ↔
      ∀ reference, inside object reference → doc.checkReference .schemas reference = .ok ())
    {object : RefOr α} : doc.checkRefOr kind check object = .ok () ↔
      doc.Admits (object.Mentions kind inside) := by
  cases object with
  | ref target =>
    constructor
    · rintro h kind reference ⟨⟩
      exact h
    · intro h
      exact h _ _ .here
  | inline object =>
    rw [Document.checkRefOr, hinside]
    constructor
    · rintro h kind reference (_ | hmention)
      exact h reference hmention
    · intro h reference hmention
      exact h _ reference (.inside hmention)

theorem checkParameter_iff {parameter : RefOr Parameter} :
    doc.checkParameter parameter = .ok () ↔ doc.Admits (Parameter.Mentions parameter) := by
  refine checkRefOr_iff fun parameter => ?_
  simp only [checkOption_eq_ok_iff, Document.checkSchema, checkSchemaRef_eq_ok_iff]
  constructor
  · rintro h reference ⟨schema, hschema, hmention⟩
    exact h schema hschema reference hmention
  · intro h schema hschema reference hmention
    exact h reference ⟨schema, hschema, hmention⟩

theorem checkRequestBody_iff {body : RefOr RequestBody} :
    doc.checkRequestBody body = .ok () ↔ doc.Admits (RequestBody.Mentions body) :=
  checkRefOr_iff fun _ => checkContent_iff

theorem checkResponse_iff {response : RefOr Response} :
    doc.checkResponse response = .ok () ↔ doc.Admits (Response.Mentions response) :=
  checkRefOr_iff fun _ => checkContent_iff

theorem checkOperation_iff {operation : Operation} :
    doc.checkOperation operation = .ok () ↔ doc.Admits operation.Mentions := by
  simp only [Document.checkOperation, seq_eq_ok_iff, checkAll_eq_ok_iff, checkOption_eq_ok_iff,
    checkParameter_iff, checkRequestBody_iff, checkResponse_iff, Dict.mem_values]
  constructor
  · rintro ⟨hparameters, hbody, hresponses⟩ kind reference hmention
    cases hmention with
    | parameter hmem h => exact hparameters _ hmem kind reference h
    | requestBody heq h => exact hbody _ heq kind reference h
    | response hget h => exact hresponses _ ⟨_, hget⟩ kind reference h
  · intro h
    exact ⟨fun _ hmem kind reference hmention => h kind reference (.parameter hmem hmention),
      fun _ heq kind reference hmention => h kind reference (.requestBody heq hmention),
      fun _ ⟨_, hget⟩ kind reference hmention => h kind reference (.response hget hmention)⟩

theorem checkPath_iff {path : String} {item : PathItem} :
    doc.checkPath path item = .ok () ↔ hasPrefix "/" path ∧ doc.Admits item.Mentions := by
  rw [Document.checkPath]
  cases hasPrefix "/" path with
  | false => simp [throw, throwThe, MonadExceptOf.throw, bind, Except.bind]
  | true =>
    simp only [Bool.not_true, Bool.false_eq_true, if_false, seq_eq_ok_iff, checkAll_eq_ok_iff,
      within_eq_ok_iff, checkParameter_iff, checkOperation_iff, PathItem.mem_operations_iff,
      true_and]
    constructor
    · rintro ⟨hparameters, hoperations⟩ kind reference hmention
      cases hmention with
      | parameter hmem h => exact hparameters _ hmem kind reference h
      | operation hat h => exact hoperations _ ⟨_, hat⟩ kind reference h
    · intro h
      exact ⟨fun _ hmem kind reference hmention => h kind reference (.parameter hmem hmention),
        fun _ ⟨_, hat⟩ kind reference hmention => h kind reference (.operation hat hmention)⟩

theorem checkComponents_iff {components : Components} :
    doc.checkComponents components = .ok () ↔ doc.Admits components.Mentions := by
  simp only [Document.checkComponents, seq_eq_ok_iff, checkAll_eq_ok_iff, within_eq_ok_iff,
    Document.checkSchema, checkSchemaRef_eq_ok_iff, checkParameter_iff, checkRequestBody_iff,
    checkResponse_iff, Dict.mem_values, Prod.forall, ← Dict.get?_eq_some_iff]
  constructor
  · rintro ⟨hschemas, hparameters, hbodies, hresponses⟩ kind reference hmention
    cases hmention with
    | schema hget h => exact hschemas _ _ hget reference h
    | parameter hget h => exact hparameters _ ⟨_, hget⟩ kind reference h
    | requestBody hget h => exact hbodies _ ⟨_, hget⟩ kind reference h
    | response hget h => exact hresponses _ ⟨_, hget⟩ kind reference h
  · intro h
    exact ⟨fun _ _ hget reference hmention => h _ reference (.schema hget hmention),
      fun _ ⟨_, hget⟩ kind reference hmention => h kind reference (.parameter hget hmention),
      fun _ ⟨_, hget⟩ kind reference hmention => h kind reference (.requestBody hget hmention),
      fun _ ⟨_, hget⟩ kind reference hmention => h kind reference (.response hget hmention)⟩

/-! ## Documents -/

theorem checkVersion_iff : doc.checkVersion = .ok () ↔
    ∃ version, doc.openapi = some version ∧ hasPrefix "3." version := by
  rw [Document.checkVersion]
  cases doc.openapi with
  | none => simp
  | some version => cases hversion : hasPrefix "3." version <;> simp [hversion]

theorem checkPresence_iff : doc.checkPresence = .ok () ↔
    doc.info.title.isSome ∧ doc.info.version.isSome ∧ doc.paths.isSome := by
  rw [Document.checkPresence]
  cases doc.info.title <;> cases doc.info.version <;> cases doc.paths <;>
    simp [throw, throwThe, MonadExceptOf.throw, bind, Except.bind, pure, Except.pure]

theorem checkPaths_iff {paths : Dict PathItem} :
    checkAll (fun entry => doc.checkPath entry.1 entry.2) paths.entries = .ok () ↔
      (∀ path ∈ paths.keys, hasPrefix "/" path) ∧
        ∀ path item, paths.get? path = some item → doc.Admits item.Mentions := by
  simp only [checkAll_eq_ok_iff, checkPath_iff, Prod.forall, ← Dict.get?_eq_some_iff, Dict.mem_keys]
  constructor
  · intro h
    exact ⟨fun path ⟨item, hitem⟩ => (h path item hitem).1,
      fun path item hitem => (h path item hitem).2⟩
  · rintro ⟨hslash, hadmits⟩ path item hitem
    exact ⟨hslash path ⟨item, hitem⟩, hadmits path item hitem⟩

/-- The steps of the check. -/
theorem check_iff : doc.check = .ok () ↔
    (∃ version, doc.openapi = some version ∧ hasPrefix "3." version) ∧
      (doc.info.title.isSome ∧ doc.info.version.isSome) ∧
      (∃ paths, doc.paths = some paths ∧ ∀ path ∈ paths.keys, hasPrefix "/" path) ∧
      doc.Admits doc.Mentions := by
  rw [Document.check, seq_eq_ok_iff, seq_eq_ok_iff, seq_eq_ok_iff, checkVersion_iff,
    checkPresence_iff, checkPaths_iff, checkOption_eq_ok_iff]
  simp only [checkComponents_iff]
  constructor
  · rintro ⟨hversion, ⟨htitle, hinfo, hsome⟩, ⟨hslash, hpaths⟩, hcomponents⟩
    obtain ⟨paths, heq⟩ := Option.isSome_iff_exists.1 hsome
    rw [heq, Option.getD_some] at hslash hpaths
    refine ⟨hversion, ⟨htitle, hinfo⟩, ⟨paths, heq, hslash⟩, fun kind reference hmention => ?_⟩
    cases hmention with
    | path heq' hget h =>
      obtain rfl := Option.some.inj (heq.symm.trans heq')
      exact hpaths _ _ hget kind reference h
    | component heq' h => exact hcomponents _ heq' kind reference h
  · rintro ⟨hversion, ⟨htitle, hinfo⟩, ⟨paths, heq, hslash⟩, hadmits⟩
    rw [heq, Option.getD_some]
    exact ⟨hversion, ⟨htitle, hinfo, rfl⟩,
      ⟨hslash, fun _ _ hget kind reference h => hadmits kind reference (.path heq hget h)⟩,
      fun _ heq' kind reference h => hadmits kind reference (.component heq' h)⟩

end

/-- **The check accepts the valid descriptions; every other one is refused as invalid.** -/
theorem check_decides_valid (doc : Document) : (doc.check = .ok () ↔ doc.Valid) ∧
    (¬ doc.Valid → ∃ cause, doc.check = .error cause ∧
      doc.checked Document.check = .error (.invalid cause)) := by
  have hvalid : doc.check = .ok () ↔ doc.Valid := by
    rw [check_iff]
    simp only [Document.Admits, checkReference_iff]
    constructor
    · rintro ⟨hversion, ⟨htitle, hinfo⟩, hpaths, hreferences⟩
      exact ⟨hversion, htitle, hinfo, hpaths, hreferences⟩
    · rintro ⟨hversion, htitle, hinfo, hpaths, hreferences⟩
      exact ⟨hversion, ⟨htitle, hinfo⟩, hpaths, hreferences⟩
  refine ⟨hvalid, fun hnot => ?_⟩
  cases hcheck : doc.check with
  | ok result => exact absurd (hvalid.1 hcheck) hnot
  | error cause => exact ⟨cause, rfl, by rw [Document.checked, hcheck]⟩

end ApiKinds.Api
