/-
  References of checked descriptions resolve, but for chains of references that are longer
  than chains are followed.

  * `names_of_check`: in a checked description every reference that occurs names an entry.
  * `resolves_of_check`: so it resolves just if it starts no such chain, and every component
    schema that starts none has its shape in the catalog.
  * `chained`: a chain that is too long passes the check.
-/
import ApiKinds.Proofs.Api.Validity
import ApiKinds.Survey.Basic

namespace ApiKinds.Api

section
variable {doc : Document}

/-! ## What the check promises -/

theorem names_of_check (hcheck : doc.check = .ok ()) {kind : Section} {reference : String}
    (hmention : doc.Mentions kind reference) : doc.Names kind reference := by
  obtain ⟨-, -, -, hadmits⟩ := check_iff.1 hcheck
  exact (checkReference_iff.1 (hadmits kind reference hmention)).2

/-- An entry that is a reference occurs in the document, as one of its own section. -/
theorem mentions_of_entry {kind : Section} {name next : String}
    (hentry : (doc.entries kind).get? name = some (.ref next)) : doc.Mentions kind next := by
  rw [Document.entries] at hentry
  split at hentry
  · next components hcomponents =>
    refine .component hcomponents ?_
    cases kind with
    | schemas => exact .schema hentry .here
    | parameters => exact .parameter hentry .here
    | requestBodies => exact .requestBody hentry .here
    | responses => exact .response hentry .here
  · simp at hentry

theorem resolve?_iff_of_check (hcheck : doc.check = .ok ()) {kind : Section} {reference : String}
    (hmention : doc.Mentions kind reference) :
    (∃ object, doc.resolve? kind (.ref reference) = some object) ↔
      ¬ doc.AliasChain kind maxHops reference :=
  resolve?_ref_iff (fun _ _ hentry => names_of_check hcheck (mentions_of_entry hentry))
    (names_of_check hcheck hmention)

/-! ## Shapes of components -/

/-- A schema has a shape just if it stands for a schema. -/
theorem shape?_isSome (name : String) (schema : RefOr Schema) :
    (doc.shape? name schema).isSome = (doc.schema? schema).isSome := by
  cases schema with
  | inline schema => rfl
  | ref reference =>
    rw [Document.shape?, shapeOfRef, expand]
    cases doc.schema? (.ref reference) with
    | none => rfl
    | some target =>
      cases ([] : List String).contains (lastSegment reference) <;> rfl

theorem get?_componentShapes {components : Components}
    (hcomponents : doc.components = some components) {name : String} {schema : RefOr Schema}
    (hschema : components.schemas.get? name = some schema) :
    (componentShapes doc).get? name = doc.shape? name schema := by
  refine Option.ext fun shape => ?_
  rw [componentShapes, hcomponents, Dict.get?_filterMap_eq_some_iff, hschema]
  simp

end

/-! ## Resolution -/

/-- **In a checked description a reference resolves unless it starts a chain of references
    that is too long**; only such a chain keeps a component schema out of the catalog. -/
theorem resolves_of_check {doc : Document} (hcheck : doc.check = .ok ()) :
    (∀ kind reference, doc.Mentions kind reference →
      ((∃ object, doc.resolve? kind (.ref reference) = some object) ↔
        ¬ doc.AliasChain kind maxHops reference)) ∧
    ∀ components name schema, doc.components = some components →
      components.schemas.get? name = some schema →
      ((∃ shape, (componentShapes doc).get? name = some shape) ↔
        ∀ reference, schema = .ref reference → ¬ doc.AliasChain .schemas maxHops reference) := by
  refine ⟨fun kind reference => resolve?_iff_of_check hcheck, ?_⟩
  intro components name schema hcomponents hschema
  rw [get?_componentShapes hcomponents hschema, ← Option.isSome_iff_exists, shape?_isSome]
  cases schema with
  | inline schema => simp [Document.schema?, resolveIn]
  | ref reference =>
    have hresolves : (∃ target, doc.schema? (.ref reference) = some target) ↔
        ¬ doc.AliasChain .schemas maxHops reference := by
      rw [← Document.resolve?_schemas]
      exact resolve?_iff_of_check hcheck (.component hcomponents (.schema hschema .here))
    rw [Option.isSome_iff_exists, hresolves]
    simp

/-- A description whose only parameter is at the end of sixteen references. -/
def chained : Document where
  openapi := some "3.0.0"
  info := { title := some "t", version := some "1" }
  paths := some (.ofList [("/pets", { get := some { parameters := [.ref (entry "a")] } })])
  components := some { parameters := .ofList (("q", .inline limit) :: links.reverse) }
where
  names : List String := "abcdefghijklmnopq".toList.map (String.ofList [·])
  entry (name : String) : String := referenceTo .parameters name
  links : List (String × RefOr Parameter) :=
    (names.zip names.tail).map fun (name, next) => (name, .ref (entry next))
  limit : Parameter := { name := "limit", location := "query" }

theorem check_chained : chained.check = .ok () := by decide +kernel

theorem mentions_chained : chained.Mentions .parameters (chained.entry "a") :=
  .path rfl (show (Dict.ofList _).get? "/pets" = some _ from rfl)
    (.operation (show PathItem.at? _ .get = some _ from rfl) (.parameter List.mem_cons_self .here))

theorem parameter?_chained : chained.parameter? (.ref (chained.entry "a")) = none := by
  have hnone : (chained.parameter? (.ref (chained.entry "a"))).isNone := by decide +kernel
  exact Option.isNone_iff_eq_none.1 hnone

/-- Of two references in one chain the first is too far from its end, and the next is not. -/
theorem aliasChain_of_chained : chained.check = .ok () ∧
    chained.AliasChain .parameters maxHops (chained.entry "a") ∧
      ¬ chained.AliasChain .parameters maxHops (chained.entry "b") := by
  have hnext : chained.Mentions .parameters (chained.entry "b") :=
    .component rfl (.parameter (show Dict.get? _ "a" = some _ from rfl) .here)
  have hsome : (chained.resolve? .parameters (.ref (chained.entry "b"))).isSome := by decide +kernel
  refine ⟨check_chained, ?_, ?_⟩
  · by_contra hchain
    obtain ⟨object, hobject⟩ :=
      ((resolves_of_check check_chained).1 _ _ mentions_chained).2 hchain
    cases hobject.symm.trans parameter?_chained
  · exact ((resolves_of_check check_chained).1 _ _ hnext).1 (Option.isSome_iff_exists.1 hsome)

/-- A reference that occurs in a checked description may lead nowhere. -/
theorem unresolved_of_chained : chained.check = .ok () ∧
    chained.Mentions .parameters (chained.entry "a") ∧
      chained.parameter? (.ref (chained.entry "a")) = none :=
  ⟨check_chained, mentions_chained, parameter?_chained⟩

end ApiKinds.Api
