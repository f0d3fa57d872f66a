/-
  Stubs of components beside their expansions.

  * `Shape.heading`: a node without its properties, items and constraints.
  * `Schema.Covers`: a schema says all that the shape of its wrapped member says.
  * `stub_eq_heading_iff`: when the stub of a component is the heading of its expansion.
    A component that lists `null` among its types without being nullable, or that wraps a
    member and leaves something to it, has a stub that says less.
-/
import ApiKinds.Proofs.Api.Reference
import ApiKinds.Proofs.Expansion.Run

namespace ApiKinds

open Api

/-- A node without its properties, items and constraints. -/
def Shape.heading (shape : Shape) : Shape where
  name := shape.name
  type := shape.type
  format := shape.format
  description := shape.description
  component := shape.component
  nullable := shape.nullable

/-- A schema says all that the shape of its wrapped member says. -/
structure Api.Schema.Covers (schema : Schema) (member : Shape) : Prop where
  type : schema.impliedType = member.type
  format : schema.format = member.format
  /-- A description of its own stands before that of the member. -/
  description : schema.description = none → member.description = none
  nullable : member.nullable → schema.nullable

/-! ## What runs keep -/

section
variable {doc : Document}

/-- The node of an expansion has the name it is expanded under. -/
theorem Expansion.name_eq {inside : List String} {name : String} {schema : RefOr Schema}
    {result : Option Shape} (run : Expansion doc inside name schema result) :
    ∀ shape ∈ result, shape.name = name := by
  induction run with
  | dangling => simp
  | cut => simp [stub]
  | entered _ _ _ ih => simpa using ih
  | wrapped _ _ ih => simpa [Shape.under] using ih
  | plain => simp [Schema.trait]

/-- Outside of all components a reference that leads to a schema is entered. -/
theorem exists_entered {reference : String} {target : Schema}
    (htarget : doc.schema? (.ref reference) = some target) (name : String) :
    ∃ inner, Expansion doc [lastSegment reference] name (.inline target) (some inner) ∧
      doc.shape? name (.ref reference) =
        some { inner with component := some (lastSegment reference) } := by
  generalize hresult : doc.shape? name (.ref reference) = result
  cases expansion_iff.2 hresult with
  | dangling hnone => cases hnone.symm.trans htarget
  | cut _ hinside => cases hinside
  | entered htarget' _ run =>
    cases htarget'.symm.trans htarget
    exact ⟨_, run, rfl⟩

end

/-! ## Stubs -/

theorem linked_ref {doc : Document} {reference : String} {target : Schema}
    (htarget : doc.schema? (.ref reference) = some target) (name : String) :
    linked doc name reference (.ref reference) = stub name (lastSegment reference) target := by
  rw [linked, htarget]

theorem stub_eq_heading_of_name {name component : String} {target : Schema} {shape : Shape}
    (hname : shape.name = name) :
    stub name component target = { shape with component := some component }.heading ↔
      target.impliedType = shape.type ∧ target.format = shape.format ∧
        target.description = shape.description ∧ target.nullable = shape.nullable := by
  subst hname
  simp [stub, Shape.heading]

/-- The stub of a schema that wraps a member beside the shape of that member. -/
theorem covers_iff {target : Schema} {inner : Shape} :
    (target.impliedType = (inner.under target.toFacets).type ∧
      target.format = (inner.under target.toFacets).format ∧
      target.description = (inner.under target.toFacets).description ∧
      target.nullable = (inner.under target.toFacets).nullable) ↔ target.Covers inner := by
  have hdescription : target.description = (target.description <|> inner.description) ↔
      (target.description = none → inner.description = none) := by
    cases target.description <;> simp [eq_comm]
  have hnullable : target.nullable = (inner.nullable || target.nullable) ↔
      (inner.nullable → target.nullable) := by
    cases target.nullable <;> simp
  constructor
  · rintro ⟨htype, hformat, hdesc, hnull⟩
    exact ⟨htype, hformat, hdescription.1 hdesc, hnullable.1 hnull⟩
  · rintro ⟨htype, hformat, hdesc, hnull⟩
    exact ⟨htype, hformat, hdescription.2 hdesc, hnullable.2 hnull⟩

/-- **The node of a property that refers to a component is the heading of the component's
    expansion** just if the component is nullable where it lists `null`, and covers the member
    that it wraps, if any. -/
theorem stub_eq_heading_iff {doc : Document} {reference : String} {target : Schema}
    (htarget : doc.schema? (.ref reference) = some target) (name : String) :
    ∃ shape, doc.shape? name (.ref reference) = some shape ∧
      linked doc name reference (.ref reference) = stub name (lastSegment reference) target ∧
      (stub name (lastSegment reference) target = shape.heading ↔
        ("null" ∈ target.types → target.nullable) ∧
          ∀ member inner, target.wrapped? = some member →
            Expansion doc [lastSegment reference] name member (some inner) →
            target.Covers inner) := by
  obtain ⟨shape, run, hshape⟩ := exists_entered htarget name
  refine ⟨_, hshape, linked_ref htarget name, ?_⟩
  rw [stub_eq_heading_of_name (run.name_eq shape rfl)]
  cases run with
  | @wrapped _ _ _ member shape hwrapped run =>
    obtain ⟨-, htypes, -⟩ := wrapped?_eq_some_iff.1 hwrapped
    rw [covers_iff]
    constructor
    · refine fun hcovers => ⟨fun hnull => ?_, fun member' inner hwrapped' run' => ?_⟩
      · rw [htypes] at hnull
        cases hnull
      · cases hwrapped'.symm.trans hwrapped
        cases run'.unique run
        exact hcovers
    · rintro ⟨-, hcovers⟩
      exact hcovers member shape hwrapped run
  | plain node items hmember =>
    have hnull : target.nullable = (target.nullable || target.types.contains "null") ↔
        ("null" ∈ target.types → target.nullable) := by
      rw [← List.contains_iff_mem]
      cases target.nullable <;> cases target.types.contains "null" <;> simp
    constructor
    · rintro ⟨-, -, -, hnullable⟩
      refine ⟨hnull.1 hnullable, fun member inner hwrapped run' => ?_⟩
      cases run'.unique (hmember member hwrapped)
    · rintro ⟨hnullable, -⟩
      exact ⟨rfl, rfl, rfl, hnull.2 hnullable⟩

/-- A text that may be `null`, a date, and a day that wraps the date. -/
def calendar : Document where
  components := some { schemas := .ofList [("Note", .inline note), ("Date", .inline date),
    ("Day", .inline day)] }
where
  entry (name : String) : String := referenceTo .schemas name
  note : Schema := { types := ["string", "null"] }
  date : Schema := { types := ["string"], format := some "date" }
  day : Schema := { allOf := [.ref (entry "Date")] }

/-- The stub of the date is the heading of its expansion. -/
theorem stub_eq_heading_of_date :
    calendar.schema? (.ref (calendar.entry "Date")) = some calendar.date ∧
      ∃ shape, calendar.shape? "date" (.ref (calendar.entry "Date")) = some shape ∧
        linked calendar "date" (calendar.entry "Date") (.ref (calendar.entry "Date")) =
          shape.heading := by
  have htarget : calendar.schema? (.ref (calendar.entry "Date")) = some calendar.date := rfl
  obtain ⟨shape, hshape, hlinked, hiff⟩ := stub_eq_heading_iff htarget "date"
  refine ⟨htarget, shape, hshape, hlinked.trans (hiff.2 ⟨fun hnull => ?_, ?_⟩)⟩
  · exact absurd hnull (by decide)
  · rintro member inner ⟨⟩

/-- The stub of the text is not nullable, and that of the day has neither type nor format. -/
theorem stub_ne_heading_of_calendar :
    (linked calendar "note" (calendar.entry "Note") (.ref (calendar.entry "Note"))).nullable =
        false ∧
      (calendar.shape? "note" (.ref (calendar.entry "Note"))).map (·.nullable) = some true ∧
      (linked calendar "day" (calendar.entry "Day") (.ref (calendar.entry "Day"))).type = none ∧
      (linked calendar "day" (calendar.entry "Day") (.ref (calendar.entry "Day"))).format = none ∧
      (calendar.shape? "day" (.ref (calendar.entry "Day"))).map (fun shape =>
        (shape.type, shape.format)) = some (some "string", some "date") := by
  refine ⟨?_, ?_, ?_, ?_, ?_⟩ <;> decide +kernel

end ApiKinds
