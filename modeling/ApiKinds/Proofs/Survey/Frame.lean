/-
  What is found at a path depends on the rest of the document only by its components and
  by the paths that are paired.

  * `Document.withPaths`: the document with other paths.
  * `shape?_withPaths` and its like: shapes, parameters and bodies stay the same.
  * `finding_withPaths`, `gather_withPaths`: so do findings and resources.
-/
import ApiKinds.Proofs.Survey.Reading

namespace ApiKinds

open Api

/-- The document with other paths. -/
def Api.Document.withPaths (doc : Document) (paths : Option (Dict PathItem)) : Document :=
  { doc with paths := paths }

variable (doc : Document) (paths : Option (Dict PathItem))

/-! ## Shapes -/

section
variable (enter : String → String → Option Shape)

theorem linked_withPaths : linked (doc.withPaths paths) = linked doc := rfl

mutual
theorem shapeOf_withPaths (name : String) : ∀ schema : Schema,
    shapeOf (doc.withPaths paths) enter name schema = shapeOf doc enter name schema
  | ⟨facets, properties, items, allOf⟩ => by
    rw [shapeOf, shapeOf, wrappedShape?_withPaths name _ allOf, shapesOf_withPaths properties,
      itemsShape?_withPaths items]

theorem wrappedShape?_withPaths (name : String) (plain : Bool) : ∀ allOf : List (RefOr Schema),
    wrappedShape? (doc.withPaths paths) enter name plain allOf =
      wrappedShape? doc enter name plain allOf
  | [] => by rw [wrappedShape?, wrappedShape?]
  | [member] => by rw [wrappedShape?, wrappedShape?, shapeOfRef_withPaths name member]
  | _ :: _ :: _ => by rw [wrappedShape?, wrappedShape?]

theorem itemsShape?_withPaths : ∀ items : Option (RefOr Schema),
    itemsShape? (doc.withPaths paths) enter items = itemsShape? doc enter items
  | none => by rw [itemsShape?, itemsShape?]
  | some schema => by rw [itemsShape?, itemsShape?, shapeOfRef_withPaths "Items" schema]

theorem shapeOfRef_withPaths (name : String) : ∀ schema : RefOr Schema,
    shapeOfRef (doc.withPaths paths) enter name schema = shapeOfRef doc enter name schema
  | .ref reference => by rw [shapeOfRef, shapeOfRef]
  | .inline schema => by rw [shapeOfRef, shapeOfRef, shapeOf_withPaths name schema]

theorem shapesOf_withPaths : ∀ properties : List (String × RefOr Schema),
    shapesOf (doc.withPaths paths) enter properties = shapesOf doc enter properties
  | [] => by rw [shapesOf, shapesOf]
  | (name, property) :: rest => by
    rw [shapesOf, shapesOf, shapesOf_withPaths rest, shapeOfRef_withPaths name property,
      linked_withPaths]
end

end

theorem expand_withPaths (depth : Nat) : ∀ (inside : List String) (name reference : String),
    expand (doc.withPaths paths) depth inside name reference =
      expand doc depth inside name reference := by
  have hschema : (doc.withPaths paths).schema? = doc.schema? := rfl
  induction depth with
  | zero => intro inside name reference; rw [expand, expand, hschema]
  | succ depth ih =>
    intro inside name reference
    have henter : ∀ component, expand (doc.withPaths paths) depth (component :: inside) =
        expand doc depth (component :: inside) :=
      fun component => funext fun name => funext fun reference => ih _ name reference
    simp only [expand, hschema, henter, shapeOf_withPaths]

theorem shape?_withPaths : (doc.withPaths paths).shape? = doc.shape? := by
  have henter : ∀ depth, expand (doc.withPaths paths) depth [] = expand doc depth [] :=
    fun depth => funext fun name => funext fun reference => expand_withPaths doc paths depth _ _ _
  funext name schema
  rw [Document.shape?, Document.shape?, henter, shapeOfRef_withPaths]
  rfl

theorem componentShapes_withPaths :
    componentShapes (doc.withPaths paths) = componentShapes doc := by
  rw [componentShapes, componentShapes, shape?_withPaths]
  rfl

/-! ## Parameters and bodies -/

/-- Of the path itself only the shared parameters count. -/
theorem shownParams_withPaths {a b : PathItem} (h : a.parameters = b.parameters)
    (expandArrays : Bool) (operation : Operation) :
    shownParams (doc.withPaths paths) expandArrays a operation =
      shownParams doc expandArrays b operation := by
  simp only [shownParams, effectiveParameters, h]
  rfl

theorem requestShape?_withPaths (operation : Operation) (name : String) :
    requestShape? (doc.withPaths paths) operation name = requestShape? doc operation name := by
  rw [requestShape?, requestShape?, shape?_withPaths]
  rfl

theorem responseShape?_withPaths (operation : Operation) (name : String) :
    responseShape? (doc.withPaths paths) operation name = responseShape? doc operation name := by
  rw [responseShape?, responseShape?, shape?_withPaths]
  rfl

theorem actionBody_withPaths (operation : Operation) :
    actionBody (doc.withPaths paths) operation = actionBody doc operation := by
  simp only [actionBody, shape?_withPaths]
  rfl

theorem entityShape?_withPaths :
    entityShape? (doc.withPaths paths) = entityShape? doc := by
  funext schema
  cases schema <;> simp only [entityShape?, shape?_withPaths]

/-- An operation shows the same below paths that share the same parameters. -/
theorem readAlike_withPaths {a b : PathItem} (h : a.parameters = b.parameters)
    (operation : Operation) : operation.ReadAlike (doc.withPaths paths) doc a b operation where
  operationId := rfl
  summary := rfl
  description := rfl
  params expandArrays := shownParams_withPaths doc paths h expandArrays operation
  actionBody := actionBody_withPaths doc paths operation
  entity := by rw [entityShape?_withPaths]; rfl
  request := requestShape?_withPaths doc paths operation
  response := responseShape?_withPaths doc paths operation
  result := rfl

/-! ## Views that differ in what nothing looks at -/

/-- Two views show the same: path, operations that are left, and shared parameters. -/
structure PathView.Alike (a b : PathView) : Prop where
  path : a.path = b.path
  operations : a.operations = b.operations
  parameters : a.item.parameters = b.item.parameters

section
variable {a b : PathView} (h : a.Alike b)
include h

theorem PathView.Alike.corresponds {R : Operation → Operation → Prop} (hR : ∀ x, R x x) :
    a.Corresponds R b where
  path := h.path
  operations := h.operations ▸ List.forall₂_same.2 fun x _ => ⟨rfl, hR x.2⟩

theorem PathView.Alike.readAlike : a.ReadAlike (doc.withPaths paths) doc b :=
  h.corresponds (readAlike_withPaths doc paths h.parameters)

end

/-- Alike contributions to the same names make the same resources. -/
theorem gather_withPaths {as bs : List (String × PathView)}
    (h : List.Forall₂ (fun a b => a.1 = b.1 ∧ a.2.Alike b.2) as bs) :
    gather (doc.withPaths paths) as = gather doc bs :=
  gather_readAlike (h.imp fun _ _ hab => ⟨hab.1, hab.2.readAlike doc paths⟩)

/-! ## Findings -/

/-- Two findings are the same up to what nothing looks at. -/
inductive Finding.Alike : Finding → Finding → Prop
  | skipped {a b : PathView} : a.Alike b → Alike (.skipped a) (.skipped b)
  | dropped {a b : PathView} : a.Alike b → Alike (.dropped a) (.dropped b)
  | action {a b : PathView} {endpoint} : a.Alike b → Alike (.action a endpoint) (.action b endpoint)
  | query {a b : PathView} {endpoint} : a.Alike b → Alike (.query a endpoint) (.query b endpoint)
  | resource {a b : PathView} {outcome name} : a.Alike b →
      Alike (.resource a outcome name) (.resource b outcome name)

theorem finding_withPaths_matches {V : PathView → PathView → Prop} {a b : PathView}
    (h : a.Alike b) (hview : V a b) (rootKind : Option String) (paired : Dict String) :
    (a.finding (doc.withPaths paths) rootKind paired).Matches V Eq Eq
      (b.finding doc rootKind paired) := by
  have hread := h.readAlike doc paths
  exact finding_matches hread hview (rel_eq_iff.2 (actionEndpoint?_readAlike hread rootKind))
    (rel_eq_iff.2 (queryEndpoint?_readAlike hread rootKind)) paired

/-- With the same pairs, the same is found at a view. -/
theorem finding_withPaths_self (view : PathView) (rootKind : Option String)
    (paired : Dict String) :
    view.finding (doc.withPaths paths) rootKind paired = view.finding doc rootKind paired :=
  (finding_withPaths_matches doc paths (V := Eq) ⟨rfl, rfl, rfl⟩ rfl rootKind paired).eq

theorem finding_withPaths {a b : PathView} (h : a.Alike b) (rootKind : Option String)
    (paired : Dict String) :
    (a.finding (doc.withPaths paths) rootKind paired).Alike (b.finding doc rootKind paired) := by
  have hmatches := finding_withPaths_matches doc paths (V := PathView.Alike) h h rootKind paired
  have hfound := finding_foundAt (doc.withPaths paths) rootKind paired a
  generalize a.finding (doc.withPaths paths) rootKind paired = found at hmatches hfound
  generalize b.finding doc rootKind paired = other at hmatches
  cases hmatches with
  | filtered => cases hfound
  | skipped h => exact .skipped h
  | dropped h => exact .dropped h
  | action h heq => exact heq ▸ .action h
  | query h heq => exact heq ▸ .query h
  | resource h => exact .resource h

/-! ## Pairs -/

/-- The same keys with views that show the same. -/
def EntriesAlike (as bs : List (String × PathView)) : Prop :=
  List.Forall₂ (fun a b => a.1 = b.1 ∧ a.2.Alike b.2) as bs

theorem EntriesAlike.get? {as bs : List (String × PathView)} (h : EntriesAlike as bs)
    (key : String) : Option.Rel PathView.Alike (Entries.get? key as) (Entries.get? key bs) :=
  Entries.get?_rel (R := fun _ => PathView.Alike) h key

theorem pairs_alike {as bs : Dict PathView} (h : EntriesAlike as.entries bs.entries) :
    pairs as = pairs bs :=
  pairs_congr (R := Eq) (h.imp fun _ _ hab => ⟨hab.1, hab.2.corresponds Eq.refl⟩)

end ApiKinds
