/-
  Which references keep a description from being upgraded, and which of them is reported.

  * `Dangling`, `PathItem.Dangles`: a reference of a path that leads to no global object.
  * `Document.faults`: what is wrong with the references of a description, path by path in key
    order, in the order in which they are met.
  * `upgrade_raises`: the upgrade fails with the first of them.
  * `upgrade_fails_iff`: it fails just if some path has such a reference, and names the first
    path that has one; schemas make no difference (`withoutSchemas`).
-/
import ApiKinds.Proofs.Swagger.Upgrade
import ApiKinds.Proofs.Swagger.Verbatim
import ApiKinds.Source

namespace ApiKinds.Swagger

open Api

/-! ## Dangling references -/

/-- A reference that is not `start` followed by the name of a global object. -/
inductive Dangling {α : Type} (start : String) (globals : Dict α) : RefOr α → Prop
  | ref {reference} : (∀ name, globals.contains name → reference ≠ start ++ name) →
      Dangling start globals (.ref reference)

theorem isSome_global?_iff {α : Type} {start : String} {globals : Dict α} {object : RefOr α} :
    (global? start globals object).isSome ↔ ¬ Dangling start globals object := by
  cases object with
  | inline object =>
    simp only [global?, Option.isSome_some, true_iff]
    rintro ⟨⟩
  | ref reference =>
    simp only [global?, Option.isSome_bind, Option.any_eq_true, Text.dropPrefix?_eq_some_iff]
    constructor
    · rintro ⟨name, rfl, hname⟩ ⟨h⟩
      exact h name hname rfl
    · intro hnot
      by_contra hnone
      exact hnot ⟨fun name hname heq => hnone ⟨name, heq, hname⟩⟩

/-- Some reference to a parameter or a response leads to no global one. -/
inductive PathItem.Dangles (doc : Document) (item : PathItem) : Prop
  | shared {parameter} : parameter ∈ item.parameters →
      Dangling "#/parameters/" doc.parameters parameter → Dangles doc item
  | own {verb operation parameter} : item.at? verb = some operation →
      parameter ∈ operation.parameters → Dangling "#/parameters/" doc.parameters parameter →
      Dangles doc item
  | answer {verb operation code response} : item.at? verb = some operation →
      operation.responses.get? code = some response →
      Dangling "#/responses/" doc.responses response → Dangles doc item

/-! ## Faults in order -/

namespace Document

variable (doc : Document)

/-- What is wrong with a reference to a parameter. -/
def parameterFaults : RefOr Parameter → List UpgradeCause
  | .inline _ => []
  | .ref reference =>
    match Text.dropPrefix? "#/parameters/" reference with
    | none => [.unsupportedParameter reference]
    | some name => if doc.parameters.contains name then [] else [.unresolvedParameter reference]

/-- What is wrong with a reference to a response. -/
def responseFaults : RefOr Response → List UpgradeCause
  | .inline _ => []
  | .ref reference =>
    if (Text.dropPrefix? "#/responses/" reference).any doc.responses.contains then []
    else [.unresolvedResponse reference]

/-- The faults of an operation: its parameters come before its responses. -/
def operationFaults (operation : Operation) : List UpgradeCause :=
  operation.parameters.flatMap doc.parameterFaults ++
    operation.responses.values.flatMap doc.responseFaults

/-- The faults of a path: its own parameters come before its operations. -/
def itemFaults (item : PathItem) : List UpgradeCause :=
  item.parameters.flatMap doc.parameterFaults ++ item.operations.flatMap doc.operationFaults

/-- The faults of a description, path by path. -/
def faults : List UpgradeError :=
  doc.pathItems.entries.flatMap fun entry => (doc.itemFaults entry.2).map (⟨entry.1, ·⟩)

end Document

/-! ## The first fault is reported -/

variable {doc : Document}

theorem resolveParameter_raises (parameter : RefOr Parameter) :
    Raises (doc.resolveParameter parameter) (doc.parameterFaults parameter) := by
  cases parameter with
  | inline parameter => exact .ok _
  | ref reference =>
    rw [Document.resolveParameter, Document.parameterFaults]
    cases Text.dropPrefix? "#/parameters/" reference with
    | none => exact .error _
    | some name =>
      cases hglobal : doc.parameters.get? name with
      | none => simpa [Dict.contains, hglobal] using .error _
      | some parameter => simpa [Dict.contains, hglobal] using .ok _

theorem upgradeResponseRef_raises (produces : List String) (response : RefOr Response) :
    Raises (doc.upgradeResponseRef produces response) (doc.responseFaults response) := by
  cases response with
  | inline response => exact .ok _
  | ref reference =>
    rw [Document.upgradeResponseRef, Document.responseFaults]
    cases Text.dropPrefix? "#/responses/" reference with
    | none => exact .error _
    | some name =>
      cases hglobal : doc.responses.contains name with
      | false => simpa [hglobal] using .error _
      | true => simpa [hglobal] using .ok _

theorem upgradeValues_raises {α β ε : Type} {upgrade : String → α → Except ε β}
    {faults : String → α → List ε} (h : ∀ key value, Raises (upgrade key value) (faults key value))
    (entries : List (String × α)) :
    Raises (upgradeValues upgrade entries) (entries.flatMap fun e => faults e.1 e.2) := by
  induction entries with
  | nil => exact .ok []
  | cons entry rest ih =>
    rw [upgradeValues, List.flatMap_cons]
    refine (h entry.1 entry.2).bind fun value => ?_
    rw [← List.append_nil (rest.flatMap _)]
    exact ih.bind fun values => .ok _

theorem upgradeOperation_raises (shared : List Resolved) (operation : Operation) :
    Raises (doc.upgradeOperation shared operation) (doc.operationFaults operation) := by
  have hresponse : ∀ (_ : String) response, Raises
      (doc.upgradeResponseRef (mediaTypes operation.produces doc.produces) response)
      (doc.responseFaults response) :=
    fun _ => upgradeResponseRef_raises _
  have hresponses := upgradeValues_raises hresponse operation.responses.entries
  rw [Document.upgradeOperation, Document.operationFaults, Dict.values, List.flatMap_map]
  refine (Raises.mapM resolveParameter_raises _).bind fun own => ?_
  rw [← List.append_nil (List.flatMap _ _)]
  exact hresponses.bind fun responses => .ok _

theorem upgradeMethod_raises (shared : List Resolved) (operation : Option Operation) :
    Raises (doc.upgradeMethod shared operation)
      (operation.toList.flatMap doc.operationFaults) := by
  cases operation with
  | none => exact .ok none
  | some operation =>
    rw [Option.toList_some, List.flatMap_singleton]
    exact (upgradeOperation_raises shared operation).map some

theorem upgradePathItem_raises (item : PathItem) :
    Raises (doc.upgradePathItem item) (doc.itemFaults item) := by
  have hmethods (operations : List (Option Operation)) :
      (operations.filterMap id).flatMap doc.operationFaults =
        operations.flatMap fun operation => operation.toList.flatMap doc.operationFaults := by
    rw [List.filterMap_eq_flatMap_toList, List.flatMap_assoc]
    rfl
  rw [Document.upgradePathItem, Document.itemFaults, PathItem.operations, hmethods]
  refine (Raises.mapM resolveParameter_raises _).bind fun shared => ?_
  simp only [List.flatMap_cons]
  -- The operations are upgraded one after the other, in the order of the list.
  refine (upgradeMethod_raises shared _).bind fun get => ?_
  refine (upgradeMethod_raises shared _).bind fun put => ?_
  refine (upgradeMethod_raises shared _).bind fun post => ?_
  refine (upgradeMethod_raises shared _).bind fun delete => ?_
  refine (upgradeMethod_raises shared _).bind fun patch => ?_
  refine (upgradeMethod_raises shared _).bind fun head => ?_
  exact (upgradeMethod_raises shared _).bind fun options => .ok _

theorem upgradePath_raises (path : String) (item : PathItem) :
    Raises (doc.upgradePath path item)
      ((doc.itemFaults item).map fun cause => ⟨path, cause⟩) := by
  rw [Document.upgradePath]
  exact (upgradePathItem_raises item).mapError _

/-- **The upgrade of a description fails with the first of its faults.** -/
theorem upgrade_raises (doc : Document) : Raises doc.upgrade doc.faults := by
  rw [Document.upgrade, Document.faults, Document.pathItems, ← List.append_nil (List.flatMap _ _)]
  cases doc.paths with
  | none => exact .ok _
  | some items =>
    exact ((upgradeValues_raises upgradePath_raises items.entries).map _).bind fun paths => .ok _

/-! ## Where faults are -/

theorem itemFaults_eq_nil_iff {item : PathItem} :
    doc.itemFaults item = [] ↔ ¬ item.Dangles doc := by
  rw [← (upgradePathItem_raises item).exists_ok_iff, exists_upgradePathItem_iff]
  simp only [Document.parameter?, Document.response?, isSome_global?_iff]
  constructor
  · rintro ⟨hshared, hoperations⟩ (⟨hmem, h⟩ | ⟨hat, hmem, h⟩ | ⟨hat, hcode, h⟩)
    · exact hshared _ hmem h
    · exact (hoperations _ _ hat).1 _ hmem h
    · exact (hoperations _ _ hat).2 _ _ hcode h
  · intro hnot
    refine ⟨fun parameter hmem h => hnot (.shared hmem h), fun verb operation hat => ?_⟩
    exact ⟨fun parameter hmem h => hnot (.own hat hmem h),
      fun code response hcode h => hnot (.answer hat hcode h)⟩

/-- The first path, in key order, that has a dangling reference. -/
structure Document.FirstDangling (doc : Document) (path : String) : Prop where
  dangles : ∃ item, doc.pathItems.get? path = some item ∧ item.Dangles doc
  first : ∀ before < path, ∀ item, doc.pathItems.get? before = some item → ¬ item.Dangles doc

/-- The first fault belongs to the first path that has one. -/
theorem firstDangling_of_head? {e : UpgradeError} (h : doc.faults.head? = some e) :
    doc.FirstDangling e.path := by
  rw [Document.faults, List.head?_flatMap, List.findSome?_eq_some_iff] at h
  obtain ⟨front, ⟨path, item⟩, back, hentries, hfault, hfront⟩ := h
  rw [List.head?_map, Option.map_eq_some_iff] at hfault
  obtain ⟨cause, hcause, rfl⟩ := hfault
  have hsorted := doc.pathItems.sorted
  rw [hentries] at hsorted
  refine ⟨⟨item, ?_, ?_⟩, fun before hlt other hother => ?_⟩
  · rw [Dict.get?_eq_some_iff, hentries]
    simp
  · by_contra hnot
    rw [itemFaults_eq_nil_iff.2 hnot] at hcause
    cases hcause
  · -- What stands before the path in key order stands before it in the list.
    have hmem : (before, other) ∈ front := by
      rw [Dict.get?_eq_some_iff, hentries, List.mem_append, List.mem_cons] at hother
      rcases hother with hmem | heq | hmem
      · exact hmem
      · cases heq
        exact absurd hlt (String.lt_irrefl _)
      · have hgt : path < before :=
          (List.pairwise_cons.1 (List.pairwise_append.1 hsorted).2.1).1 _ hmem
        exact absurd hlt (String.lt_asymm hgt)
    have hnone := hfront _ hmem
    rw [List.head?_map, Option.map_eq_none_iff, List.head?_eq_none_iff] at hnone
    exact itemFaults_eq_nil_iff.1 hnone

theorem faults_eq_nil_iff : doc.faults = [] ↔
    ∀ path item, doc.pathItems.get? path = some item → ¬ item.Dangles doc := by
  simp only [Document.faults, List.flatMap_eq_nil_iff, List.map_eq_nil_iff,
    itemFaults_eq_nil_iff, Dict.get?_eq_some_iff, Prod.forall]

/-! ## Schemas make no difference -/

def Parameter.withoutSchemas (parameter : Parameter) : Parameter :=
  { parameter with schema := none, items := none }

def Response.withoutSchemas (response : Response) : Response :=
  { response with schema := none }

def Operation.withoutSchemas (operation : Operation) : Operation :=
  { operation with
    parameters := operation.parameters.map (RefOr.map Parameter.withoutSchemas)
    responses := operation.responses.map fun _ => RefOr.map Response.withoutSchemas }

def PathItem.withoutSchemas (item : PathItem) : PathItem where
  get := item.get.map Operation.withoutSchemas
  put := item.put.map Operation.withoutSchemas
  post := item.post.map Operation.withoutSchemas
  delete := item.delete.map Operation.withoutSchemas
  patch := item.patch.map Operation.withoutSchemas
  head := item.head.map Operation.withoutSchemas
  options := item.options.map Operation.withoutSchemas
  parameters := item.parameters.map (RefOr.map Parameter.withoutSchemas)

/-- The description without any of its schemas. -/
def Document.withoutSchemas (doc : Document) : Document :=
  { doc with
    paths := doc.paths.map (·.map fun _ => PathItem.withoutSchemas)
    definitions := .empty
    parameters := doc.parameters.map fun _ => Parameter.withoutSchemas
    responses := doc.responses.map fun _ => Response.withoutSchemas }

theorem parameterFaults_withoutSchemas (parameter : RefOr Parameter) :
    doc.withoutSchemas.parameterFaults (parameter.map Parameter.withoutSchemas) =
      doc.parameterFaults parameter := by
  cases parameter with
  | inline parameter => rfl
  | ref reference =>
    simp only [RefOr.map, Document.parameterFaults, Document.withoutSchemas, Dict.contains_map]

theorem responseFaults_withoutSchemas (response : RefOr Response) :
    doc.withoutSchemas.responseFaults (response.map Response.withoutSchemas) =
      doc.responseFaults response := by
  cases response with
  | inline response => rfl
  | ref reference =>
    simp only [RefOr.map, Document.responseFaults, Document.withoutSchemas, Dict.contains_map]

theorem operationFaults_withoutSchemas (operation : Operation) :
    doc.withoutSchemas.operationFaults operation.withoutSchemas =
      doc.operationFaults operation := by
  have hresponses : operation.withoutSchemas.responses.values =
      operation.responses.values.map (RefOr.map Response.withoutSchemas) :=
    Dict.values_map_const ..
  rw [Document.operationFaults, Document.operationFaults, hresponses, Operation.withoutSchemas]
  simp only [List.flatMap_map, parameterFaults_withoutSchemas, responseFaults_withoutSchemas]

theorem itemFaults_withoutSchemas (item : PathItem) :
    doc.withoutSchemas.itemFaults item.withoutSchemas = doc.itemFaults item := by
  have hoperations : item.withoutSchemas.operations =
      item.operations.map Operation.withoutSchemas := by
    rw [PathItem.operations, PathItem.operations, List.map_filterMap]
    exact List.filterMap_map (f := Option.map Operation.withoutSchemas) (g := id)
      (l := [item.get, item.put, item.post, item.delete, item.patch, item.head, item.options])
  have hparameters : item.withoutSchemas.parameters =
      item.parameters.map (RefOr.map Parameter.withoutSchemas) := rfl
  rw [Document.itemFaults, Document.itemFaults, hoperations, hparameters]
  simp only [List.flatMap_map, parameterFaults_withoutSchemas, operationFaults_withoutSchemas]

/-- A description has the faults that it has without its schemas. -/
theorem faults_withoutSchemas (doc : Document) : doc.withoutSchemas.faults = doc.faults := by
  have hitems : doc.withoutSchemas.pathItems =
      doc.pathItems.map fun _ => PathItem.withoutSchemas := by
    rw [Document.pathItems, Document.pathItems, Document.withoutSchemas]
    cases doc.paths <;> rfl
  simp only [Document.faults, hitems, Dict.map, List.flatMap_map, itemFaults_withoutSchemas]

/-! ## When the upgrade fails -/

/-- **The upgrade of a description fails just if some path has a dangling reference.** The
    failure names the first such path. Whatever schemas there are, it fails in the same way. -/
theorem upgrade_fails_iff (doc : Document) :
    ((∃ e, doc.upgrade = .error e) ↔
      ∃ path item, doc.pathItems.get? path = some item ∧ item.Dangles doc) ∧
    (∀ e, doc.upgrade = .error e →
      doc.FirstDangling e.path ∧ Text.hasPrefix ("path " ++ e.path ++ ": ") e.message) ∧
    (∀ bytes, Document.ofBytes bytes = .ok doc → ∀ failure,
      Document.loadUpgraded bytes = .error failure ↔
        ∃ e, doc.upgrade = .error e ∧ failure = .upgrade e) ∧
    ∀ e, doc.withoutSchemas.upgrade = .error e ↔ doc.upgrade = .error e := by
  refine ⟨?_, fun e he => ⟨?_, ?_⟩, fun bytes hread failure => ?_, fun e => ?_⟩
  · have hok : (∃ upgraded, doc.upgrade = .ok upgraded) ↔ _ :=
      (upgrade_raises doc).exists_ok_iff.trans faults_eq_nil_iff
    have hfails : (∃ e, doc.upgrade = .error e) ↔ ¬ ∃ upgraded, doc.upgrade = .ok upgraded := by
      cases doc.upgrade <;> simp
    rw [hfails, hok]
    push Not
    rfl
  · exact firstDangling_of_head? ((upgrade_raises doc e).1 he)
  · exact Text.hasPrefix_iff.2 ⟨e.cause.message, rfl⟩
  · have hload : Document.loadUpgraded bytes = doc.upgrade.mapError Failure.upgrade := by
      rw [Document.loadUpgraded, hread]
      rfl
    rw [hload]
    cases doc.upgrade <;> simp [Except.mapError, eq_comm]
  · rw [upgrade_raises, upgrade_raises, faults_withoutSchemas]

end ApiKinds.Swagger
