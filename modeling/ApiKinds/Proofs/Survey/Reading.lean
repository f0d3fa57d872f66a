/-
  What a survey reads of an operation: the parameters that are shown and the shapes of its
  bodies.

  * `Operation.ReadAlike`: all of it is read alike from two documents.
  * `PathView.ReadAlike`: so it is for every operation of a view, and then the endpoints and
    what the view contributes to a resource are equal.
  * `gather_readAlike`: so are resources.
  * `Document.Mirrors.survey`: and so are the surveys of two documents.
-/
import ApiKinds.Proofs.Survey.Correspondence
import ApiKinds.Proofs.Survey.Drafts

namespace ApiKinds

open Api

/-! ## Operations -/

/-- Two operations, below two paths, show the same. -/
structure Api.Operation.ReadAlike (doc other : Document) (item item' : PathItem)
    (operation operation' : Operation) : Prop where
  operationId : operation.operationId = operation'.operationId
  summary : operation.summary = operation'.summary
  description : operation.description = operation'.description
  params : ∀ expandArrays,
    shownParams doc expandArrays item operation = shownParams other expandArrays item' operation'
  actionBody : actionBody doc operation = actionBody other operation'
  entity : (requestSchema? doc operation jsonType).bind (entityShape? doc) =
    (requestSchema? other operation' jsonType).bind (entityShape? other)
  request : ∀ name, requestShape? doc operation name = requestShape? other operation' name
  response : ∀ name, responseShape? doc operation name = responseShape? other operation' name
  result : (responseSchema? doc operation).map (queryResult doc) =
    (responseSchema? other operation').map (queryResult other)

namespace Api.Operation.ReadAlike

variable {doc doc' doc'' : Document} {item item' item'' : PathItem}
  {operation operation' operation'' : Operation}

theorem symm (h : operation.ReadAlike doc doc' item item' operation') :
    operation'.ReadAlike doc' doc item' item operation where
  operationId := h.operationId.symm
  summary := h.summary.symm
  description := h.description.symm
  params expandArrays := (h.params expandArrays).symm
  actionBody := h.actionBody.symm
  entity := h.entity.symm
  request name := (h.request name).symm
  response name := (h.response name).symm
  result := h.result.symm

theorem trans (h : operation.ReadAlike doc doc' item item' operation')
    (h' : operation'.ReadAlike doc' doc'' item' item'' operation'') :
    operation.ReadAlike doc doc'' item item'' operation'' where
  operationId := h.operationId.trans h'.operationId
  summary := h.summary.trans h'.summary
  description := h.description.trans h'.description
  params expandArrays := (h.params expandArrays).trans (h'.params expandArrays)
  actionBody := h.actionBody.trans h'.actionBody
  entity := h.entity.trans h'.entity
  request name := (h.request name).trans (h'.request name)
  response name := (h.response name).trans (h'.response name)
  result := h.result.trans h'.result

end Api.Operation.ReadAlike

/-- Two views show the same. -/
def PathView.ReadAlike (doc other : Document) (a b : PathView) : Prop :=
  a.Corresponds (Operation.ReadAlike doc other a.item b.item) b

/-! ## Endpoints -/

section
variable {doc other : Document} {a b : PathView} (h : a.ReadAlike doc other b)
include h

theorem actionEndpoint?_readAlike (rootKind : Option String) :
    actionEndpoint? doc rootKind a = actionEndpoint? other rootKind b := by
  simp only [actionEndpoint?, h.path]
  refine congrArg _ (funext fun names => rel_eq_iff.1 ?_)
  refine rel_bind (h.actionOperation? names.action) ?_
  rintro ⟨method, operation⟩ ⟨_, operation'⟩ ⟨rfl, hread⟩
  replace hread : operation.ReadAlike doc other a.item b.item operation' := hread
  simp only [hread.operationId, hread.summary, hread.description, hread.params, hread.actionBody,
    hread.response]
  exact .some rfl

theorem queryEndpoint?_readAlike (rootKind : Option String) :
    queryEndpoint? doc rootKind a = queryEndpoint? other rootKind b := by
  refine rel_eq_iff.1 (rel_bind (h.operation? .get) fun operation operation' hread => ?_)
  simp only [h.path, hread.operationId, hread.summary, hread.description, hread.params,
    hread.response, hread.result]
  exact rel_eq_iff.2 rfl

/-! ## Resources -/

theorem resourceShape?_readAlike : resourceShape? doc a = resourceShape? other b := by
  have hentity : ∀ method, ((a.operation? method).bind fun operation =>
      (requestSchema? doc operation jsonType).bind (entityShape? doc)) =
        (b.operation? method).bind fun operation =>
          (requestSchema? other operation jsonType).bind (entityShape? other) :=
    fun method => rel_eq_iff.1 <| rel_bind (h.operation? method) fun _ _ hread => by
      rw [hread.entity]
      exact rel_eq_iff.2 rfl
  exact congrArg (List.findSome? · _) (funext hentity)

theorem resourceOperation_readAlike {operation operation' : Operation}
    (hread : operation.ReadAlike doc other a.item b.item operation') (method : Method) :
    resourceOperation doc a method operation = resourceOperation other b method operation' := by
  simp only [resourceOperation, h.path, hread.operationId, hread.summary, hread.params,
    hread.request, hread.response]

theorem contribute_readAlike (draft : Draft) :
    draft.contribute doc a = draft.contribute other b := by
  have hoffered : Draft.offerAll (resourceOperation doc a) (endsInParam a.path) a.operations draft =
      Draft.offerAll (resourceOperation other b) (endsInParam b.path) b.operations draft := by
    rw [h.path]
    refine foldl_eq_of_forall₂ h.operations (fun draft x y hxy => ?_) draft
    rw [hxy.1, resourceOperation_readAlike h hxy.2]
  have hdescription : a.descriptionText? = b.descriptionText? :=
    findSome?_eq_of_forall₂ h.operations fun x y hxy => by
      rw [Operation.descriptionText?, Operation.descriptionText?, hxy.2.description]
  rw [Draft.offerAll, Draft.offerAll] at hoffered
  rw [PathView.descriptionText?, PathView.descriptionText?] at hdescription
  simp only [Draft.contribute, hoffered, hdescription, resourceShape?_readAlike h]

theorem addContribution_readAlike (drafts : Dict Draft) (name : String) :
    addContribution doc drafts name a = addContribution other drafts name b := by
  simp only [addContribution, h.path, contribute_readAlike h]

end

/-- Contributions to the same names that show the same make the same resources. -/
theorem gather_readAlike {doc other : Document} {as bs : List (String × PathView)}
    (h : List.Forall₂ (fun x y => x.1 = y.1 ∧ x.2.ReadAlike doc other y.2) as bs) :
    gather doc as = gather other bs := by
  have hdrafts : drafts doc as = drafts other bs :=
    foldl_eq_of_forall₂ h (fun drafts x y hxy => by
      rw [hxy.1, addContribution_readAlike hxy.2]) _
  rw [gather, gather, hdrafts]

/-! ## Surveys -/

/-- Documents whose views show the same have the same survey. -/
theorem Api.Document.Mirrors.survey {Q : PathItem → PathItem → Prop}
    {R : Operation → Operation → Prop} {doc other : Document} (h : doc.Mirrors Q R other)
    (hread : ∀ a b : PathView, a.Mirrors Q R b → a.ReadAlike doc other b)
    (filter : Option PathFilter) (rootKind : Option String) :
    doc.survey filter rootKind = other.survey filter rootKind := by
  have hfindings := h.findings filter (namedKind? rootKind)
    (V := fun a b => a.ReadAlike doc other b ∧ a.methodsLabel = b.methodsLabel) (A := Eq) (E := Eq)
    (fun _ _ hview => ⟨hread _ _ hview, hview.methodsLabel⟩)
    (fun _ _ hview => rel_eq_iff.2 (actionEndpoint?_readAlike (hread _ _ hview) _))
    (fun _ _ hview => rel_eq_iff.2 (queryEndpoint?_readAlike (hread _ _ hview) _))
  have hcontributions := List.rel_filterMap
    (fun _ _ hmatches => Finding.Matches.contribution? hmatches) hfindings
  rw [Document.survey, Document.survey, Survey.ofFindings, Survey.ofFindings, Survey.mk.injEq]
  refine ⟨?gathered, ?queries, ?actions, congrArg Report.mk ?rows⟩
  case gathered =>
    exact gather_readAlike (hcontributions.imp fun _ _ hsame => ⟨hsame.1, hsame.2.1⟩)
  case queries =>
    exact filterMap_eq_of_forall₂ hfindings fun _ _ hmatches => rel_eq_iff.1 hmatches.query?
  case actions =>
    exact filterMap_eq_of_forall₂ hfindings fun _ _ hmatches => rel_eq_iff.1 hmatches.action?
  case rows =>
    refine map_eq_of_forall₂ hfindings fun _ _ hmatches => hmatches.row
      (fun _ _ hview => ⟨hview.1.path, hview.2⟩) ?_ ?_
    · rintro endpoint _ rfl
      exact ⟨rfl, rfl⟩
    · rintro endpoint _ rfl
      rfl

end ApiKinds
