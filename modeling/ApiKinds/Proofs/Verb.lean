/-
  The verbs of HTTP under which a path lists its operations, in both forms of
  descriptions.

  * `PathItem.at?`: the operation under a verb.
  * `mem_operations_iff`: no operation of a path is left out of the list of them.
-/
import ApiKinds.Swagger.Document

namespace ApiKinds

/-- The verbs that a path can have an operation for. -/
inductive Verb where
  | get
  | put
  | post
  | delete
  | patch
  | head
  | options
deriving DecidableEq, Repr

namespace Api

/-- The operation under a verb. -/
def PathItem.at? (item : PathItem) : Verb → Option Operation
  | .get => item.get
  | .put => item.put
  | .post => item.post
  | .delete => item.delete
  | .patch => item.patch
  | .head => item.head
  | .options => item.options

theorem PathItem.mem_operations_iff {item : PathItem} {operation : Operation} :
    operation ∈ item.operations ↔ ∃ verb, item.at? verb = some operation := by
  simp only [operations, List.mem_filterMap, id, List.mem_cons, List.not_mem_nil, or_false]
  constructor
  · rintro ⟨_, hmem, rfl⟩
    rcases hmem with h | h | h | h | h | h | h
    · exact ⟨.get, h.symm⟩
    · exact ⟨.post, h.symm⟩
    · exact ⟨.put, h.symm⟩
    · exact ⟨.delete, h.symm⟩
    · exact ⟨.patch, h.symm⟩
    · exact ⟨.head, h.symm⟩
    · exact ⟨.options, h.symm⟩
  · rintro ⟨verb, h⟩
    refine ⟨item.at? verb, ?_, h⟩
    cases verb <;> simp [at?]

/-- A path with the given operations, which share no parameters. -/
def PathItem.ofVerbs (operation? : Verb → Option Operation) : PathItem where
  get := operation? .get
  put := operation? .put
  post := operation? .post
  delete := operation? .delete
  patch := operation? .patch
  head := operation? .head
  options := operation? .options

theorem PathItem.at?_ofVerbs (operation? : Verb → Option Operation) (verb : Verb) :
    (ofVerbs operation?).at? verb = operation? verb := by
  cases verb <;> rfl

end Api

/-- The operation under a verb. -/
def Swagger.PathItem.at? (item : PathItem) : Verb → Option Operation
  | .get => item.get
  | .put => item.put
  | .post => item.post
  | .delete => item.delete
  | .patch => item.patch
  | .head => item.head
  | .options => item.options

end ApiKinds
