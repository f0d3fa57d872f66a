/-
  Reading YAML nodes into types.

  * `text?`: any scalar is a text, as it is written.
  * `nullable?`: nothing, and the words for it, stand for a value that is absent.
  * `list?`, `fields?`: a collection, or nothing in place of an empty one. A known field
    may occur once; other keys are ignored, with what is behind them.
-/
import ApiKinds.Yaml.Literal

namespace ApiKinds.Yaml.Document

variable {α : Type}

/-- The node itself, or the one that an alias stands for. -/
def follow? (doc : Document) : Node → Option Node
  | .alias number => doc.node? number
  | node => some node

/-- Whether a node is an empty scalar without quotes. -/
def isBlankNode : Node → Bool
  | .scalar s => s.isPlain && s.text == ""
  | _ => false

/-- The text of a scalar. -/
def text? (doc : Document) (node : Node) : Option String :=
  match doc.follow? node with
  | some (.scalar s) => some s.text
  | _ => none

/-- Whether a scalar stands for nothing; an error if its tag says so and it does not. -/
def isAbsent? (s : Scalar) : Option Bool :=
  if !s.isPlain then some false
  else
    match s.tag with
    | none => some (s.text == "" || isNull s.text)
    | some tag => if tag == typeTag "null" then if isNull s.text then some true else none
      else some false

/-- Nothing, or a value. -/
def nullable? (doc : Document) (read : Node → Option α) (node : Node) : Option (Option α) := do
  let node ← doc.follow? node
  let absent ← match node with
    | .scalar s => isAbsent? s
    | _ => some false
  if absent then some none else (read node).map some

/-- The items of a sequence. -/
def list? (doc : Document) (read : Node → Option α) (node : Node) : Option (List α) := do
  match ← doc.follow? node with
  | .sequence _ items => items.mapM read
  | node => if isBlankNode node then some [] else none

/-- The known fields of a mapping. -/
def fields? (doc : Document) (known : List String) (node : Node) :
    Option (List (String × Node)) := do
  match ← doc.follow? node with
  | .mapping _ pairs =>
    let named ← pairs.mapM fun pair => (doc.text? pair.1).map (·, pair.2)
    let present := named.filter (known.contains ·.1)
    if (present.map (·.1)).Nodup then some present else none
  | node => if isBlankNode node then some [] else none

/-- The value of a field, or one for its absence. -/
def field? (fields : List (String × Node)) (name : String) (default : α)
    (read : Node → Option α) : Option α :=
  match Entries.get? name fields with
  | none => some default
  | some node => read node

end ApiKinds.Yaml.Document
