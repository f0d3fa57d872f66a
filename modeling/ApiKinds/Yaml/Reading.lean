/-
  Reading YAML documents.

  * `Document.ofBytes?`: the document of a text; there must not be a second one.
  * `value?`: the value of a node. Aliases are followed, for at most a hundred times
    the size of the document, collections may lie in each other up to `maxDepth`
    times, and no key may occur twice.
  * `Value.read?`: the value of a text; an empty one is `null`.
-/
import ApiKinds.Yaml.Lexer
import ApiKinds.Yaml.Literal

namespace ApiKinds.Yaml

/-! ## Documents -/

/-- The characters written by bytes. -/
def characters? (bytes : List UInt8) : Option (List Char) :=
  (String.fromUTF8? ⟨bytes.toArray⟩).map String.toList

/-- The document of a text, if there is one. -/
def Document.ofText? (text : List Char) : Option (Option Document) := do
  let docs ← Document.ofTokens? (← Token.ofText? text)
  match docs with
  | [] => some none
  | [doc] => some (some doc)
  | _ => none

/-- The document written by bytes, if there is one. -/
def Document.ofBytes? (bytes : List UInt8) : Option (Option Document) :=
  (characters? bytes).bind Document.ofText?

/-! ## Values -/

/-- How many collections may lie inside each other. -/
def maxDepth : Nat := 128

section
variable (enter : Nat → Nat → Nat → Option (Value × Nat))

mutual
/-- The value of a node with at most `depth` collections inside each other, and how many
    more aliases may be followed behind it. `enter` gives the value of an alias. -/
def Node.value? (depth jumps : Nat) : Node → Option (Value × Nat)
  | .alias number => enter number depth jumps
  | .scalar s => (scalarValue? s).map (·, jumps)
  | .sequence tag items =>
    match depth with
    | 0 => none
    | depth + 1 => do
      let (values, jumps) ← itemValues? depth jumps items
      some (withTag tag (.sequence values), jumps)
  | .mapping tag pairs =>
    match depth with
    | 0 => none
    | depth + 1 => do
      let (values, jumps) ← pairValues? depth jumps [] pairs
      some (withTag tag (.mapping values), jumps)

def itemValues? (depth jumps : Nat) : List Node → Option (List Value × Nat)
  | [] => some ([], jumps)
  | item :: rest => do
    let (value, jumps) ← item.value? depth jumps
    let (values, jumps) ← itemValues? depth jumps rest
    some (value :: values, jumps)

/-- The values of pairs behind pairs with the keys `seen`. -/
def pairValues? (depth jumps : Nat) (seen : List Value) :
    List (Node × Node) → Option (List (Value × Value) × Nat)
  | [] => some ([], jumps)
  | (key, value) :: rest => do
    let (k, jumps) ← key.value? depth jumps
    if seen.any (Value.same k) then none
    else do
      let (v, jumps) ← value.value? depth jumps
      let (values, jumps) ← pairValues? depth jumps (k :: seen) rest
      some ((k, v) :: values, jumps)
end

end

/-- The value of an alias; aliases lie inside each other at most `levels` times. -/
def Document.aliasValue? (doc : Document) : Nat → Nat → Nat → Nat → Option (Value × Nat)
  | 0, _, _, _ => none
  | levels + 1, number, depth, jumps =>
    match jumps with
    | 0 => none
    | jumps + 1 => do
      (← doc.node? number).value? (doc.aliasValue? levels) depth jumps

/-- How many aliases of a document are followed. -/
def Document.maxJumps (doc : Document) : Nat :=
  100 * doc.root.size

/-- The value of a document. An alias inside an alias lies in a collection, so that there
    are not more levels of them than of collections. -/
def Document.value? (doc : Document) : Option Value :=
  (doc.root.value? (doc.aliasValue? (maxDepth + 2)) maxDepth doc.maxJumps).map (·.1)

/-- The value of a text. -/
def Value.read? (bytes : List UInt8) : Option Value := do
  match ← Document.ofBytes? bytes with
  | none => some .null
  | some doc => doc.value?

end ApiKinds.Yaml
