/-
  Nodes: the structure of a YAML text.

  * `Node`: a scalar as it is written, a collection, or an alias for a node elsewhere.
  * `Document`: the root node and the nodes that aliases stand for.
  * `Reader`: the tokens that are left; its functions follow the grammar. Their fuel
    is twice the number of tokens and more.
  * `Document.ofTokens?`: the documents of a text.

  A node is known by the number that its anchor gets: the number of different
  names so far. A name that is used again gets a new number, which another
  name may get as well; then the later node counts for both.
-/
import ApiKinds.Yaml.Token

namespace ApiKinds.Yaml

/-! ## Nodes -/

/-- A scalar as it is written. -/
structure Scalar where
  tag : Option String
  /-- It is written without quotes and so may be no text. -/
  isPlain : Bool
  text : String
deriving DecidableEq, Repr, Inhabited

/-- A part of a document. -/
inductive Node where
  | alias (number : Nat)
  | scalar (value : Scalar)
  | sequence (tag : Option String) (items : List Node)
  | mapping (tag : Option String) (pairs : List (Node × Node))
deriving Inhabited

/-- A node with an anchor. -/
structure Anchored where
  number : Nat
  /-- How many anchors stand in front of it. -/
  place : Nat
  node : Node

/-- A document. -/
structure Document where
  root : Node
  anchored : List Anchored

/-- Of two anchored nodes, the later one. -/
def Anchored.later (a b : Anchored) : Anchored :=
  if a.place < b.place then b else a

/-- The node that an alias stands for. -/
def Document.node? (doc : Document) (number : Nat) : Option Node :=
  match doc.anchored.filter (·.number = number) with
  | [] => none
  | first :: others => some (others.foldl Anchored.later first).node

mutual
/-- The number of scalars, aliases and ends of collections. -/
def Node.size : Node → Nat
  | .alias _ => 1
  | .scalar _ => 1
  | .sequence _ items => 2 + sizeOfItems items
  | .mapping _ pairs => 2 + sizeOfPairs pairs

def sizeOfItems : List Node → Nat
  | [] => 0
  | item :: rest => item.size + sizeOfItems rest

def sizeOfPairs : List (Node × Node) → Nat
  | [] => 0
  | (key, value) :: rest => key.size + value.size + sizeOfPairs rest
end

/-! ## Reading -/

/-- The abbreviations of tags in a document. -/
abbrev TagHandles := List (String × String)

/-- The abbreviations that need no directive. -/
def defaultHandles : TagHandles :=
  [("!", "!"), ("!!", "tag:yaml.org,2002:")]

/-- The text of a tag. -/
def fullTag? (handles : TagHandles) (handle suffix : String) : Option String :=
  if handle == "" then some suffix else (handles.lookup handle).map (· ++ suffix)

/-- What is left of the tokens, and the anchors so far. -/
structure Reader where
  tokens : List Token
  handles : TagHandles := defaultHandles
  /-- The numbers of the names. -/
  names : List (String × Nat) := []
  /-- How many anchors there were. -/
  places : Nat := 0
  anchored : List Anchored := []

namespace Reader

/-- Passes over a token. -/
def drop (r : Reader) : Reader :=
  { r with tokens := r.tokens.tail }

/-- The next token is one of these. -/
def isAt (r : Reader) (tokens : List Token) : Bool :=
  r.tokens.head?.any tokens.contains

/-- A node that is not written. -/
def missing : Node :=
  .scalar ⟨none, true, ""⟩

/-- What stands in front of a node. -/
structure Properties where
  tag : Option String := none
  anchor : Option String := none

/-- The anchor at the front. -/
def anchor (r : Reader) : Option String × Reader :=
  match r.tokens with
  | .anchor name :: _ => (some name, r.drop)
  | _ => (none, r)

/-- The tag at the front. -/
def tag? (r : Reader) : Option (Option String × Reader) :=
  match r.tokens with
  | .tag handle suffix :: _ => (fullTag? r.handles handle suffix).map fun tag => (some tag, r.drop)
  | _ => some (none, r)

/-- Anchor and tag in either order. -/
def properties? (r : Reader) : Option (Properties × Reader) := do
  let (first, r) := r.anchor
  let (tag, r) ← r.tag?
  let (late, r) := if first.isNone && tag.isSome then r.anchor else (none, r)
  some (⟨tag, first <|> late⟩, r)

/-- Where a node is entered that begins here, with its number. -/
def begin (r : Reader) (p : Properties) : Option (Nat × Nat) × Reader :=
  match p.anchor with
  | none => (none, r)
  | some name =>
    let number := r.names.length
    (some (number, r.places),
      { r with
        names := (name, number) :: r.names.filter (·.1 != name)
        places := r.places + 1 })

/-- Enters a node that is read. -/
def finish (r : Reader) (entry : Option (Nat × Nat)) (node : Node) : Node × Reader :=
  match entry with
  | none => (node, r)
  | some (number, place) =>
    (node, { r with anchored := ⟨number, place, node⟩ :: r.anchored })

/-- A node that is read at once. -/
def enter (r : Reader) (p : Properties) (node : Node) : Node × Reader :=
  let (entry, r) := r.begin p
  r.finish entry node

def scalar (r : Reader) (p : Properties) (isPlain : Bool) (text : String) : Node × Reader :=
  r.drop.enter p (.scalar ⟨p.tag, isPlain, text⟩)

/-- A node that has nothing but properties. -/
def bare? (r : Reader) (p : Properties) : Option (Node × Reader) :=
  if p.anchor.isSome || p.tag.isSome then some (r.enter p (.scalar ⟨p.tag, true, ""⟩)) else none

/-- The node of an alias. -/
def alias? (r : Reader) (name : String) : Option (Node × Reader) :=
  (r.names.lookup name).map fun number => (.alias number, r.drop)

mutual
/-- A node. In a block it may be a block collection, and a sequence may also stand at
    the column of its key. -/
def node? : Nat → Bool → Bool → Reader → Option (Node × Reader)
  | 0, _, _, _ => none
  | fuel + 1, inBlock, atKey, r =>
    match r.tokens with
    | .alias name :: _ => r.alias? name
    | _ => do
      let (p, r) ← r.properties?
      let (entry, inner) := r.begin p
      let sequence := fun (read : Option (List Node × Reader)) =>
        read.map fun (items, r) => r.finish entry (.sequence p.tag items)
      let mapping := fun (read : Option (List (Node × Node) × Reader)) =>
        read.map fun (pairs, r) => r.finish entry (.mapping p.tag pairs)
      if atKey && r.isAt [.blockEntry] then sequence (keyItems? fuel [] inner)
      else
        match r.tokens with
        | .scalar isPlain text :: _ => some (r.scalar p isPlain text)
        | .flowSequence :: _ => sequence (flowItems? fuel true [] inner.drop)
        | .flowMapping :: _ => mapping (flowPairs? fuel true [] inner.drop)
        | token :: _ =>
          if inBlock && token = .blockSequence then sequence (blockItems? fuel [] inner.drop)
          else if inBlock && token = .blockMapping then mapping (blockPairs? fuel [] inner.drop)
          else r.bare? p
        | [] => r.bare? p

/-- A node of a block, unless one of the tokens shows that there is none. -/
def blockNode? : Nat → Bool → List Token → Reader → Option (Node × Reader)
  | 0, _, _, _ => none
  | fuel + 1, atKey, ends, r =>
    if r.isAt ends then some (missing, r) else node? fuel true atKey r

/-- A node of a flow collection, unless one of the tokens shows that there is none. -/
def flowNode? : Nat → List Token → Reader → Option (Node × Reader)
  | 0, _, _ => none
  | fuel + 1, ends, r => if r.isAt ends then some (missing, r) else node? fuel false false r

/-- The items of a block sequence behind those already read, the last one of which
    comes first. -/
def blockItems? : Nat → List Node → Reader → Option (List Node × Reader)
  | 0, _, _ => none
  | fuel + 1, read, r =>
    if r.isAt [.blockEntry] then do
      let (item, r) ← blockNode? fuel false [.blockEntry, .blockEnd] r.drop
      blockItems? fuel (item :: read) r
    else if r.isAt [.blockEnd] then some (read.reverse, r.drop)
    else none

/-- The items of a sequence at the column of its key. -/
def keyItems? : Nat → List Node → Reader → Option (List Node × Reader)
  | 0, _, _ => none
  | fuel + 1, read, r =>
    if r.isAt [.blockEntry] then do
      let (item, r) ← blockNode? fuel false [.blockEntry, .key, .value, .blockEnd] r.drop
      keyItems? fuel (item :: read) r
    else some (read.reverse, r)

/-- The pairs of a block mapping. -/
def blockPairs? : Nat → List (Node × Node) → Reader → Option (List (Node × Node) × Reader)
  | 0, _, _ => none
  | fuel + 1, read, r =>
    if r.isAt [.key] then do
      let ends := [.key, .value, .blockEnd]
      let (key, r) ← blockNode? fuel true ends r.drop
      let (value, r) ←
        if r.isAt [.value] then blockNode? fuel true ends r.drop else some (missing, r)
      blockPairs? fuel ((key, value) :: read) r
    else if r.isAt [.blockEnd] then some (read.reverse, r.drop)
    else none

/-- The items of a flow sequence, each behind a comma unless it is the first. -/
def flowItems? : Nat → Bool → List Node → Reader → Option (List Node × Reader)
  | 0, _, _, _ => none
  | fuel + 1, isFirst, read, r =>
    if r.isAt [.flowSequenceEnd] then some (read.reverse, r.drop)
    else if !isFirst && !r.isAt [.flowEntry] then none
    else
      let r := if isFirst then r else r.drop
      if r.isAt [.flowSequenceEnd] then some (read.reverse, r.drop)
      else do
        let (item, r) ← if r.isAt [.key] then singlePair? fuel r.drop else node? fuel false false r
        flowItems? fuel false (item :: read) r

/-- A pair that is an item of a flow sequence. If it has no key, the token behind is
    passed over. -/
def singlePair? : Nat → Reader → Option (Node × Reader)
  | 0, _ => none
  | fuel + 1, r => do
    let (key, r) ←
      if r.isAt [.value, .flowEntry, .flowSequenceEnd] then some (missing, r.drop)
      else node? fuel false false r
    let (value, r) ←
      if r.isAt [.value] then flowNode? fuel [.flowEntry, .flowSequenceEnd] r.drop
      else some (missing, r)
    some (.mapping none [(key, value)], r)

/-- The pairs of a flow mapping, each behind a comma unless it is the first. -/
def flowPairs? :
    Nat → Bool → List (Node × Node) → Reader → Option (List (Node × Node) × Reader)
  | 0, _, _, _ => none
  | fuel + 1, isFirst, read, r =>
    if r.isAt [.flowMappingEnd] then some (read.reverse, r.drop)
    else if !isFirst && !r.isAt [.flowEntry] then none
    else
      let r := if isFirst then r else r.drop
      if r.isAt [.flowMappingEnd] then some (read.reverse, r.drop)
      else if r.isAt [.key] then do
        let (key, r) ← flowNode? fuel [.value, .flowEntry, .flowMappingEnd] r.drop
        let (value, r) ←
          if r.isAt [.value] then flowNode? fuel [.flowEntry, .flowMappingEnd] r.drop
          else some (missing, r)
        flowPairs? fuel false ((key, value) :: read) r
      else do
        let (key, r) ← node? fuel false false r
        flowPairs? fuel false ((key, missing) :: read) r
end

end Reader

/-! ## Documents -/

/-- The directives in front of a document. -/
structure Directives where
  hasVersion : Bool := false
  handles : TagHandles := []

/-- Reads directives: at most one version, which is 1.1 or 1.2, and each abbreviation
    once. -/
def directives? (seen : Directives) : List Token → Option (Directives × List Token)
  | .version major minor :: rest =>
    if seen.hasVersion || major != 1 || (minor != 1 && minor != 2) then none
    else directives? { seen with hasVersion := true } rest
  | .tagHandle handle start :: rest =>
    if (seen.handles.lookup handle).isSome then none
    else directives? { seen with handles := (handle, start) :: seen.handles } rest
  | tokens => some (seen, tokens)

/-- The tokens in front of which a document that is begun by `---` is empty. -/
def isDocumentEdge : List Token → Bool
  | [] => true
  | .version .. :: _ | .tagHandle .. :: _ | .documentStart :: _ | .documentEnd :: _ => true
  | _ => false

/-- The node of a document begun by `---`. -/
def documentNode? (fuel : Nat) (r : Reader) : Option (Node × Reader) :=
  if isDocumentEdge r.tokens then some (Reader.missing, r) else r.node? fuel true false

/-- A document begun by `---`, behind its directives. -/
def explicitDocument? (fuel : Nat) (tokens : List Token) : Option (Node × Reader) := do
  let (found, tokens) ← directives? {} tokens
  match tokens with
  | .documentStart :: rest =>
    documentNode? fuel { tokens := rest, handles := found.handles ++ defaultHandles }
  | _ => none

/-- The documents behind the first one. -/
def documents? : Nat → List Token → Option (List Document)
  | 0, _ => none
  | fuel + 1, tokens =>
    match tokens with
    | [] => some []
    | .documentEnd :: rest => documents? fuel rest
    | _ => do
      let (root, r) ← explicitDocument? (fuel + 1) tokens
      some (⟨root, r.anchored⟩ :: (← documents? fuel r.tokens))

/-- The documents of a text, of which the first one needs no `---`. -/
def Document.ofTokens? (tokens : List Token) : Option (List Document) :=
  let fuel := 2 * tokens.length + 4
  match tokens with
  | [] => some []
  | .version .. :: _ | .tagHandle .. :: _ | .documentStart :: _ => documents? fuel tokens
  | _ => do
    let (root, r) ← Reader.node? fuel true false { tokens := tokens }
    some (⟨root, r.anchored⟩ :: (← documents? fuel r.tokens))

end ApiKinds.Yaml
