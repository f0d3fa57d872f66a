/-
  Reading JSON values into types.

  * `string?`, `bool?`, `natural?`, `double?`, `listOf?`, `entriesOf?`: the values
    that a type admits. They are strict: no number stands for a text, no fraction
    for a count.
  * `Record`: the known fields of an object. A known field may occur once only; other
    members are ignored. A record may also be written as the list of its fields in
    the order they are declared (`record?`, `fullRecord?`), unless it collects other
    members.
  * `Record.required`, `Record.withDefault`, `Record.optional`: how a field that is
    absent, or `null`, is read.
-/
import ApiKinds.Json.Basic

namespace ApiKinds.Json

variable {α : Type}

/-! ## Values -/

def string? : Json → Option String
  | .string s => some s
  | _ => none

def bool? : Json → Option Bool
  | .bool b => some b
  | _ => none

def isNull : Json → Bool
  | .null => true
  | _ => false

/-- A count: an integer that is not negative. -/
def natural? : Json → Option Nat
  | .number (.int i) => if 0 ≤ i then some i.toNat else none
  | _ => none

/-- Any number, to the nearest double. -/
def double? : Json → Option Binary64
  | .number n => some n.toBinary64
  | _ => none

/-- Any value, with its objects in key order. -/
def any? (value : Json) : Option Json :=
  some value.canonical

/-- A list of values that are read alike. -/
def listOf? (read : Json → Option α) : Json → Option (List α)
  | .array items => items.mapM read
  | _ => none

/-- The members of an object that are read alike, as they are written. -/
def entriesOf? (read : Json → Option α) : Json → Option (List (String × α))
  | .object members => members.mapM fun m => (read m.2).map (m.1, ·)
  | _ => none

/-- An object as a map. -/
def dictOf? (read : Json → Option α) (value : Json) : Option (Dict α) :=
  (entriesOf? read value).map Dict.ofList

/-- `null`, or a value. -/
def nullable? (read : Json → Option α) (value : Json) : Option (Option α) :=
  if value.isNull then some none else (read value).map some

/-! ## Records -/

/-- The known fields that are present. -/
structure Record where
  fields : List (String × Json)

/-- The known fields among the members of an object, each of which may occur once. -/
def Record.ofMembers? (known : List String) (members : List (String × Json)) : Option Record :=
  let present := members.filter (known.contains ·.1)
  if (present.map (·.1)).Nodup then some ⟨present⟩ else none

/-- The fields given in order, not more than are known. -/
def Record.ofItems? (known : List String) (items : List Json) : Option Record :=
  if items.length ≤ known.length then some ⟨known.zip items⟩ else none

/-- An object, or the list of its fields, of which the last may be missing. -/
def record? (known : List String) : Json → Option Record
  | .object members => Record.ofMembers? known members
  | .array items => Record.ofItems? known items
  | _ => none

/-- An object, or the list of all its fields. -/
def fullRecord? (known : List String) : Json → Option Record
  | .object members => Record.ofMembers? known members
  | .array items => if items.length = known.length then some ⟨known.zip items⟩ else none
  | _ => none

/-- The members of an object that are no known fields, in key order. -/
def otherMembers (known : List String) (members : List (String × Json)) : List (String × Json) :=
  Entries.ofList ((members.filter (!known.contains ·.1)).map fun m => (m.1, m.2.canonical))

namespace Record

def find? (r : Record) (name : String) : Option Json :=
  Entries.get? name r.fields

/-- A field that has to be present. -/
def required (r : Record) (name : String) (read : Json → Option α) : Option α :=
  (r.find? name).bind read

/-- A field with a value for its absence; `null` is not absence. -/
def withDefault (r : Record) (name : String) (default : α) (read : Json → Option α) : Option α :=
  match r.find? name with
  | none => some default
  | some value => read value

/-- A field that may be absent or `null`. -/
def optional (r : Record) (name : String) (read : Json → Option α) : Option (Option α) :=
  r.withDefault name none (nullable? read)

/-- A list that is empty when absent. -/
def list (r : Record) (name : String) (read : Json → Option α) : Option (List α) :=
  r.withDefault name [] (listOf? read)

/-- A map that is empty when absent. -/
def dict (r : Record) (name : String) (read : Json → Option α) : Option (Dict α) :=
  r.withDefault name .empty (dictOf? read)

/-- A flag that is down when absent. -/
def flag (r : Record) (name : String) : Option Bool :=
  r.withDefault name false bool?

end Record

end ApiKinds.Json
