/-
  YAML values as JSON values.

  * `Value.keyText`: the text that a key becomes.
  * `Value.jsonNumber`: a number as the first that it can be of an integer with a sign, an integer
    without one, and a double.
  * `Value.toJson`: tags are dropped, numbers that JSON has no form for become `null`,
    and of two keys with the same text the later one stays.
-/
import ApiKinds.Yaml.Printer

namespace ApiKinds.Yaml.Value

/-- The text that a key becomes. -/
def keyText : Value → String
  | .string s => s
  | .number n => numberText n
  | .bool b => if b then "true" else "false"
  | .null => "null"
  | .tagged _ value => keyText value
  | .sequence items => blockText (.sequence items)
  | .mapping pairs => blockText (.mapping pairs)

/-- A number as an integer with a sign, else as one without, else as a double, which is `null` if
    it is not finite. -/
def jsonNumber (n : Json.Number) : Json :=
  match n.signed? with
  | some i => .number (.int i)
  | none =>
    match n.unsigned? with
    | some u => .number (.int u)
    | none => .ofDouble n.toBinary64

/-- An integer of 64 bits stays what it is. -/
theorem jsonNumber_of_fits {i : Int} (h : Json.Number.fits i) :
    jsonNumber (.int i) = .number (.int i) := by
  rw [jsonNumber, Json.Number.signed?, Json.Number.unsigned?]
  by_cases hsigned : Json.Number.fitsSigned i
  · simp [hsigned]
  · have hunsigned : 0 ≤ i ∧ i < twoTo 64 := by
      simp only [Json.Number.fits, Json.Number.fitsSigned, Bool.and_eq_true,
        decide_eq_true_eq] at h hsigned
      omega
    simp [hsigned, hunsigned, Int.toNat_of_nonneg hunsigned.1]

mutual
def toJson : Value → Json
  | .null => .null
  | .bool b => .bool b
  | .number n => jsonNumber n
  | .string s => .string s
  | .sequence items => .array (itemsToJson items)
  | .mapping pairs => .object (Entries.ofList (pairsToJson pairs))
  | .tagged _ value => toJson value

def itemsToJson : List Value → List Json
  | [] => []
  | item :: rest => toJson item :: itemsToJson rest

def pairsToJson : List (Value × Value) → List (String × Json)
  | [] => []
  | (key, value) :: rest => (keyText key, toJson value) :: pairsToJson rest
end

end ApiKinds.Yaml.Value
