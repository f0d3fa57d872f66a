/-
  The JSON that a YAML value stands for.

  * `ofJson`: a JSON value as a YAML value, with texts for keys. `toJson_ofJson`: it stands for
    the JSON value, in canonical form.
  * `Wraps`: a tag is put around a value or around a key, wherever they are. `toJson_of_wraps`:
    a step of this kind does not change the JSON.
  * `PlainKey`: the text of a key without parts. `exists_perm_toJson`: where no two keys have one
    text, the object has the entries of the mapping.
  * `toJson_faithful`: all of this together.
-/
import ApiKinds.Proofs.Json.Value
import ApiKinds.Yaml.ToJson
import Mathlib.Logic.Relation

namespace ApiKinds.Yaml.Value

theorem itemsToJson_eq (items : List Value) : itemsToJson items = items.map toJson := by
  induction items with
  | nil => rw [itemsToJson, List.map_nil]
  | cons item rest ih => rw [itemsToJson, ih, List.map_cons]

theorem pairsToJson_eq (pairs : List (Value × Value)) :
    pairsToJson pairs = pairs.map fun p => (keyText p.1, toJson p.2) := by
  induction pairs with
  | nil => rw [pairsToJson, List.map_nil]
  | cons p rest ih => rw [pairsToJson, ih, List.map_cons]

/-! ## JSON as YAML -/

mutual
/-- A JSON value as a YAML value, with the same texts for keys. -/
def ofJson : Json → Value
  | .null => .null
  | .bool b => .bool b
  | .number n => .number n
  | .string s => .string s
  | .array items => .sequence (itemsOfJson items)
  | .object members => .mapping (pairsOfJson members)

def itemsOfJson : List Json → List Value
  | [] => []
  | item :: rest => ofJson item :: itemsOfJson rest

def pairsOfJson : List (String × Json) → List (Value × Value)
  | [] => []
  | (key, value) :: rest => (.string key, ofJson value) :: pairsOfJson rest
end

theorem itemsOfJson_eq (items : List Json) : itemsOfJson items = items.map ofJson := by
  induction items with
  | nil => rw [itemsOfJson, List.map_nil]
  | cons item rest ih => rw [itemsOfJson, ih, List.map_cons]

theorem pairsOfJson_eq (members : List (String × Json)) :
    pairsOfJson members = members.map fun m => (.string m.1, ofJson m.2) := by
  induction members with
  | nil => rw [pairsOfJson, List.map_nil]
  | cons m rest ih => rw [pairsOfJson, ih, List.map_cons]

open Json in
/-- A regular value is found again, in canonical form. -/
theorem toJson_ofJson {unique : Prop} {value : Json} (h : value.Regular unique) :
    toJson (ofJson value) = value.canonical := by
  induction h with
  | null | bool | string => rw [ofJson, toJson, canonical]
  | int hfits => rw [ofJson, toJson, canonical, jsonNumber_of_fits hfits]
  | real hfinite =>
    rw [ofJson, toJson, canonical]
    exact ofDouble_of_isFinite hfinite
  | array _ ih =>
    rw [ofJson, toJson, canonical, itemsOfJson_eq, itemsToJson_eq, canonicalItems_eq, List.map_map]
    exact congrArg array (List.map_congr_left ih)
  | @object members _ _ ih =>
    have hmembers (m) (hm : m ∈ members) :
        (keyText (.string m.1), toJson (ofJson m.2)) = (m.1, m.2.canonical) := by
      rw [keyText, ih m hm]
    rw [ofJson, toJson, canonical, pairsOfJson_eq, pairsToJson_eq, canonicalMembers_eq,
      List.map_map]
    exact congrArg (fun pairs => object (Entries.ofList pairs)) (List.map_congr_left hmembers)

/-! ## Tags -/

/-- A tag is put around a key, or around what stands behind its own tags. -/
inductive WrapsKey : Value → Value → Prop
  | here {key tag} : WrapsKey key (.tagged tag key)
  | behind {key key' tag} : WrapsKey key key' → WrapsKey (.tagged tag key) (.tagged tag key')

/-- A tag is put around a value or a key, at some depth; collections that are keys stay as they
    are inside. -/
inductive Wraps : Value → Value → Prop
  | here {value tag} : Wraps value (.tagged tag value)
  | behind {value value' tag} : Wraps value value' →
      Wraps (.tagged tag value) (.tagged tag value')
  | item (before) {item item' after} : Wraps item item' →
      Wraps (.sequence (before ++ item :: after)) (.sequence (before ++ item' :: after))
  | value (before) {key value value' after} : Wraps value value' →
      Wraps (.mapping (before ++ (key, value) :: after)) (.mapping (before ++ (key, value') :: after))
  | key (before) {key key' value after} : WrapsKey key key' →
      Wraps (.mapping (before ++ (key, value) :: after)) (.mapping (before ++ (key', value) :: after))

theorem keyText_of_wrapsKey {key wrapped : Value} (h : WrapsKey key wrapped) :
    keyText wrapped = keyText key := by
  induction h with
  | here => rw [keyText]
  | behind _ ih => rw [keyText, keyText, ih]

theorem toJson_of_wraps {value wrapped : Value} (h : Wraps value wrapped) :
    toJson wrapped = toJson value := by
  induction h with
  | here => rw [toJson]
  | behind _ ih => rw [toJson, toJson, ih]
  | item _ _ ih =>
    simp only [toJson, itemsToJson_eq, List.map_append, List.map_cons, ih]
  | value _ _ ih =>
    simp only [toJson, pairsToJson_eq, List.map_append, List.map_cons, ih]
  | key _ hkey =>
    simp only [toJson, pairsToJson_eq, List.map_append, List.map_cons, keyText_of_wrapsKey hkey]

/-! ## Keys -/

/-- A key that is a text, an integer, a truth value or `null`, and its text. -/
inductive PlainKey : Value → String → Prop
  | string {s} : PlainKey (.string s) s
  | integer {i : Int} : PlainKey (.number (.int i)) (toString i)
  | yes : PlainKey (.bool true) "true"
  | no : PlainKey (.bool false) "false"
  | null : PlainKey .null "null"

theorem PlainKey.keyText_eq {key : Value} {text : String} (h : PlainKey key text) :
    keyText key = text := by
  cases h <;> rw [keyText] <;> rfl

/-- The object has an entry for each pair of a mapping in which no two keys have one text. -/
theorem exists_perm_toJson {pairs : List (Value × Value)}
    (h : (pairs.map fun p => keyText p.1).Nodup) : ∃ members,
      toJson (.mapping pairs) = .object members ∧
        members.Perm (pairs.map fun p => (keyText p.1, toJson p.2)) := by
  refine ⟨Entries.ofList (pairsToJson pairs), by rw [toJson], ?_⟩
  rw [pairsToJson_eq]
  refine Entries.perm_ofList_of_nodup ?_
  rwa [List.map_map]

/-! ## Faithfulness -/

/-- **YAML stands for the JSON that it writes**: JSON written as YAML is found again, tags around
    values and keys do not matter, and keys that are no doubles or collections keep one entry each
    if their texts are different. -/
theorem toJson_faithful :
    (∀ value : Json, value.Kept → toJson (ofJson value) = value) ∧
    (∀ value wrapped, Relation.ReflTransGen Wraps value wrapped →
      toJson wrapped = toJson value) ∧
    ∀ (pairs : List (Value × Value)) (texts : List String),
      List.Forall₂ (fun p text => PlainKey p.1 text) pairs texts → texts.Nodup →
      ∃ members, toJson (.mapping pairs) = .object members ∧
        members.Perm (texts.zip (pairs.map fun p => toJson p.2)) := by
  refine ⟨fun value h => ?_, fun value wrapped h => ?_, fun pairs texts htexts hnodup => ?_⟩
  · rw [toJson_ofJson h.regular, h.isCanonical.eq]
  · induction h with
    | refl => rfl
    | tail _ hstep ih => rw [toJson_of_wraps hstep, ih]
  · have hkeys : pairs.map (fun p => keyText p.1) = texts.map id :=
      map_eq_of_forall₂ htexts fun _ _ hkey => hkey.keyText_eq
    rw [List.map_id] at hkeys
    subst hkeys
    rw [List.zip_map']
    exact exists_perm_toJson hnodup

/-- Numbers at the ends of their ranges, and one between integers. -/
def limits : Json :=
  .object [("least", .number (.int (-9223372036854775808))),
    ("most", .number (.int 18446744073709551615)),
    ("ratios", .array [.number (.real ⟨0x3FF8000000000000⟩)])]

theorem kept_limits : limits.Kept where
  isCanonical := by
    refine .object (by unfold Entries.Sorted; decide) ?_
    simp only [List.forall_mem_cons]
    exact ⟨.number, .number, .array (List.forall_mem_singleton.2 .number), by simp⟩
  regular := by
    refine .object (fun _ => by decide) ?_
    simp only [List.forall_mem_cons]
    exact ⟨.int (by decide), .int (by decide),
      .array (List.forall_mem_singleton.2 (.real (by decide))), by simp⟩

/-- Answers under keys of every kind without parts. -/
def answers : List (Value × Value) :=
  [(.number (.int 200), .string "ok"), (.bool true, .sequence [.null]), (.null, .string "none"),
    (.string "default", .bool false)]

/-- The same answers, with a tag around a key and around an item. -/
def taggedAnswers : List (Value × Value) :=
  [(.tagged "code" (.number (.int 200)), .string "ok"), (.bool true, .sequence [.tagged "gap" .null]),
    (.null, .string "none"), (.string "default", .bool false)]

theorem wraps_taggedAnswers :
    Relation.ReflTransGen Wraps (.mapping answers) (.mapping taggedAnswers) :=
  .tail (.single (.key [] .here))
    (.value [(.tagged "code" (.number (.int 200)), .string "ok")] (.item [] .here))

theorem toJson_answers : limits.Kept ∧ toJson (ofJson limits) = limits ∧
    Relation.ReflTransGen Wraps (.mapping answers) (.mapping taggedAnswers) ∧
    toJson (.mapping taggedAnswers) = toJson (.mapping answers) ∧
    ∃ members, toJson (.mapping answers) = .object members ∧
      members.Perm [("200", .string "ok"), ("true", .array [.null]), ("null", .string "none"),
        ("default", .bool false)] :=
  ⟨kept_limits, toJson_faithful.1 limits kept_limits, wraps_taggedAnswers,
    toJson_faithful.2.1 _ _ wraps_taggedAnswers,
    toJson_faithful.2.2 answers ["200", "true", "null", "default"]
      (.cons .integer (.cons .yes (.cons .null (.cons .string .nil)))) (by decide)⟩

end ApiKinds.Yaml.Value
