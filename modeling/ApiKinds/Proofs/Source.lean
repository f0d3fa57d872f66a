/-
  What the bytes of a description are loaded as.

  * `Marked`: one of the marks of the older sort stands somewhere in the bytes.
    `ofBytes_eq_swagger2_iff`: nothing else decides the sort.
  * `IsUpgraded`: what all upgraded descriptions have in common.
  * `load_of_valid`: a valid document is loaded unless a mark stands in its bytes, and then
    just if it is what the upgrade of these bytes comes to.
-/
import ApiKinds.Proofs.Api.Validity
import ApiKinds.Proofs.Swagger.Upgrade
import ApiKinds.Source

namespace ApiKinds

/-! ## Dialects -/

theorem hasBytes_iff {needle bytes : List UInt8} : hasBytes needle bytes ↔ needle <:+: bytes := by
  induction bytes with
  | nil => simp [hasBytes]
  | cons b rest ih =>
    rw [hasBytes, Bool.or_eq_true, ih, List.isPrefixOf_iff_prefix, List.infix_cons_iff]

/-- A mark of the older sort stands somewhere in the bytes. -/
def Marked (bytes : List UInt8) : Prop :=
  ∃ mark ∈ swaggerMarks, mark.toUTF8.toList <:+: bytes

theorem ofBytes_eq_swagger2_iff {bytes : List UInt8} :
    Dialect.ofBytes bytes = .swagger2 ↔ Marked bytes := by
  simp [Dialect.ofBytes, Marked, hasBytes_iff]

theorem ofBytes_eq_openApi3_iff {bytes : List UInt8} :
    Dialect.ofBytes bytes = .openApi3 ↔ ¬ Marked bytes := by
  rw [← ofBytes_eq_swagger2_iff]
  cases Dialect.ofBytes bytes <;> simp

/-! ## Upgraded descriptions -/

/-- What all upgraded descriptions have in common. -/
structure Api.Document.IsUpgraded (doc : Document) : Prop where
  version : doc.openapi = some "3.0.3"
  /-- The servers are without descriptions. -/
  servers : ∀ server ∈ doc.servers, server.description = none
  components : doc.components.isSome
  /-- Operations share no parameters. -/
  parameters : ∀ path item, doc.pathItems.get? path = some item → item.parameters = []

theorem description_of_mem_servers {source : Swagger.Document} {server : Api.Server}
    (h : server ∈ source.servers) : server.description = none := by
  rw [Swagger.Document.servers] at h
  split at h
  · obtain ⟨scheme, -, rfl⟩ := List.mem_map.1 h
    rfl
  split at h
  · rw [List.mem_singleton.1 h]
  · cases h

theorem isUpgraded_of_upgrade {source : Swagger.Document} {doc : Api.Document}
    (h : source.upgrade = .ok doc) : doc.IsUpgraded where
  version := by
    obtain ⟨paths, -, rfl⟩ := Swagger.upgrade_eq_ok_iff.1 h
    rfl
  servers server hserver := by
    obtain ⟨paths, -, rfl⟩ := Swagger.upgrade_eq_ok_iff.1 h
    exact description_of_mem_servers hserver
  components := by rw [Swagger.components_of_upgrade h, Option.isSome_some]
  parameters path item hitem := by
    obtain ⟨_, -, hpath⟩ := exists_of_rel_right (Swagger.get?_of_upgrade h path) hitem
    obtain ⟨_, -, -, hparameters⟩ := Swagger.upgradePathItem_eq_ok_iff.1 hpath
    exact hparameters

/-! ## Loading -/

section
variable {bytes : List UInt8} {doc : Api.Document}

theorem checked_eq_ok_iff {read : Api.Document} {check : Api.Document → Api.Check} :
    read.checked check = .ok doc ↔ read = doc ∧ check read = .ok () := by
  rw [Api.Document.checked]
  cases check read <;> simp

theorem bind_checked_eq_ok_iff {x : Except Failure Api.Document}
    {check : Api.Document → Api.Check} : (do (← x).checked check) = .ok doc ↔
      x = .ok doc ∧ check doc = .ok () := by
  simp only [bind_eq_ok_iff, checked_eq_ok_iff]
  constructor
  · rintro ⟨_, hread, rfl, hcheck⟩
    exact ⟨hread, hcheck⟩
  · rintro ⟨hread, hcheck⟩
    exact ⟨doc, hread, rfl, hcheck⟩

/-- A valid document has paths, which is all that a lenient check looks for. -/
theorem checkLeniently_of_check (h : doc.check = .ok ()) : doc.checkLeniently = .ok () := by
  obtain ⟨-, -, ⟨paths, hpaths, -⟩, -⟩ := Api.check_iff.1 h
  rw [Api.Document.checkLeniently, hpaths, Option.isSome_some, if_pos rfl]

theorem loadUpgraded_eq_ok_iff : Swagger.Document.loadUpgraded bytes = .ok doc ↔
    ∃ source, Swagger.Document.ofBytes bytes = .ok source ∧ source.upgrade = .ok doc := by
  simp only [Swagger.Document.loadUpgraded, bind_eq_ok_iff, mapError_eq_ok_iff]

/-- With a mark in its bytes a description is loaded as the upgraded form of what they are as
    a description of the older sort. -/
theorem load_eq_ok_iff_of_marked (h : Marked bytes) : Api.Document.load bytes = .ok doc ↔
    (∃ source, Swagger.Document.ofBytes bytes = .ok source ∧ source.upgrade = .ok doc) ∧
      doc.checkLeniently = .ok () := by
  rw [Api.Document.load, ofBytes_eq_swagger2_iff.2 h, ← loadUpgraded_eq_ok_iff]
  exact bind_checked_eq_ok_iff

/-- Without one it is loaded as it is read and checked. -/
theorem load_eq_ok_iff_of_not_marked (h : ¬ Marked bytes) : Api.Document.load bytes = .ok doc ↔
    Api.Document.ofBytes bytes = .ok doc ∧ doc.check = .ok () := by
  rw [Api.Document.load, ofBytes_eq_openApi3_iff.2 h]
  exact bind_checked_eq_ok_iff

end

/-- What bytes are loaded as that hold a document. -/
structure Api.Document.LoadsFrom (bytes : List UInt8) (doc : Document) : Prop where
  /-- The document is loaded unless a mark stands in the bytes, and then just if it is what
      the upgrade of these bytes comes to. -/
  same : load bytes = .ok doc ↔ ¬ Marked bytes ∨
    ∃ source, Swagger.Document.ofBytes bytes = .ok source ∧ source.upgrade = .ok doc
  /-- With a mark nothing but upgraded documents is loaded. -/
  marked : Marked bytes → ∀ other, load bytes = .ok other → other.IsUpgraded
  /-- So a document that does not look like them is loaded just if no mark stands in the
      bytes. -/
  other : ¬ doc.IsUpgraded → (load bytes = .ok doc ↔ ¬ Marked bytes)

/-- **A valid document is loaded as it is read, unless a mark of the older sort stands
    somewhere in its bytes.** -/
theorem load_of_valid {bytes : List UInt8} {doc : Api.Document}
    (hread : Api.Document.readJson? bytes = some doc) (hcheck : doc.check = .ok ()) :
    doc.LoadsFrom bytes := by
  have hofBytes : Api.Document.ofBytes bytes = .ok doc := by rw [Api.Document.ofBytes, hread]
  have hmarked : Marked bytes → ∀ other, Api.Document.load bytes = .ok other →
      other.IsUpgraded := by
    intro h other hload
    obtain ⟨⟨source, -, hupgrade⟩, -⟩ := (load_eq_ok_iff_of_marked h).1 hload
    exact isUpgraded_of_upgrade hupgrade
  have hunmarked : ¬ Marked bytes → Api.Document.load bytes = .ok doc := fun h =>
    (load_eq_ok_iff_of_not_marked h).2 ⟨hofBytes, hcheck⟩
  constructor
  case marked => exact hmarked
  case same =>
    by_cases h : Marked bytes
    · rw [load_eq_ok_iff_of_marked h]
      simp [h, checkLeniently_of_check hcheck]
    · simp [h, hunmarked h]
  case other =>
    intro hnot
    exact ⟨fun hload h => hnot (hmarked h doc hload), hunmarked⟩

/-- A document whose operation has a tag and a request body. -/
def taggedPets (tag : String) : List UInt8 :=
  ("\x7b\"openapi\":\"3.1.0\",\"info\":\x7b\"title\":\"t\",\"version\":\"1\"\x7d,\"paths\":\x7b" ++
    "\"/pets\":\x7b\"post\":\x7b\"tags\":[\"" ++ tag ++ "\"],\"requestBody\":\x7b\x7d\x7d\x7d\x7d\x7d").toUTF8.toList

/-- With another tag it is loaded. -/
theorem load_taggedPets : ∃ doc, Api.Document.readJson? (taggedPets "store") = some doc ∧
    doc.check = .ok () ∧ Api.Document.load (taggedPets "store") = .ok doc := by
  have hvalid : (Api.Document.readJson? (taggedPets "store")).any (·.check.isOk) := by
    decide +kernel
  have hunmarked : ¬ Marked (taggedPets "store") :=
    ofBytes_eq_openApi3_iff.1 (by decide +kernel)
  obtain ⟨doc, hread, hcheck⟩ := (Option.any_eq_true _ _).1 hvalid
  obtain ⟨⟨⟩, hcheck⟩ := isOk_iff.1 hcheck
  exact ⟨doc, hread, hcheck, (load_of_valid hread hcheck).same.2 (.inl hunmarked)⟩

/-- The keys of an object. -/
def Json.keys : Json → List String
  | object members => members.map (·.1)
  | _ => []

/-- With the tag `swagger` another one is loaded, although no key of the document has this name. -/
theorem load_ne_of_taggedPets : ∃ doc value other,
    Api.Document.readJson? (taggedPets "swagger") = some doc ∧ doc.check = .ok () ∧
      Json.read? (taggedPets "swagger") = some value ∧ value.keys = ["openapi", "info", "paths"] ∧
      Api.Document.load (taggedPets "swagger") = .ok other ∧ other ≠ doc := by
  have hvalid : (Api.Document.readJson? (taggedPets "swagger")).any fun doc =>
      doc.check.isOk && doc.openapi == some "3.1.0" := by decide +kernel
  have hkeys : (Json.read? (taggedPets "swagger")).any
      (·.keys == ["openapi", "info", "paths"]) := by decide +kernel
  have hload : (Api.Document.load (taggedPets "swagger")).isOk := by decide +kernel
  obtain ⟨doc, hread, hvalid⟩ := (Option.any_eq_true _ _).1 hvalid
  obtain ⟨hcheck, hversion⟩ := Bool.and_eq_true_iff.1 hvalid
  obtain ⟨⟨⟩, hcheck⟩ := isOk_iff.1 hcheck
  obtain ⟨value, hvalue, hkeys⟩ := (Option.any_eq_true _ _).1 hkeys
  obtain ⟨other, hload⟩ := isOk_iff.1 hload
  have hmarked : Marked (taggedPets "swagger") := ofBytes_eq_swagger2_iff.1 (by decide +kernel)
  obtain ⟨⟨source, -, hupgrade⟩, -⟩ := (load_eq_ok_iff_of_marked hmarked).1 hload
  refine ⟨doc, value, other, hread, hcheck, hvalue, beq_iff_eq.1 hkeys, hload, ?_⟩
  rintro rfl
  rw [(isUpgraded_of_upgrade hupgrade).version] at hversion
  cases hversion

end ApiKinds
