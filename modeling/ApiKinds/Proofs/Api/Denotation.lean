/-
  What references denote, and the routes that they begin.

  * `spelled`: a name in a reference, with one code written after the other.
    `componentOf?_spelled_iff`: it is read as it was, behind any section without a slash.
  * `Denotes`: a reference consists of a section and a name.
  * `Document.Route`: the names that are met between a reference and an object.
  * `resolve?_iff_route`: a reference resolves to the object at the end of its route, if that
    meets no more than sixteen names, and to nothing in all other cases.
-/
import ApiKinds.Proofs.Api.Reference

namespace ApiKinds.Api

/-! ## Spelling names -/

/-- A text with a tilde and a code in place of a character. -/
def writeCode (plain code : Char) (s : List Char) : List Char :=
  s.flatMap fun c => if c = plain then ['~', code] else [c]

/-- A name as a reference spells it: first `~0` is written for every tilde, then `~1` for every
    slash. -/
def spelled (name : String) : String :=
  .ofList (writeCode '/' '1' (writeCode '~' '0' name.toList))

/-- The second code finds nothing to do in what the first one writes. -/
theorem escapeName_eq (s : List Char) : escapeName s = writeCode '/' '1' (writeCode '~' '0' s) := by
  induction s with
  | nil => rfl
  | cons c rest ih =>
    simp only [writeCode, List.flatMap_cons, List.flatMap_append] at ih ⊢
    by_cases htilde : c = '~'
    · simp [escapeName, htilde, ih]
    · by_cases hslash : c = '/' <;> simp [escapeName, htilde, hslash, ih]

theorem spelled_eq_escaped (name : String) : spelled name = escaped name := by
  rw [spelled, escaped, escapeName_eq]

/-- **A name is read from a reference as it was spelled there**, whatever section it has, unless
    that has a slash or there is no name. -/
theorem componentOf?_spelled_iff {kind name : String} :
    componentOf? ("#/components/" ++ kind ++ "/" ++ spelled name) = some (kind, name) ↔
      '/' ∉ kind.toList ∧ name ≠ "" := by
  have hparts : "#/components/" ++ kind ++ "/" ++ escaped name =
      "#/components/" ++ (kind ++ "/" ++ escaped name) := by
    simp only [String.append_assoc]
  rw [spelled_eq_escaped, hparts]
  constructor
  · intro h
    obtain ⟨hkind, raw, hraw, -, hreference, -⟩ := componentOf?_eq_some_iff.1 h
    refine ⟨hkind, ?_⟩
    rintro rfl
    -- Without a name the reference ends behind its section.
    have hempty : escaped "" = raw := by
      simpa only [String.append_right_inj] using hreference
    exact hraw (hempty.symm.trans (escaped_eq_empty_iff.2 rfl))
  · rintro ⟨hkind, hname⟩
    exact componentOf?_escaped hkind hname

/-- A name may look like the codes. -/
example : componentOf? "#/components/x-kinds/~01~1~001" = some ("x-kinds", "~1/~01") := by
  decide +kernel

/-! ## Routes -/

/-- A reference consists of the section and of a name, spelled as one segment. -/
def Denotes (kind : Section) (reference name : String) : Prop :=
  ∃ raw, raw ≠ "" ∧ '/' ∉ raw.toList ∧ reference = "#/components/" ++ (kind.name ++ "/" ++ raw) ∧
    name = .ofList (unescapeName raw.toList)

theorem nameIn?_iff_denotes {kind : Section} {reference name : String} :
    nameIn? kind reference = some name ↔ Denotes kind reference name := by
  rw [nameIn?_eq_some_iff, componentOf?_eq_some_iff, and_iff_right kind.slash_not_mem_name, Denotes]

/-- The names on the way from a reference to an object of a section. -/
inductive Document.Route (doc : Document) (kind : Section) :
    String → List String → kind.Object → Prop
  /-- The reference denotes the object itself. -/
  | last {reference name object} : Denotes kind reference name →
      (doc.entries kind).get? name = some (.inline object) → Route doc kind reference [name] object
  /-- The reference denotes a reference, from which it goes on. -/
  | hop {reference name next names object} : Denotes kind reference name →
      (doc.entries kind).get? name = some (.ref next) → Route doc kind next names object →
      Route doc kind reference (name :: names) object

section
variable {doc : Document} {kind : Section} {reference : String} {object : kind.Object}

/-- With a number of steps just the objects are reached that are no further away. -/
theorem follow_eq_some_iff (hops : Nat) :
    follow kind (doc.entries kind) hops reference = some object ↔
      ∃ names, names.length ≤ hops ∧ doc.Route kind reference names object := by
  induction hops generalizing reference with
  | zero =>
    rw [follow]
    constructor
    · rintro ⟨⟩
    · rintro ⟨names, hlength, hroute⟩
      cases hroute <;> cases hlength
  | succ hops ih =>
    rw [follow_succ_eq_some_iff]
    simp only [nameIn?_iff_denotes]
    constructor
    · rintro ⟨name, hname, hentry | ⟨next, hentry, hnext⟩⟩
      · exact ⟨[name], Nat.succ_le_succ (Nat.zero_le hops), .last hname hentry⟩
      · obtain ⟨names, hlength, hroute⟩ := ih.1 hnext
        exact ⟨name :: names, Nat.succ_le_succ hlength, .hop hname hentry hroute⟩
    · rintro ⟨_, hlength, hroute⟩
      cases hroute with
      | last hname hentry => exact ⟨_, hname, .inl hentry⟩
      | hop hname hentry hrest =>
        exact ⟨_, hname, .inr ⟨_, hentry, ih.2 ⟨_, Nat.le_of_succ_le_succ hlength, hrest⟩⟩⟩

end

/-- **A reference resolves to the object at the end of its route**, if no more than sixteen names
    lie on that. It resolves to nothing just if it is the first of sixteen references in a row, or
    if one on the way denotes no entry of the section. -/
theorem resolve?_iff_route (doc : Document) (kind : Section) (reference : String) :
    (∀ object, doc.resolve? kind (.ref reference) = some object ↔
      ∃ names, names.length ≤ 16 ∧ doc.Route kind reference names object) ∧
    (doc.resolve? kind (.ref reference) = none ↔
      doc.AliasChain kind 16 reference ∨ doc.Dangles kind 16 reference) := by
  rw [resolve?_ref]
  exact ⟨fun _ => follow_eq_some_iff maxHops, follow_eq_none_iff maxHops⟩

end ApiKinds.Api
