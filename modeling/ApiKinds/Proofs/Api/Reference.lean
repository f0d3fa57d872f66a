/-
  What references name in a description, and where chains of them lead.

  * `Document.entries`: the objects of a section and the references in their place;
    `Document.resolve?` resolves in any section.
  * `escaped`, `componentOf?_escaped`: a name is read from a reference as it was written there.
  * `Document.Names`: a reference names an entry of a section.
  * `Document.AliasChain`: the first entries on the way from a reference are references
    again; `Document.Dangles`: one of the references on the way names no entry.
  * `resolve?_unique`: the last segment of a reference decides where it leads.
  * `follow_eq_none_iff`: these are the ways in which a reference leads nowhere. So where every
    entry that is a reference names an entry, only a chain that is as long as references are
    followed does (`resolve?_ref_iff`).
-/
import ApiKinds.Api.Reference
import ApiKinds.Proofs.Dict
import ApiKinds.Proofs.Text

namespace ApiKinds.Api

/-! ## Sections -/

/-- The objects of a section. -/
def Section.Object : Section → Type
  | schemas => Schema
  | parameters => Parameter
  | requestBodies => RequestBody
  | responses => Response

/-- The entries of a section. -/
def Components.entries (components : Components) : (kind : Section) → Dict (RefOr kind.Object)
  | .schemas => components.schemas
  | .parameters => components.parameters
  | .requestBodies => components.requestBodies
  | .responses => components.responses

namespace Document

variable (doc : Document) (kind : Section)

/-- The entries of a section, of which there may be none. -/
def entries : Dict (RefOr kind.Object) :=
  match doc.components with
  | some components => components.entries kind
  | none => .empty

theorem entries_eq {components : Components} (h : doc.components = some components) :
    doc.entries kind = components.entries kind := by
  rw [entries, h]

/-- What an object or a reference stands for in its section. -/
def resolve? : RefOr kind.Object → Option kind.Object :=
  resolveIn kind (doc.components.map (·.entries kind))

theorem resolve?_congr {doc doc' : Document} (kind : Section)
    (h : doc.components = doc'.components) : doc.resolve? kind = doc'.resolve? kind := by
  unfold resolve?
  rw [h]

theorem resolve?_schemas : doc.resolve? .schemas = doc.schema? := rfl

theorem resolve?_parameters : doc.resolve? .parameters = doc.parameter? := rfl

theorem resolve?_requestBodies : doc.resolve? .requestBodies = doc.requestBody? := rfl

theorem resolve?_responses : doc.resolve? .responses = doc.response? := rfl

/-- A reference names an entry of the section. -/
def Names (reference : String) : Prop :=
  ∃ name, componentOf? reference = some (kind.name, name) ∧ name ∈ (doc.entries kind).keys

/-- A reference names an entry that is a reference again. -/
def Alias (reference next : String) : Prop :=
  ∃ name, nameIn? kind reference = some name ∧ (doc.entries kind).get? name = some (.ref next)

/-- The first `n` entries on the way from a reference are references again. -/
inductive AliasChain : Nat → String → Prop
  | zero {reference} : AliasChain 0 reference
  | step {n reference next} : doc.Alias kind reference next → AliasChain n next →
      AliasChain (n + 1) reference

/-- One of the first `n` references on the way from a reference names no entry. -/
inductive Dangles : Nat → String → Prop
  | here {n reference} : ¬ doc.Names kind reference → Dangles (n + 1) reference
  | step {n reference next} : doc.Alias kind reference next → Dangles n next →
      Dangles (n + 1) reference

end Document

/-! ## Names -/

/-- A name that a reference writes as it is. -/
structure PlainName (name : String) : Prop where
  ne_empty : name ≠ ""
  slash_not_mem : '/' ∉ name.toList
  tilde_not_mem : '~' ∉ name.toList

instance (name : String) : Decidable (PlainName name) :=
  decidable_of_iff (name ≠ "" ∧ '/' ∉ name.toList ∧ '~' ∉ name.toList)
    ⟨fun ⟨hempty, hslash, htilde⟩ => ⟨hempty, hslash, htilde⟩,
      fun ⟨hempty, hslash, htilde⟩ => ⟨hempty, hslash, htilde⟩⟩

/-- The reference that names an entry of a section, if the name is plain. -/
def referenceTo (kind : Section) (name : String) : String :=
  "#/components/" ++ (kind.name ++ "/" ++ name)

theorem replaceCode_cons (code plain : Char) {c : Char} (h : c ≠ '~') (s : List Char) :
    replaceCode code plain (c :: s) = c :: replaceCode code plain s := by
  cases s with
  | nil => rfl
  | cons d rest => simp [replaceCode, h]

/-- A name is read back as it was written. -/
theorem unescapeName_escapeName (s : List Char) : unescapeName (escapeName s) = s := by
  induction s with
  | nil => rfl
  | cons c rest ih =>
    rw [unescapeName] at ih ⊢
    by_cases htilde : c = '~'
    · subst htilde
      -- The first pass must leave the `0` of `~0` where it is.
      have hfirst : replaceCode '1' '/' (escapeName ('~' :: rest)) =
          '~' :: '0' :: replaceCode '1' '/' (escapeName rest) := by
        simp [escapeName, replaceCode, replaceCode_cons]
      rw [hfirst, replaceCode, if_pos ⟨rfl, rfl⟩, ih]
    · by_cases hslash : c = '/'
      · subst hslash
        have hfirst : replaceCode '1' '/' (escapeName ('/' :: rest)) =
            '/' :: replaceCode '1' '/' (escapeName rest) := by
          simp [escapeName, replaceCode]
        rw [hfirst, replaceCode_cons '0' '~' (by decide), ih]
      · rw [escapeName, if_neg htilde, if_neg hslash, replaceCode_cons '1' '/' htilde,
          replaceCode_cons '0' '~' htilde, ih]

theorem slash_not_mem_escapeName (s : List Char) : '/' ∉ escapeName s := by
  induction s with
  | nil => exact List.not_mem_nil
  | cons c rest ih =>
    rw [escapeName]
    split
    · simpa using ih
    · split
      · simpa using ih
      · next hslash => simpa [eq_comm, hslash] using ih

theorem escapeName_eq_nil_iff {s : List Char} : escapeName s = [] ↔ s = [] := by
  refine ⟨fun h => ?_, fun h => by rw [h, escapeName]⟩
  rw [← unescapeName_escapeName s, h]
  rfl

theorem length_le_length_escapeName (s : List Char) : s.length ≤ (escapeName s).length := by
  induction s with
  | nil => exact Nat.zero_le _
  | cons c rest ih =>
    rw [escapeName]
    split_ifs <;> simp only [List.length_cons] <;> omega

theorem escapeName_eq_self_iff {s : List Char} :
    escapeName s = s ↔ '/' ∉ s ∧ '~' ∉ s := by
  induction s with
  | nil => simp [escapeName]
  | cons c rest ih =>
    by_cases htilde : c = '~'
    · subst htilde
      refine iff_of_false (fun h => ?_) (by simp)
      have hlength := congrArg List.length h
      simp only [escapeName, if_true, List.length_cons] at hlength
      have hle := length_le_length_escapeName rest
      omega
    · by_cases hslash : c = '/'
      · subst hslash
        simp [escapeName]
      · simp [escapeName, htilde, hslash, ih, Ne.symm htilde, Ne.symm hslash]

/-- A name as references write it. -/
def escaped (name : String) : String :=
  .ofList (escapeName name.toList)

theorem toList_escaped (name : String) : (escaped name).toList = escapeName name.toList := by
  rw [escaped, String.toList_ofList]

theorem escaped_eq_self_iff {name : String} (h : name ≠ "") :
    escaped name = name ↔ PlainName name := by
  rw [← String.toList_inj, toList_escaped, escapeName_eq_self_iff]
  exact ⟨fun ⟨hslash, htilde⟩ => ⟨h, hslash, htilde⟩, fun hname => ⟨hname.2, hname.3⟩⟩

theorem escaped_of_plain {name : String} (h : PlainName name) : escaped name = name :=
  (escaped_eq_self_iff h.ne_empty).2 h

theorem Section.slash_not_mem_name (kind : Section) : '/' ∉ kind.name.toList := by
  cases kind <;> decide

/-- A reference to a component is put together from a section and a name that is one segment. -/
theorem componentOf?_eq_some_iff {reference kind name : String} :
    componentOf? reference = some (kind, name) ↔ '/' ∉ kind.toList ∧
      ∃ raw, raw ≠ "" ∧ '/' ∉ raw.toList ∧ reference = "#/components/" ++ (kind ++ "/" ++ raw) ∧
        name = .ofList (unescapeName raw.toList) := by
  constructor
  · intro h
    simp only [componentOf?, bind, Option.bind_eq_some_iff] at h
    obtain ⟨rest, hrest, ⟨kind', raw⟩, hsplit, h⟩ := h
    obtain rfl := Text.dropPrefix?_eq_some_iff.1 hrest
    obtain ⟨hkind, hchars⟩ := Text.splitOnce_eq_some_iff.1 hsplit
    obtain rfl : rest = kind' ++ "/" ++ raw := String.toList_inj.1 (by simp [hchars])
    split at h
    · cases h
    · next hraw =>
      cases h
      simp only [Bool.or_eq_true, beq_iff_eq, List.contains_iff_mem, not_or] at hraw
      exact ⟨hkind, raw, hraw.1, hraw.2, rfl, rfl⟩
  · rintro ⟨hkind, raw, hraw, hfree, rfl, rfl⟩
    have hsplit : Text.splitOnce '/' (kind ++ "/" ++ raw) = some (kind, raw) :=
      Text.splitOnce_eq_some_iff.2 ⟨hkind, by simp⟩
    rw [componentOf?, Text.dropPrefix?_append]
    simp [hsplit, hraw, hfree]

theorem escaped_eq_empty_iff {name : String} : escaped name = "" ↔ name = "" := by
  rw [← String.toList_inj, ← String.toList_inj, toList_escaped, String.toList_empty,
    escapeName_eq_nil_iff]

/-- The reference to a name as it is written names it, behind any section that is one segment. -/
theorem componentOf?_escaped {kind name : String} (hkind : '/' ∉ kind.toList) (hname : name ≠ "") :
    componentOf? ("#/components/" ++ (kind ++ "/" ++ escaped name)) = some (kind, name) := by
  refine componentOf?_eq_some_iff.2 ⟨hkind, escaped name, ?_, ?_, rfl, ?_⟩
  · rwa [Ne, escaped_eq_empty_iff]
  · rw [toList_escaped]
    exact slash_not_mem_escapeName _
  · rw [toList_escaped, unescapeName_escapeName, String.ofList_toList]

/-- The name of a reference is its last segment, read as names are written in references. -/
theorem name_eq_unescape {reference kind name : String}
    (h : componentOf? reference = some (kind, name)) :
    name = .ofList (unescapeName (lastSegment reference).toList) := by
  obtain ⟨-, raw, -, hfree, rfl, rfl⟩ := componentOf?_eq_some_iff.1 h
  have hfragment : Text.splitOnce '#' ("#/components/" ++ (kind ++ "/" ++ raw)) =
      some ("", "/components/" ++ (kind ++ "/" ++ raw)) :=
    Text.splitOnce_eq_some_iff.2 ⟨by simp, by simp⟩
  have hlast : Text.afterLast '/' ("/components/" ++ (kind ++ "/" ++ raw)) = raw :=
    Text.afterLast_eq ("/components/".toList ++ kind.toList) (by simp) hfree
  rw [lastSegment, hfragment]
  simp only [hlast]

/-! ## Following references -/

theorem nameIn?_eq_some_iff {kind : Section} {reference name : String} :
    nameIn? kind reference = some name ↔ componentOf? reference = some (kind.name, name) := by
  rw [nameIn?]
  cases componentOf? reference with
  | none => simp
  | some found =>
    obtain ⟨other, name'⟩ := found
    by_cases h : other = kind.name
    · simp [h]
    · simp [h]

section
variable {doc : Document} {kind : Section} {reference : String}

theorem Document.names_iff : doc.Names kind reference ↔
    ∃ name entry, nameIn? kind reference = some name ∧
      (doc.entries kind).get? name = some entry := by
  simp only [Document.Names, nameIn?_eq_some_iff, Dict.mem_keys]
  constructor
  · rintro ⟨name, hname, entry, hentry⟩
    exact ⟨name, entry, hname, hentry⟩
  · rintro ⟨name, entry, hname, hentry⟩
    exact ⟨name, hname, entry, hentry⟩

theorem resolve?_ref : doc.resolve? kind (.ref reference) =
    follow kind (doc.entries kind) maxHops reference := by
  rw [Document.resolve?, resolveIn, Document.entries]
  cases doc.components with
  | none =>
    rw [maxHops, follow]
    cases nameIn? kind reference <;> rfl
  | some components => rfl

/-- A reference that is followed names an object, or a reference that is followed from there. -/
theorem follow_succ_eq_some_iff {α : Type} {entries : Dict (RefOr α)} {value : α} {hops : Nat} :
    follow kind entries (hops + 1) reference = some value ↔
      ∃ name, nameIn? kind reference = some name ∧
        (entries.get? name = some (.inline value) ∨
          ∃ next, entries.get? name = some (.ref next) ∧
            follow kind entries hops next = some value) := by
  simp only [follow, bind, Option.bind_eq_some_iff]
  refine exists_congr fun name => and_congr_right fun _ => ?_
  cases entries.get? name with
  | none => simp
  | some entry => cases entry <;> simp

/-- What is found by following references is an entry of the section. -/
theorem exists_entry_of_follow {α : Type} {entries : Dict (RefOr α)} {value : α}
    (hops : Nat) (h : follow kind entries hops reference = some value) :
    ∃ name, entries.get? name = some (.inline value) := by
  induction hops generalizing reference with
  | zero => simp [follow] at h
  | succ hops ih =>
    obtain ⟨name, -, hentry | ⟨next, -, hnext⟩⟩ := follow_succ_eq_some_iff.1 h
    · exact ⟨name, hentry⟩
    · exact ih hnext

/-- An object behind a reference is an entry of its section. -/
theorem exists_component_of_resolve? (kind : Section) {object : kind.Object}
    (h : doc.resolve? kind (.ref reference) = some object) : ∃ components name,
      doc.components = some components ∧
        (components.entries kind).get? name = some (.inline object) := by
  rw [resolve?_ref] at h
  obtain ⟨name, hentry⟩ := exists_entry_of_follow maxHops h
  rw [Document.entries] at hentry
  split at hentry
  · next components hcomponents => exact ⟨components, name, hcomponents, hentry⟩
  · cases hentry

/-- References with the same last segment stand for the same object. -/
theorem resolve?_unique (kind : Section) {other : String} {object object' : kind.Object}
    (h : doc.resolve? kind (.ref reference) = some object)
    (h' : doc.resolve? kind (.ref other) = some object')
    (hsegment : lastSegment reference = lastSegment other) : object = object' := by
  have hfound : nameIn? kind reference = nameIn? kind other := by
    rw [resolve?_ref, maxHops] at h h'
    obtain ⟨name, hname, -⟩ := follow_succ_eq_some_iff.1 h
    obtain ⟨name', hname', -⟩ := follow_succ_eq_some_iff.1 h'
    rw [hname, hname', name_eq_unescape (nameIn?_eq_some_iff.1 hname),
      name_eq_unescape (nameIn?_eq_some_iff.1 hname'), hsegment]
  rw [resolve?_ref, maxHops, follow, hfound] at h
  rw [resolve?_ref, maxHops, follow] at h'
  exact Option.some.inj (h.symm.trans h')

theorem nameIn?_escaped (kind : Section) {name : String} (h : name ≠ "") :
    nameIn? kind (referenceTo kind (escaped name)) = some name :=
  nameIn?_eq_some_iff.2 (componentOf?_escaped kind.slash_not_mem_name h)

theorem follow_succ {name : String} {entry : RefOr kind.Object} (hops : Nat)
    (hname : nameIn? kind reference = some name)
    (hentry : (doc.entries kind).get? name = some entry) :
    follow kind (doc.entries kind) (hops + 1) reference =
      match entry with
      | .inline value => some value
      | .ref next => follow kind (doc.entries kind) hops next := by
  cases entry <;> simp [follow, hname, hentry]

/-- The reference to an entry, with its name as references write it, resolves to its object. -/
theorem resolve?_escaped {name : String} (hname : name ≠ "") {object : kind.Object}
    (hentry : (doc.entries kind).get? name = some (.inline object)) :
    doc.resolve? kind (.ref (referenceTo kind (escaped name))) = some object := by
  rw [resolve?_ref, maxHops, follow_succ 15 (nameIn?_escaped kind hname) hentry]

/-- A reference that leads to an object names an entry. -/
theorem names_of_follow {hops : Nat} {object : kind.Object}
    (h : follow kind (doc.entries kind) hops reference = some object) :
    doc.Names kind reference := by
  cases hops with
  | zero => cases h
  | succ hops =>
    obtain ⟨name, hname, hentry | ⟨next, hentry, -⟩⟩ := follow_succ_eq_some_iff.1 h
    · exact Document.names_iff.2 ⟨name, _, hname, hentry⟩
    · exact Document.names_iff.2 ⟨name, _, hname, hentry⟩

/-- There is an entry under the name of a reference that resolves. -/
theorem exists_entry_of_resolve? {name : String} (hname : nameIn? kind reference = some name)
    {object : kind.Object} (h : doc.resolve? kind (.ref reference) = some object) :
    ∃ entry, (doc.entries kind).get? name = some entry := by
  rw [resolve?_ref] at h
  obtain ⟨name', entry, hname', hentry⟩ := Document.names_iff.1 (names_of_follow h)
  obtain rfl := Option.some.inj (hname.symm.trans hname')
  exact ⟨entry, hentry⟩

theorem Document.Alias.names {next : String} (h : doc.Alias kind reference next) :
    doc.Names kind reference := by
  obtain ⟨name, hname, hentry⟩ := h
  exact names_iff.2 ⟨name, _, hname, hentry⟩

theorem Document.Alias.unique {next other : String} (h : doc.Alias kind reference next)
    (h' : doc.Alias kind reference other) : next = other := by
  obtain ⟨name, hname, hentry⟩ := h
  obtain ⟨name', hname', hentry'⟩ := h'
  obtain rfl := Option.some.inj (hname.symm.trans hname')
  cases hentry.symm.trans hentry'
  rfl

/-- A reference that names a reference leads where that one leads. -/
theorem aliasChain_succ_iff {next : String} (h : doc.Alias kind reference next) (n : Nat) :
    doc.AliasChain kind (n + 1) reference ↔ doc.AliasChain kind n next := by
  refine ⟨?_, .step h⟩
  rintro (_ | ⟨h', hchain⟩)
  rwa [h.unique h']

theorem dangles_succ_iff {next : String} (h : doc.Alias kind reference next) (n : Nat) :
    doc.Dangles kind (n + 1) reference ↔ doc.Dangles kind n next := by
  refine ⟨?_, .step h⟩
  rintro (hnames | ⟨h', hdangles⟩)
  · exact absurd h.names hnames
  · rwa [h.unique h']

/-- References lead nowhere if there are too many of them in a row, or if one names no entry. -/
theorem follow_eq_none_iff (hops : Nat) : follow kind (doc.entries kind) hops reference = none ↔
    doc.AliasChain kind hops reference ∨ doc.Dangles kind hops reference := by
  -- On the hops that are left, each of which passes one entry.
  induction hops generalizing reference with
  | zero => simp [follow, Document.AliasChain.zero]
  | succ hops ih =>
    by_cases hnames : doc.Names kind reference
    · obtain ⟨name, entry, hname, hentry⟩ := Document.names_iff.1 hnames
      rw [follow_succ hops hname hentry]
      cases entry with
      | inline object =>
        have halias (next : String) : ¬ doc.Alias kind reference next := by
          rintro ⟨name', hname', hentry'⟩
          obtain rfl := Option.some.inj (hname.symm.trans hname')
          cases hentry.symm.trans hentry'
        refine iff_of_false (by simp) ?_
        rintro ((_ | ⟨h, -⟩) | (hdangles | ⟨h, -⟩))
        · exact halias _ h
        · exact hdangles hnames
        · exact halias _ h
      | ref next =>
        have h : doc.Alias kind reference next := ⟨name, hname, hentry⟩
        rw [aliasChain_succ_iff h, dangles_succ_iff h]
        exact ih
    · refine iff_of_true ?_ (.inr (.here hnames))
      by_contra hfollow
      obtain ⟨object, hobject⟩ := Option.ne_none_iff_exists'.1 hfollow
      exact hnames (names_of_follow hobject)

/-- Where no entry is a dangling reference, none is met. -/
theorem not_dangles (hclosed : ∀ name next, (doc.entries kind).get? name = some (.ref next) →
      doc.Names kind next) {n : Nat} (hnames : doc.Names kind reference) :
    ¬ doc.Dangles kind n reference := by
  intro h
  induction h with
  | here hdangles => exact hdangles hnames
  | step halias _ ih =>
    obtain ⟨name, -, hentry⟩ := halias
    exact ih (hclosed name _ hentry)

/-- Where no entry is a dangling reference, only a chain of references that is too long leads
    nowhere. -/
theorem resolve?_ref_iff (hclosed : ∀ name next, (doc.entries kind).get? name = some (.ref next) →
      doc.Names kind next) (hnames : doc.Names kind reference) :
    (∃ object, doc.resolve? kind (.ref reference) = some object) ↔
      ¬ doc.AliasChain kind maxHops reference := by
  rw [resolve?_ref, ← Option.ne_none_iff_exists', Ne, follow_eq_none_iff,
    or_iff_left (not_dangles hclosed hnames)]

end

end ApiKinds.Api
