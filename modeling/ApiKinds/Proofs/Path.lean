/-
  Paths that address an entity: what they share with the collection they lie in.

  * `segments_ofSegments`, `ofSegments_injective`: segments are found again in the path
    that is made of them; `segments_append`: a segment put behind a path is its last one.
  * `EndsIn`: the path ends in an owner and the parameter that identifies it.
  * `resourceName_of_endsIn`: the owner alone names the resource of such a path.
  * `owner_eq_of_collection`: entities of one collection have the same owner.
  * `owner_eq_empty_of_nested`: a path that ends in a parameter is the collection of another
    only if a slash at its end makes the owner of the other empty.
-/
import ApiKinds.Path
import ApiKinds.Proofs.Text

namespace ApiKinds.Path

open Text Word

/-! ## Segments -/

theorem toList_slash : "/".toList = ['/'] := rfl

theorem slash_not_mem_of_mem_segments {path part : String} (h : part ∈ segments path) :
    '/' ∉ part.toList :=
  not_mem_of_mem_splitOn h

theorem segments_ne_nil (path : String) : segments path ≠ [] := by
  rw [segments, splitOn, splitBy, ne_eq, List.map_eq_nil_iff]
  exact pieces_ne_nil _ _

theorem segments_of_isRoot {path : String} (h : isRoot path) : segments path = [""] := by
  rw [isRoot, beq_iff_eq] at h
  rw [segments, h]
  rfl

theorem not_isRoot_of_segments {path : String} (h : segments path ≠ [""]) : isRoot path = false :=
  Bool.eq_false_iff.2 (mt segments_of_isRoot h)

/-- The root path is written with slashes only. -/
theorem isRoot_iff {path : String} : isRoot path ↔ ∀ c ∈ path.toList, c = '/' := by
  rw [isRoot, beq_iff_eq, trimChar, String.ofList_eq_empty_iff, trimEnds_eq_nil_iff]
  simp only [beq_iff_eq]

/-- The root path, where no root Kind names it. -/
def IsNameless (rootKind : Option String) (path : String) : Prop :=
  isRoot path ∧ rootKind = none

theorem not_isNameless {path : String} (rootKind : Option String) (h : isRoot path = false) :
    ¬ IsNameless rootKind path := by
  rintro ⟨hroot, -⟩
  exact Bool.false_ne_true (h.symm.trans hroot)

/-- The first of several segments is not empty. -/
theorem ne_empty_of_segments_eq_cons {path first second : String} {rest : List String}
    (h : segments path = first :: second :: rest) : first ≠ "" := by
  rw [segments, trimChar, splitOn, splitBy, String.toList_ofList] at h
  cases htrim : trimEnds (· == '/') path.toList with
  | nil => simp [htrim, pieces] at h
  | cons c chars =>
    have hc : (c == '/') = false := head?_trimEnds c (by rw [htrim]; rfl)
    obtain ⟨piece, others, hpieces⟩ := pieces_cons_of_not_sep (· == '/') hc chars
    rw [htrim, hpieces, List.map_cons, List.cons.injEq] at h
    rw [← h.1]
    simp

theorem toList_ofSegments (parts : List String) :
    (ofSegments parts).toList = '/' :: (join "/" parts).toList := by
  rw [ofSegments, String.toList_append, toList_slash, List.singleton_append]

/-- What ends in a segment that is not empty ends in no slash. -/
theorem ne_slash_of_getLast? {part : String} (hne : part ≠ "") (hfree : '/' ∉ part.toList)
    (front : List Char) : ∀ c ∈ (front ++ part.toList).getLast?, (c == '/') = false := by
  intro c hc
  rw [List.getLast?_append_of_ne_nil _ (mt String.toList_eq_nil_iff.1 hne)] at hc
  rw [beq_eq_false_iff_ne]
  rintro rfl
  exact hfree (List.mem_of_getLast? hc)

/-- A path of segments has them as its segments, unless slashes at its ends are ignored. -/
theorem segments_ofSegments {parts : List String} (hne : parts ≠ [])
    (hfree : ∀ part ∈ parts, '/' ∉ part.toList) (hfirst : ∀ first ∈ parts.head?, first ≠ "")
    (hlast : ∀ last ∈ parts.getLast?, last ≠ "") : segments (ofSegments parts) = parts := by
  have hends : trimEnds (· == '/') (join "/" parts).toList = (join "/" parts).toList := by
    apply trimEnds_of_ends
    · obtain ⟨first, rest, rfl⟩ := List.exists_cons_of_ne_nil hne
      obtain ⟨back, hback⟩ := toList_join_cons "/" first rest
      obtain ⟨c, chars, hchars⟩ := List.exists_cons_of_ne_nil
        (mt String.toList_eq_nil_iff.1 (hfirst first rfl))
      rw [hback, hchars]
      rintro _ ⟨⟩
      have hc := hfree first List.mem_cons_self
      rw [hchars] at hc
      exact beq_eq_false_iff_ne.2 fun heq => hc (heq ▸ List.mem_cons_self)
    · obtain ⟨before, last, rfl⟩ := (List.eq_nil_or_concat' parts).resolve_left hne
      obtain ⟨front, hfront⟩ := toList_join_concat "/" before last
      rw [hfront]
      exact ne_slash_of_getLast? (hlast last (by simp)) (hfree last (by simp)) front
  rw [segments, trimChar, toList_ofSegments, trimEnds_cons (by rfl), hends, String.ofList_toList]
  exact splitOn_join toList_slash hne hfree

/-- A segment that is put behind a path is its last one. -/
theorem segments_append {above part : String} (hroot : isRoot above = false)
    (hslash : hasSuffix "/" above = false) (hne : part ≠ "") (hfree : '/' ∉ part.toList) :
    segments (above ++ "/" ++ part) = segments above ++ [part] := by
  have habove : trimEnds (· == '/') above.toList ≠ [] := by
    rw [isRoot, beq_eq_false_iff_ne, trimChar, ne_eq, String.ofList_eq_empty_iff] at hroot
    exact hroot
  have hends : ∀ c ∈ above.toList.getLast?, (c == '/') = false := by
    intro c hc
    rw [beq_eq_false_iff_ne]
    rintro rfl
    exact Bool.false_ne_true (hslash.symm.trans ((hasSuffix_iff_getLast? toList_slash).2 hc))
  have hback : ∀ c ∈ ('/' :: part.toList).getLast?, (c == '/') = false :=
    ne_slash_of_getLast? hne hfree ['/']
  have htrim : trimChar '/' (above ++ "/" ++ part) =
      .ofList (trimEnds (· == '/') above.toList ++ '/' :: part.toList) := by
    rw [trimChar, String.toList_append, String.toList_append, toList_slash, List.append_assoc,
      List.singleton_append, trimEnds_append habove hends (List.cons_ne_nil _ _) hback]
  rw [segments, htrim, splitOn_append _ hfree, String.ofList_toList]
  rfl

theorem ofSegments_injective {as bs : List String} (ha : as ≠ []) (hb : bs ≠ [])
    (hafree : ∀ part ∈ as, '/' ∉ part.toList) (hbfree : ∀ part ∈ bs, '/' ∉ part.toList)
    (h : ofSegments as = ofSegments bs) : as = bs := by
  refine join_injective toList_slash ha hb hafree hbfree ?_
  apply String.toList_injective
  have hlist := congrArg String.toList h
  rw [toList_ofSegments, toList_ofSegments] at hlist
  exact List.tail_eq_of_cons_eq hlist

/-! ## Paths that address an entity -/

/-- The path ends in an owner and the parameter that identifies it. -/
structure EndsIn (path : String) (before : List String) (owner param : String) : Prop where
  segments : segments path = before ++ [owner, param]
  isParam : isParam param
  plain : Path.isParam owner = false
  identified : identifiedBy true owner (some param)

theorem isParam_of_paramName? {segment : String} (h : (paramName? segment).isSome) :
    isParam segment := by
  rw [paramName?, dropPrefix?] at h
  rw [isParam]
  split at h
  · next hbraces => exact hbraces
  · simp at h

theorem paramName?_of_identifiedBy {trySingular : Bool} {owner param : String}
    (h : identifiedBy trySingular owner (some param)) : (paramName? param).isSome := by
  rw [identifiedBy, Option.bind_some] at h
  split at h
  · next hname => rw [hname]; rfl
  · cases h

@[simp] theorem identifiedBy_none (trySingular : Bool) (segment : String) :
    identifiedBy trySingular segment none = false := rfl

theorem isIdPath_iff {path : String} :
    isIdPath path ↔ ∃ before owner param, EndsIn path before owner param := by
  constructor
  · intro h
    rw [isIdPath] at h
    split at h
    · next param owner before hparts =>
      simp only [Bool.and_eq_true, Bool.not_eq_true'] at h
      obtain ⟨⟨hparam, howner⟩, hidentified⟩ := h
      refine ⟨before.reverse, owner, param, ?_, isParam_of_paramName? hparam, howner, hidentified⟩
      rw [← List.reverse_reverse (Path.segments path), hparts]
      simp
    · cases h
  · rintro ⟨before, owner, param, h⟩
    rw [isIdPath, h.segments]
    simp [paramName?_of_identifiedBy h.identified, h.plain, h.identified]

theorem EndsIn.exists_paramName {path : String} {before : List String} {owner param : String}
    (h : EndsIn path before owner param) : ∃ name, paramName? param = some name :=
  Option.isSome_iff_exists.1 (paramName?_of_identifiedBy h.identified)

theorem collectionOf?_eq_some_iff {path collection : String} :
    collectionOf? path = some collection ↔ ∃ before owner param,
      EndsIn path before owner param ∧ collection = ofSegments (before ++ [owner]) := by
  have hdropLast : ∀ {before owner param}, EndsIn path before owner param →
      (segments path).dropLast = before ++ [owner] := by
    intro before owner param h
    rw [h.segments, ← List.singleton_append, ← List.append_assoc, List.dropLast_concat]
  rw [collectionOf?]
  constructor
  · intro h
    split at h
    · next hid =>
      obtain ⟨before, owner, param, hends⟩ := isIdPath_iff.1 hid
      exact ⟨before, owner, param, hends, by rw [← hdropLast hends]; exact (Option.some.inj h).symm⟩
    · cases h
  · rintro ⟨before, owner, param, hends, rfl⟩
    rw [if_pos (isIdPath_iff.2 ⟨before, owner, param, hends⟩), hdropLast hends]

theorem isIdPath_of_collectionOf? {path collection : String}
    (h : collectionOf? path = some collection) : isIdPath path := by
  rw [collectionOf?] at h
  split at h
  · next hid => exact hid
  · cases h

section
variable {path : String} {before : List String} {owner param : String}
  (h : EndsIn path before owner param)
include h

theorem not_isRoot_of_endsIn : isRoot path = false := by
  refine not_isRoot_of_segments fun hroot => ?_
  simpa [h.segments] using congrArg List.length hroot

/-- The owner of the last parameter names the resource, whatever the root Kind is. -/
theorem resourceName_of_endsIn (rootKind : Option String) :
    resourceName path rootKind = kindName owner := by
  have hname : namingSegment? none (segments path).reverse = some owner := by
    rw [h.segments]
    simp [namingSegment?, h.isParam, h.plain, h.identified]
  simp [resourceName, not_isRoot_of_endsIn h, hname]

theorem slash_free_of_endsIn : ∀ part ∈ before ++ [owner], '/' ∉ part.toList := by
  intro part hpart
  have hmem : part ∈ segments path := by
    rw [h.segments]
    rcases List.mem_append.1 hpart with hpart | hpart
    · exact List.mem_append_left _ hpart
    · exact List.mem_append_right _ (List.mem_cons.2 (.inl (List.mem_singleton.1 hpart)))
  exact slash_not_mem_of_mem_segments hmem

theorem head_ne_empty_of_endsIn : ∀ first ∈ (before ++ [owner]).head?, first ≠ "" := by
  intro first hfirst
  have hsegments := h.segments
  cases before with
  | nil =>
    cases hfirst
    exact ne_empty_of_segments_eq_cons hsegments
  | cons head rest =>
    cases hfirst
    cases rest with
    | nil => exact ne_empty_of_segments_eq_cons hsegments
    | cons _ _ => exact ne_empty_of_segments_eq_cons hsegments

/-- The collection of an entity has the segments before the parameter. -/
theorem segments_of_collection (howner : owner ≠ "") :
    segments (ofSegments (before ++ [owner])) = before ++ [owner] :=
  segments_ofSegments (by simp) (slash_free_of_endsIn h) (head_ne_empty_of_endsIn h)
    (by simpa using howner)

/-- Entities of one collection have the same owner. -/
theorem owner_eq_of_collection {other : String} {others : List String} {owner' param' : String}
    (hother : EndsIn other others owner' param')
    (hsame : ofSegments (before ++ [owner]) = ofSegments (others ++ [owner'])) : owner = owner' := by
  have heq := ofSegments_injective (by simp) (by simp) (slash_free_of_endsIn h)
    (slash_free_of_endsIn hother) hsame
  exact (List.append_inj' heq rfl).2 |> List.singleton_inj.1

/-- A path that ends in a parameter is no collection, unless a slash at its end is ignored. -/
theorem owner_eq_empty_of_nested {others : List String} {owner' param' : String}
    (hnested : EndsIn (ofSegments (before ++ [owner])) others owner' param') : owner = "" := by
  -- without a slash at the end the owner would be the last segment, which is a parameter
  by_contra hne
  have hlast : owner = param' := by
    have := congrArg List.getLast? (hnested.segments.symm.trans (segments_of_collection h hne))
    simpa using this.symm
  have hplain := h.plain
  rw [hlast, hnested.isParam] at hplain
  cases hplain

end

/-- A collection has a segment, so it is not the root path. -/
theorem not_isRoot_of_collectionOf? {path collection : String}
    (h : collectionOf? path = some collection) : isRoot collection = false := by
  obtain ⟨before, owner, param, hends, rfl⟩ := collectionOf?_eq_some_iff.1 h
  obtain ⟨first, rest, hparts⟩ := List.exists_cons_of_ne_nil (List.append_ne_nil_of_right_ne_nil
    before (List.cons_ne_nil owner []))
  have hne : first ≠ "" := head_ne_empty_of_endsIn hends first (by rw [hparts]; rfl)
  have hfree : '/' ∉ first.toList := slash_free_of_endsIn hends first (by simp [hparts])
  obtain ⟨c, chars, hfirst⟩ := List.exists_cons_of_ne_nil (mt String.toList_eq_nil_iff.1 hne)
  obtain ⟨back, hback⟩ := toList_join_cons "/" first rest
  rw [Bool.eq_false_iff, ne_eq, isRoot_iff]
  intro hall
  have hc : c = '/' := hall c (by simp [hparts, toList_ofSegments, hback, hfirst])
  rw [hfirst, hc] at hfree
  exact hfree List.mem_cons_self

/-! ## Names -/

variable {path other collection : String}

/-- Two entities of one collection belong to the same resource. -/
theorem resourceName_eq_of_collectionOf? (h : collectionOf? path = some collection)
    (hother : collectionOf? other = some collection) (rootKind : Option String) :
    resourceName path rootKind = resourceName other rootKind := by
  obtain ⟨before, owner, param, hends, rfl⟩ := collectionOf?_eq_some_iff.1 h
  obtain ⟨others, owner', param', hother, hsame⟩ := collectionOf?_eq_some_iff.1 hother
  rw [resourceName_of_endsIn hends, resourceName_of_endsIn hother,
    owner_eq_of_collection hends hother hsame]

/-- The root Kind does not matter below a collection. -/
theorem resourceName_of_collectionOf? (h : collectionOf? path = some collection)
    (rootKind other : Option String) : resourceName path rootKind = resourceName path other := by
  obtain ⟨before, owner, param, hends, -⟩ := collectionOf?_eq_some_iff.1 h
  rw [resourceName_of_endsIn hends, resourceName_of_endsIn hends]

/-- An entity whose collection is an entity, too, has no name. -/
theorem resourceName_eq_empty_of_nested (h : collectionOf? path = some collection)
    (hnested : isIdPath collection) (rootKind : Option String) : resourceName path rootKind = "" := by
  obtain ⟨before, owner, param, hends, rfl⟩ := collectionOf?_eq_some_iff.1 h
  obtain ⟨others, owner', param', hother⟩ := isIdPath_iff.1 hnested
  rw [resourceName_of_endsIn hends, owner_eq_empty_of_nested hends hother]
  rfl

/-- An entity whose owner has a name has an owner. -/
theorem owner_ne_empty_of_resourceName {before : List String} {owner param : String}
    (h : EndsIn path before owner param) {rootKind : Option String}
    (hname : resourceName path rootKind ≠ "") : owner ≠ "" := by
  rintro rfl
  rw [resourceName_of_endsIn h] at hname
  exact hname rfl

/-! ## Names of other paths that end in a parameter -/

/-- The Kind of a path that is no entity of it: the path lies below an entity of the Kind, or
    is named by its first segment that is no parameter. -/
inductive NamedAbove (path : String) : String → Prop
  | below {before inside : List String} {owner param : String} :
      segments path = before ++ owner :: param :: inside → inside ≠ [] →
      isParam owner = false → identifiedBy true owner (some param) →
      NamedAbove path (kindName owner)
  | first {part : String} : (segments path).find? (!isParam ·) = some part →
      NamedAbove path (kindName part)

/-- Before a segment that is not the last one only a parameter of its own makes another name
    the resource. The segments are looked at from the end. -/
theorem exists_of_namingSegment? {next owner : String} {parts : List String}
    (h : namingSegment? (some next) parts = some owner) : ∃ after param before,
      next :: parts = after ++ param :: owner :: before ∧ isParam owner = false ∧
        identifiedBy true owner (some param) := by
  induction parts generalizing next with
  | nil => cases h
  | cons part before ih =>
    have hskip : namingSegment? (some part) before = some owner → ∃ after param rest,
        next :: part :: before = after ++ param :: owner :: rest ∧ isParam owner = false ∧
          identifiedBy true owner (some param) := by
      intro h
      obtain ⟨after, param, rest, hparts, hfound⟩ := ih h
      exact ⟨next :: after, param, rest, congrArg (next :: ·) hparts, hfound⟩
    rw [namingSegment?] at h
    split at h
    · exact hskip h
    next hpart =>
    split at h
    · next hidentified =>
      obtain rfl := Option.some.inj h
      exact ⟨[], next, before, rfl, by simpa using hpart, hidentified⟩
    · exact hskip (by simpa using h)

/-- A path that ends in a parameter, but not in one of its own, has its name from above. -/
theorem namedAbove_of_not_isIdPath {path : String} (hends : (segments path).getLast?.any isParam)
    (hnot : ¬ isIdPath path) {rootKind : Option String}
    (hname : resourceName path rootKind ≠ "") : NamedAbove path (resourceName path rootKind) := by
  obtain ⟨last, hgetLast, hlast⟩ := (Option.any_eq_true _ _).1 hends
  obtain ⟨parts, hsegments⟩ := List.getLast?_eq_some_iff.1 hgetLast
  have hroot : ¬ isRoot path := by
    intro hroot
    rw [segments_of_isRoot hroot, List.getLast?_singleton, Option.some.injEq] at hgetLast
    rw [← hgetLast] at hlast
    cases hlast
  have hreverse : (segments path).reverse = last :: parts.reverse := by simp [hsegments]
  rw [resourceName, if_neg hroot] at hname ⊢
  simp only [hreverse, namingSegment?, hlast, if_true] at hname ⊢
  cases hfound : namingSegment? (some last) parts.reverse with
  | some owner =>
    obtain ⟨after, param, before, hparts, hplain, hidentified⟩ := exists_of_namingSegment? hfound
    have hsplit : segments path = before.reverse ++ owner :: param :: after.reverse := by
      rw [← List.reverse_reverse (segments path), hreverse, hparts]
      simp
    refine .below hsplit ?_ hplain hidentified
    -- with nothing behind it, the parameter would be the last segment
    intro hnil
    rw [hnil] at hsplit
    exact hnot (isIdPath_iff.2 ⟨_, _, _, hsplit,
      isParam_of_paramName? (paramName?_of_identifiedBy hidentified), hplain, hidentified⟩)
  | none =>
    rw [hfound] at hname
    cases hfirst : (segments path).find? (!isParam ·) with
    | some part => exact .first hfirst
    | none =>
      rw [hfirst] at hname
      exact absurd rfl hname

end ApiKinds.Path
