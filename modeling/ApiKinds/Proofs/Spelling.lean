/-
  Paths and their segments up to the case of ASCII letters.

  * `asciiSmall`: a text in small letters, which is the same for texts that differ in case only.
  * `lowercase_asciiSmall`, `segments_asciiSmall`: what is read of a text through its small form
    does not depend on the case.
  * `HangsOnSingular`: a path that ends in a parameter which only the singular of the segment
    before it can identify. The singular is taken of the segment as it is spelled.
  * `isIdPath_agrees_iff`: so these are the paths for which the case matters.
-/
import ApiKinds.Proofs.Path
import ApiKinds.Proofs.Word
import Mathlib.Data.List.Forall2

namespace ApiKinds.Text

/-! ## Letters -/

/-- The capitals of ASCII. -/
def capitals : List Char :=
  (List.range 26).map fun n => Char.ofNat (65 + n)

theorem asciiLower_eq_self_or (c : Char) : asciiLower c = c ∨ c ∈ capitals := by
  by_cases hc : 'A' ≤ c ∧ c ≤ 'Z'
  · right
    have hlow : 65 ≤ c.toNat := hc.1
    have hhigh : c.toNat ≤ 90 := hc.2
    refine List.mem_map.2 ⟨c.toNat - 65, List.mem_range.2 (by omega), ?_⟩
    rw [Nat.add_sub_cancel' hlow, Char.ofNat_toNat]
  · exact .inl (if_neg hc)

/-- What is the same for the capitals and their small letters is so for all characters and their
    small forms. -/
theorem apply_asciiLower {α : Type} (f : Char → α)
    (h : capitals.map (fun c => f (asciiLower c)) = capitals.map f) (c : Char) :
    f (asciiLower c) = f c := by
  rcases asciiLower_eq_self_or c with hc | hc
  · rw [hc]
  · exact List.map_inj_left.1 h c hc

theorem lowerChar_asciiLower (c : Char) : lowerChar (asciiLower c) = lowerChar c :=
  apply_asciiLower lowerChar (by decide) c

theorem isCased_asciiLower (c : Char) : isCased (asciiLower c) = isCased c :=
  apply_asciiLower isCased (by decide) c

theorem isCaseIgnorable_asciiLower (c : Char) :
    isCaseIgnorable (asciiLower c) = isCaseIgnorable c :=
  apply_asciiLower isCaseIgnorable (by decide) c

/-- A sign that is no letter of ASCII is the small form of itself only. -/
def Caseless (sign : Char) : Prop :=
  ∀ c, asciiLower c = sign ↔ c = sign

theorem caseless_of_not_mem {sign : Char} (hsmall : sign ∉ capitals.map asciiLower)
    (hcapital : sign ∉ capitals) : Caseless sign := by
  intro c
  rcases asciiLower_eq_self_or c with hc | hc
  · rw [hc]
  · refine iff_of_false ?_ ?_
    · rintro rfl
      exact hsmall (List.mem_map_of_mem hc)
    · rintro rfl
      exact hcapital hc

theorem Caseless.beq {sign : Char} (h : Caseless sign) (c : Char) :
    (asciiLower c == sign) = (c == sign) := by
  rw [Bool.eq_iff_iff, beq_iff_eq, beq_iff_eq, h c]

/-! ## Texts -/

/-- The text with small letters in place of the capitals of ASCII. -/
def asciiSmall (s : String) : String :=
  .ofList (s.toList.map asciiLower)

@[simp] theorem toList_asciiSmall (s : String) :
    (asciiSmall s).toList = s.toList.map asciiLower :=
  String.toList_ofList

/-- Texts are the same up to the case of letters just if they have the same small form. -/
theorem sameIgnoringAsciiCase_iff {a b : String} :
    sameIgnoringAsciiCase a b ↔ asciiSmall a = asciiSmall b := by
  rw [sameIgnoringAsciiCase, beq_iff_eq, asciiSmall, asciiSmall, String.ofList_inj]

theorem asciiSmall_append (a b : String) : asciiSmall (a ++ b) = asciiSmall a ++ asciiSmall b := by
  simp [asciiSmall]

section
variable (sep : Char → Bool) (hsep : ∀ c, sep (asciiLower c) = sep c)
include hsep

theorem pieces_asciiLower (s : List Char) :
    pieces sep (s.map asciiLower) = (pieces sep s).map (List.map asciiLower) := by
  induction s with
  | nil => rfl
  | cons c rest ih =>
    rw [List.map_cons, pieces, pieces, hsep, ih]
    by_cases hc : sep c
    · simp [hc]
    · cases hpieces : pieces sep rest with
      | nil => simp [hc]
      | cons piece others => simp [hc]

theorem trimEnds_asciiLower (s : List Char) :
    trimEnds sep (s.map asciiLower) = (trimEnds sep s).map asciiLower := by
  have hdrop : sep ∘ asciiLower = sep := funext hsep
  simp [trimEnds, List.dropWhile_map, hdrop, ← List.map_reverse]

end

section
variable {sign : Char} (hsign : Caseless sign)
include hsign

theorem splitOn_asciiSmall (s : String) :
    splitOn sign (asciiSmall s) = (splitOn sign s).map asciiSmall := by
  simp [splitOn, splitBy, pieces_asciiLower (· == sign) hsign.beq, asciiSmall, Function.comp_def]

theorem trimChar_asciiSmall (s : String) :
    trimChar sign (asciiSmall s) = asciiSmall (trimChar sign s) := by
  simp [trimChar, trimEnds_asciiLower (· == sign) hsign.beq, asciiSmall]

theorem hasPrefix_asciiSmall {start : String} (hstart : start.toList = [sign]) (s : String) :
    hasPrefix start (asciiSmall s) = hasPrefix start s := by
  rw [hasPrefix, hasPrefix, hstart, toList_asciiSmall]
  cases s.toList with
  | nil => rfl
  | cons c rest =>
    have hc : (sign == asciiLower c) = (sign == c) := by
      rw [Bool.beq_comm, hsign.beq, Bool.beq_comm]
    simp [List.isPrefixOf, hc]

theorem hasSuffix_asciiSmall {ending : String} (hending : ending.toList = [sign]) (s : String) :
    hasSuffix ending (asciiSmall s) = hasSuffix ending s := by
  rw [Bool.eq_iff_iff, hasSuffix_iff_getLast? hending, hasSuffix_iff_getLast? hending,
    toList_asciiSmall, List.getLast?_map, Option.map_eq_some_iff]
  simp only [hsign _, exists_eq_right]

theorem dropPrefix?_asciiSmall {start : String} (hstart : start.toList = [sign]) (s : String) :
    dropPrefix? start (asciiSmall s) = (dropPrefix? start s).map asciiSmall := by
  simp only [dropPrefix?, hasPrefix_asciiSmall hsign hstart]
  split
  · simp [asciiSmall, List.map_drop]
  · rfl

theorem dropSuffix?_asciiSmall {ending : String} (hending : ending.toList = [sign]) (s : String) :
    dropSuffix? ending (asciiSmall s) = (dropSuffix? ending s).map asciiSmall := by
  simp only [dropSuffix?, hasSuffix_asciiSmall hsign hending]
  split
  · simp [asciiSmall, List.map_take]
  · rfl

end

/-! ## Small forms -/

/-- A case-ignorable or cased character stays one, so the sigma at the end of a word is found in
    every spelling. -/
theorem casedAhead_asciiLower (s : List Char) : casedAhead (s.map asciiLower) = casedAhead s := by
  have hdrop : isCaseIgnorable ∘ asciiLower = isCaseIgnorable :=
    funext isCaseIgnorable_asciiLower
  rw [casedAhead, casedAhead, List.dropWhile_map, hdrop]
  cases s.dropWhile isCaseIgnorable with
  | nil => rfl
  | cons c rest => exact isCased_asciiLower c

theorem lowerAfter_asciiLower (before s : List Char) :
    lowerAfter (before.map asciiLower) (s.map asciiLower) = lowerAfter before s := by
  have hsigma : Caseless 'Σ' := caseless_of_not_mem (by decide) (by decide)
  induction s generalizing before with
  | nil => rfl
  | cons c rest ih =>
    have hrest := ih (c :: before)
    rw [List.map_cons] at hrest
    simp only [List.map_cons, lowerAfter, hsigma c, casedAhead_asciiLower, lowerChar_asciiLower,
      hrest]

/-- The small form of a text does not depend on the case of its letters. -/
@[simp] theorem lowercase_asciiSmall (s : String) : lowercase (asciiSmall s) = lowercase s := by
  rw [lowercase, lowercase, toList_asciiSmall]
  exact congrArg String.ofList (lowerAfter_asciiLower [] s.toList)

theorem lowercase_eq_of_asciiSmall {a b : String} (h : asciiSmall a = asciiSmall b) :
    lowercase a = lowercase b := by
  rw [← lowercase_asciiSmall a, h, lowercase_asciiSmall]

end ApiKinds.Text

namespace ApiKinds.Path

open Text Word

theorem segments_asciiSmall (path : String) :
    segments (asciiSmall path) = (segments path).map asciiSmall := by
  have hslash : Caseless '/' := caseless_of_not_mem (by decide) (by decide)
  rw [segments, segments, trimChar_asciiSmall hslash, splitOn_asciiSmall hslash]

theorem caseless_open : Caseless '\x7b' :=
  caseless_of_not_mem (by decide) (by decide)

theorem isParam_asciiSmall (segment : String) :
    isParam (asciiSmall segment) = isParam segment :=
  hasPrefix_asciiSmall caseless_open rfl segment

theorem paramName?_asciiSmall (segment : String) :
    paramName? (asciiSmall segment) = (paramName? segment).map asciiSmall := by
  have hclose : Caseless '\x7d' := caseless_of_not_mem (by decide) (by decide)
  rw [paramName?, paramName?, dropPrefix?_asciiSmall caseless_open rfl]
  cases dropPrefix? "\x7b" segment with
  | none => rfl
  | some rest =>
    rw [Option.map_some, Option.bind_some, Option.bind_some, dropSuffix?_asciiSmall hclose rfl]

/-! ## Paths that end in a parameter -/

/-- The path ends in a segment and a parameter, which may be the segment's own or not. -/
structure Closes (path owner param : String) : Prop where
  exists_segments : ∃ before last,
    segments path = before ++ [owner, last] ∧ paramName? last = some param
  plain : isParam owner = false

theorem identifies_iff {owner param : String} : identifies true param owner ↔
    Text.contains (lowercase owner) (lowercase param) ∨
      Text.contains (lowercase (singular owner)) (lowercase param) ∨ lowercase param = "id" := by
  simp [identifies, or_assoc]

/-- An ID path is one whose last parameter is the own one of the segment before it. -/
theorem isIdPath_iff_closes {path : String} :
    isIdPath path ↔ ∃ owner param, Closes path owner param ∧ identifies true param owner := by
  rw [isIdPath_iff]
  constructor
  · rintro ⟨before, owner, last, h⟩
    obtain ⟨param, hparam⟩ := h.exists_paramName
    have hidentified := h.identified
    simp only [identifiedBy, Option.bind_some, hparam] at hidentified
    exact ⟨owner, param, ⟨⟨before, last, h.segments, hparam⟩, h.plain⟩, hidentified⟩
  · rintro ⟨owner, param, ⟨⟨before, last, hsegments, hparam⟩, hplain⟩, hidentified⟩
    refine ⟨before, owner, last, hsegments, isParam_of_paramName? (by rw [hparam]; rfl), hplain, ?_⟩
    simp only [identifiedBy, Option.bind_some, hparam]
    exact hidentified

theorem Closes.unique {path owner param owner' param' : String} (h : Closes path owner param)
    (h' : Closes path owner' param') : owner = owner' ∧ param = param' := by
  obtain ⟨⟨before, last, hsegments, hparam⟩, -⟩ := h
  obtain ⟨⟨before', last', hsegments', hparam'⟩, -⟩ := h'
  have hends := (List.append_inj' (hsegments.symm.trans hsegments') rfl).2
  simp only [List.cons.injEq, and_true] at hends
  obtain ⟨rfl, rfl⟩ := hends
  exact ⟨rfl, Option.some.inj (hparam.symm.trans hparam')⟩

/-- A path in other letters ends in the same segment and parameter, in other letters. -/
theorem Closes.exists_of_asciiSmall {p q owner param : String} (h : Closes p owner param)
    (hsame : asciiSmall p = asciiSmall q) : ∃ owner' param', Closes q owner' param' ∧
      asciiSmall owner = asciiSmall owner' ∧ asciiSmall param = asciiSmall param' := by
  obtain ⟨⟨before, last, hsegments, hparam⟩, hplain⟩ := h
  have hmap : (segments q).map asciiSmall =
      before.map asciiSmall ++ [asciiSmall owner, asciiSmall last] := by
    rw [← segments_asciiSmall, ← hsame, segments_asciiSmall, hsegments, List.map_append]
    rfl
  obtain ⟨before', ends', hsegments', -, hends⟩ := List.map_eq_append_iff.1 hmap
  obtain ⟨owner', rest, rfl, howner, hrest⟩ := List.map_eq_cons_iff.1 hends
  obtain ⟨last', rest, rfl, hlast, hrest⟩ := List.map_eq_cons_iff.1 hrest
  obtain rfl := List.map_eq_nil_iff.1 hrest
  have hname : (paramName? last').map asciiSmall = some (asciiSmall param) := by
    rw [← paramName?_asciiSmall, hlast, paramName?_asciiSmall, hparam]
    rfl
  obtain ⟨param', hparam', hsmall⟩ := Option.map_eq_some_iff.1 hname
  refine ⟨owner', param', ⟨⟨before', last', hsegments', hparam'⟩, ?_⟩, howner.symm, hsmall.symm⟩
  rw [← isParam_asciiSmall, howner, isParam_asciiSmall, hplain]

/-- Two words have the same last four letters, in the same case. -/
def EndAlike (a b : String) : Prop :=
  a.toList.rtake 4 = b.toList.rtake 4

/-- Words that differ in the case of letters further up only have such singulars. -/
theorem asciiSmall_singular {a b : String} (h : asciiSmall a = asciiSmall b)
    (hends : EndAlike a b) : asciiSmall (singular a) = asciiSmall (singular b) := by
  have hmap : a.toList.map asciiLower = b.toList.map asciiLower := String.ofList_injective h
  have hlength : a.toList.length = b.toList.length := by
    simpa using congrArg List.length hmap
  have hcut (s : String) : s = .ofList (s.toList.rdrop 4) ++ .ofList (s.toList.rtake 4) := by
    apply String.toList_injective
    simp [List.rdrop, List.rtake]
  by_cases hshort : a.toList.length < 4
  · -- the last four letters are all there are
    have hall (s : String) (hs : s.toList.length < 4) : s.toList.rtake 4 = s.toList := by
      simp [List.rtake, Nat.sub_eq_zero_of_le hs.le]
    have hab : a = b := by
      apply String.toList_injective
      rw [← hall a hshort, ← hall b (hlength ▸ hshort), hends]
    rw [hab]
  have hlong : 4 ≤ (String.ofList (a.toList.rtake 4)).length := by
    rw [← String.length_toList, String.toList_ofList, List.rtake, List.length_drop]
    omega
  have hfront :
      asciiSmall (.ofList (a.toList.rdrop 4)) = asciiSmall (.ofList (b.toList.rdrop 4)) := by
    simp only [asciiSmall, String.toList_ofList, List.rdrop, List.map_take, hmap, hlength]
  rw [hcut a, hcut b, ← hends, singular_append hlong, singular_append hlong, asciiSmall_append,
    asciiSmall_append, hfront]

/-- The path ends in a parameter that is no `id` and does not have the name of its owner in it,
    so that only the owner's singular can make it the owner's own. -/
structure HangsOnSingular (path owner param : String) : Prop extends Closes path owner param where
  unnamed : Text.contains (lowercase owner) (lowercase param) = false
  not_id : lowercase param ≠ "id"

theorem isIdPath_of_closes {path owner param : String} (h : Closes path owner param) :
    isIdPath path = identifies true param owner := by
  rw [Bool.eq_iff_iff, isIdPath_iff_closes]
  constructor
  · rintro ⟨owner', param', h', hidentified⟩
    obtain ⟨rfl, rfl⟩ := h.unique h'
    exact hidentified
  · intro hidentified
    exact ⟨owner, param, h, hidentified⟩

theorem HangsOnSingular.isIdPath_eq {path owner param : String}
    (h : HangsOnSingular path owner param) :
    isIdPath path = Text.contains (lowercase (singular owner)) (lowercase param) := by
  simp [isIdPath_of_closes h.toCloses, identifies, h.unnamed, h.not_id]

/-- A path that ends in a parameter and does not hang on the singular is an ID path. -/
theorem Closes.isIdPath_of_not_hangs {path owner param : String} (h : Closes path owner param)
    (hnot : ¬ HangsOnSingular path owner param) : isIdPath path := by
  rw [isIdPath_of_closes h, identifies_iff]
  by_cases hnamed : Text.contains (lowercase owner) (lowercase param)
  · exact .inl hnamed
  by_cases hid : lowercase param = "id"
  · exact .inr (.inr hid)
  · exact absurd ⟨h, Bool.not_eq_true _ ▸ hnamed, hid⟩ hnot

theorem isIdPath_of_not_closes {path : String} (h : ¬ ∃ owner param, Closes path owner param) :
    isIdPath path = false := by
  rw [← Bool.not_eq_true, isIdPath_iff_closes]
  rintro ⟨owner, param, hcloses, -⟩
  exact h ⟨owner, param, hcloses⟩

theorem isSome_collectionOf? (path : String) : (collectionOf? path).isSome = isIdPath path := by
  rw [collectionOf?]
  cases isIdPath path <;> rfl

section
variable {p q : String} (hsame : sameIgnoringAsciiCase p q)
include hsame

/-- Keywords are found in a segment in any case. -/
theorem keywords_of_same : List.Forall₂ (fun a b => isAction a = isAction b ∧
    isStrongAction a = isStrongAction b) (segments p) (segments q) := by
  have hmap : (segments p).map asciiSmall = (segments q).map asciiSmall := by
    rw [← segments_asciiSmall, ← segments_asciiSmall, sameIgnoringAsciiCase_iff.1 hsame]
  have hsmall :
      List.Forall₂ (fun a b => asciiSmall a = asciiSmall b) (segments p) (segments q) := by
    rwa [← List.forall₂_eq_eq_eq, List.forall₂_map_left_iff, List.forall₂_map_right_iff] at hmap
  refine hsmall.imp fun a b hab => ?_
  have hlower := lowercase_eq_of_asciiSmall hab
  constructor
  · rw [isAction, isAction, mentions, mentions, hlower]
  · rw [isStrongAction, isStrongAction, mentions, mentions, hlower]

/-- Paths in different letters differ as ID paths just where the singular of the owner decides,
    and decides in one of them only. -/
theorem isIdPath_ne_iff : isIdPath p ≠ isIdPath q ↔
    ∃ owner param owner' param', HangsOnSingular p owner param ∧ HangsOnSingular q owner' param' ∧
      Text.contains (lowercase (singular owner)) (lowercase param) ≠
        Text.contains (lowercase (singular owner')) (lowercase param') := by
  have hsmall := sameIgnoringAsciiCase_iff.1 hsame
  constructor
  · intro hne
    by_cases hcloses : ∃ owner param, Closes p owner param
    · obtain ⟨owner, param, hp⟩ := hcloses
      obtain ⟨owner', param', hq, howner, hparam⟩ := hp.exists_of_asciiSmall hsmall
      have hlowner := lowercase_eq_of_asciiSmall howner
      have hlparam := lowercase_eq_of_asciiSmall hparam
      have hiff : HangsOnSingular p owner param ↔ HangsOnSingular q owner' param' := by
        constructor
        · rintro ⟨-, hunnamed, hnot⟩
          exact ⟨hq, by rw [← hlowner, ← hlparam, hunnamed], by rwa [← hlparam]⟩
        · rintro ⟨-, hunnamed, hnot⟩
          exact ⟨hp, by rw [hlowner, hlparam, hunnamed], by rwa [hlparam]⟩
      by_cases hangs : HangsOnSingular p owner param
      · have hangs' := hiff.1 hangs
        rw [hangs.isIdPath_eq, hangs'.isIdPath_eq] at hne
        exact ⟨owner, param, owner', param', hangs, hangs', hne⟩
      · have hidp := hp.isIdPath_of_not_hangs hangs
        have hidq := hq.isIdPath_of_not_hangs (mt hiff.2 hangs)
        exact absurd (hidp.trans hidq.symm) hne
    · have hcloses' : ¬ ∃ owner param, Closes q owner param := by
        rintro ⟨owner, param, hq⟩
        obtain ⟨owner', param', hp, -⟩ := hq.exists_of_asciiSmall hsmall.symm
        exact hcloses ⟨owner', param', hp⟩
      rw [isIdPath_of_not_closes hcloses, isIdPath_of_not_closes hcloses'] at hne
      exact absurd rfl hne
  · rintro ⟨owner, param, owner', param', hp, hq, hne⟩
    rwa [hp.isIdPath_eq, hq.isIdPath_eq]

/-- Where the last letters of the owners are in the same case, so are the ID paths. -/
theorem isIdPath_eq_of_endAlike (h : ∀ owner param owner' param', Closes p owner param →
    Closes q owner' param' → EndAlike owner owner') : isIdPath p = isIdPath q := by
  by_contra hne
  obtain ⟨owner, param, owner', param', hp, hq, hsingular⟩ := (isIdPath_ne_iff hsame).1 hne
  obtain ⟨owner₂, param₂, hq₂, howner, hparam⟩ :=
    hp.exists_of_asciiSmall (sameIgnoringAsciiCase_iff.1 hsame)
  obtain ⟨rfl, rfl⟩ := hq.unique hq₂
  have hends := h _ _ _ _ hp.toCloses hq.toCloses
  have hlower := lowercase_eq_of_asciiSmall (asciiSmall_singular howner hends)
  exact hsingular (by rw [hlower, lowercase_eq_of_asciiSmall hparam])

/-- **The case of letters does not matter to the keywords in a path, and to an ID path only where
    the singular of its owner decides**: a plural ending in capitals is not taken away. Paths whose
    owners have the last four letters in the same case are ID paths both or neither. -/
theorem isIdPath_agrees_iff :
    List.Forall₂ (fun a b => isAction a = isAction b ∧ isStrongAction a = isStrongAction b)
        (segments p) (segments q) ∧
      ((collectionOf? p).isSome = (collectionOf? q).isSome ↔ isIdPath p = isIdPath q) ∧
      (isIdPath p ≠ isIdPath q ↔ ∃ owner param owner' param',
        HangsOnSingular p owner param ∧ HangsOnSingular q owner' param' ∧
          Text.contains (lowercase (singular owner)) (lowercase param) ≠
            Text.contains (lowercase (singular owner')) (lowercase param')) ∧
      ((∀ owner param owner' param', Closes p owner param → Closes q owner' param' →
        EndAlike owner owner') → isIdPath p = isIdPath q) := by
  refine ⟨keywords_of_same hsame, ?_, isIdPath_ne_iff hsame, isIdPath_eq_of_endAlike hsame⟩
  rw [isSome_collectionOf?, isSome_collectionOf?]

end

/-- The widgets and their parameter in other letters, but for the last four of the owner. -/
theorem isIdPath_of_widgets :
    sameIgnoringAsciiCase "/Widgets/\x7bwidgetId\x7d" "/WIDgets/\x7bWidgetID\x7d" ∧
      isIdPath "/Widgets/\x7bwidgetId\x7d" = isIdPath "/WIDgets/\x7bWidgetID\x7d" := by
  have hsame :
      sameIgnoringAsciiCase "/Widgets/\x7bwidgetId\x7d" "/WIDgets/\x7bWidgetID\x7d" := by
    decide
  have hp : Closes "/Widgets/\x7bwidgetId\x7d" "Widgets" "widgetId" :=
    ⟨⟨[], "\x7bwidgetId\x7d", by decide, by decide⟩, by decide⟩
  have hq : Closes "/WIDgets/\x7bWidgetID\x7d" "WIDgets" "WidgetID" :=
    ⟨⟨[], "\x7bWidgetID\x7d", by decide, by decide⟩, by decide⟩
  refine ⟨hsame, (isIdPath_agrees_iff hsame).2.2.2 ?_⟩
  intro owner param owner' param' hp' hq'
  obtain ⟨rfl, rfl⟩ := hp.unique hp'
  obtain ⟨rfl, rfl⟩ := hq.unique hq'
  have hends : "Widgets".toList.rtake 4 = "WIDgets".toList.rtake 4 := by decide
  exact hends

/-- In capitals the plural of the categories is not found. -/
theorem isIdPath_ne_of_categories :
    sameIgnoringAsciiCase "/categories/\x7bcategoryId\x7d" "/CATEGORIES/\x7bcategoryId\x7d" ∧
      isIdPath "/categories/\x7bcategoryId\x7d" = true ∧
      isIdPath "/CATEGORIES/\x7bcategoryId\x7d" = false ∧
      collectionOf? "/categories/\x7bcategoryId\x7d" = some "/categories" ∧
      collectionOf? "/CATEGORIES/\x7bcategoryId\x7d" = none := by
  decide +kernel

end ApiKinds.Path
