/-
  Base paths: as much of a path as stands before its first parameter or operation.

  * `Plain`: what a segment of a base path is like.
  * `basePathBy`: the base path under another rule to stop behind a segment. It is the same for
    every rule that stops in front of parameters only (`StopsAtParam`, `basePathBy_eq`).
  * `basePath_ofSegments`: a path of plain segments is its own base path.
  * `basePath_longest`: the base path has the longest plain beginning of the segments.
-/
import ApiKinds.Proofs.Path

namespace ApiKinds.Path

open Text Word

/-! ## Plain segments -/

/-- A segment that a base path does not stop at. -/
def isPlain (part : String) : Bool :=
  part != "" && !isParam part && !isAction part

/-- A segment of a base path: there is something in it, it starts with no brace, and no keyword of
    an operation is in it, in any case. -/
structure Plain (part : String) : Prop where
  ne_empty : part ≠ ""
  unbraced : ∀ rest, part ≠ "\x7b" ++ rest
  no_keyword : ∀ keyword ∈ actionKeywords, ∀ front back, lowercase part ≠ front ++ keyword ++ back

theorem isAction_iff {part : String} : isAction part ↔
    ∃ keyword ∈ actionKeywords, ∃ front back, lowercase part = front ++ keyword ++ back := by
  rw [isAction, mentions, List.any_eq_true]
  simp only [contains_iff]

theorem isPlain_iff {part : String} : isPlain part ↔ Plain part := by
  have hparam : isParam part = false ↔ ∀ rest, part ≠ "\x7b" ++ rest := by
    rw [← Bool.not_eq_true, isParam, hasPrefix_iff, not_exists]
  have haction : isAction part = false ↔ ∀ keyword ∈ actionKeywords, ∀ front back,
      lowercase part ≠ front ++ keyword ++ back := by
    rw [← Bool.not_eq_true, isAction_iff]
    push Not
    rfl
  simp only [isPlain, Bool.and_eq_true, bne_iff_ne, Bool.not_eq_true', hparam, haction]
  constructor
  · rintro ⟨⟨hne, hunbraced⟩, hkeyword⟩
    exact ⟨hne, hunbraced, hkeyword⟩
  · rintro ⟨hne, hunbraced, hkeyword⟩
    exact ⟨⟨hne, hunbraced⟩, hkeyword⟩

/-! ## Where a base path ends -/

/-- The segments up to the first that is empty, a parameter or an operation, or up to one that
    `stop` holds for, which is included. It is asked of a segment and the one behind it. -/
def baseSegmentsBy (stop : String → Option String → Bool) : List String → List String
  | [] => []
  | part :: rest =>
    if part == "" || isParam part || isAction part then []
    else if stop part rest.head? then [part]
    else part :: baseSegmentsBy stop rest

/-- The rule stops in front of parameters only. -/
def StopsAtParam (stop : String → Option String → Bool) : Prop :=
  ∀ part next, stop part next → ∃ param, next = some param ∧ isParam param

theorem stopsAtParam_identifiedBy (trySingular : Bool) :
    StopsAtParam (identifiedBy trySingular) := by
  intro part next hidentified
  cases next with
  | none => cases hidentified
  | some param =>
    exact ⟨param, rfl, isParam_of_paramName? (paramName?_of_identifiedBy hidentified)⟩

theorem stopsAtParam_never : StopsAtParam fun _ _ => false :=
  fun _ _ hfalse => absurd hfalse Bool.false_ne_true

theorem baseSegments_eq (parts : List String) :
    baseSegments parts = baseSegmentsBy (identifiedBy false) parts := by
  induction parts with
  | nil => rfl
  | cons part rest ih => rw [baseSegments, baseSegmentsBy, ih]

/-- To stop in front of a parameter does not matter, whichever parameter it is. -/
theorem baseSegmentsBy_eq_takeWhile {stop : String → Option String → Bool}
    (hstop : StopsAtParam stop) (parts : List String) : baseSegmentsBy stop parts = parts.takeWhile isPlain := by
  induction parts with
  | nil => rfl
  | cons part rest ih =>
    have hplain : (part == "" || isParam part || isAction part) = !isPlain part := by
      simp [isPlain, Bool.or_assoc, bne]
    rw [baseSegmentsBy, List.takeWhile_cons, hplain, ← ih]
    cases isPlain part with
    | false => rfl
    | true =>
      by_cases hnext : stop part rest.head?
      · -- the segment behind is a parameter, so nothing would be added to this one anyway
        obtain ⟨param, hparam, hisParam⟩ := hstop part _ hnext
        obtain ⟨others, rfl⟩ := List.head?_eq_some_iff.1 hparam
        simp [baseSegmentsBy, hisParam]
      · simp [hnext]

/-- A base path goes as far as its segments are plain. -/
theorem baseSegments_eq_takeWhile (parts : List String) :
    baseSegments parts = parts.takeWhile isPlain := by
  rw [baseSegments_eq]
  exact baseSegmentsBy_eq_takeWhile (stopsAtParam_identifiedBy false) parts

/-- The base path that is found if `stop` says behind which segments to stop. -/
def basePathBy (stop : String → Option String → Bool) (path : String) : String :=
  ofSegments (baseSegmentsBy stop (segments path))

theorem basePath_eq (path : String) :
    basePath path = ofSegments ((segments path).takeWhile isPlain) := by
  rw [basePath, baseSegments_eq_takeWhile]

theorem basePathBy_eq {stop : String → Option String → Bool} (hstop : StopsAtParam stop)
    (path : String) : basePathBy stop path = basePath path := by
  rw [basePathBy, baseSegmentsBy_eq_takeWhile hstop, basePath_eq]

/-! ## Paths that are their own base paths -/

/-- The base path of a collection is the collection just if all of its segments are plain. -/
theorem basePath_eq_self_iff {path : String} {before : List String} {owner param : String}
    (h : EndsIn path before owner param) (howner : owner ≠ "") :
    basePath (ofSegments (before ++ [owner])) = ofSegments (before ++ [owner]) ↔
      ∀ part ∈ segments (ofSegments (before ++ [owner])), isPlain part := by
  have hsegments := segments_of_collection h howner
  rw [basePath, hsegments, baseSegments_eq_takeWhile, ← List.takeWhile_eq_self_iff]
  refine ⟨fun hsame => ?_, congrArg ofSegments⟩
  have hne : (before ++ [owner]).takeWhile isPlain ≠ [] := by
    intro hnil
    rw [hnil] at hsame
    have hroot : [""] = before ++ [owner] := (congrArg segments hsame).trans hsegments
    have hlast := congrArg List.getLast? hroot
    rw [List.getLast?_concat, List.getLast?_singleton] at hlast
    exact howner (Option.some.inj hlast).symm
  have hfree := slash_free_of_endsIn h
  exact ofSegments_injective hne (by simp)
    (fun part hpart => hfree part (List.takeWhile_subset _ hpart)) hfree hsame

theorem ne_empty_of_isPlain {part : String} (h : isPlain part) : part ≠ "" :=
  (isPlain_iff.1 h).ne_empty

section
variable {parts : List String} (hplain : ∀ part ∈ parts, isPlain part)
  (hfree : ∀ part ∈ parts, '/' ∉ part.toList)
include hplain hfree

theorem segments_of_plain (hne : parts ≠ []) : segments (ofSegments parts) = parts := by
  refine segments_ofSegments hne hfree ?_ ?_
  · intro first hfirst
    exact ne_empty_of_isPlain (hplain first (List.mem_of_head? hfirst))
  · intro last hlast
    exact ne_empty_of_isPlain (hplain last (List.mem_of_getLast? hlast))

/-- A path of plain segments is its own base path. -/
theorem basePath_ofSegments : basePath (ofSegments parts) = ofSegments parts := by
  by_cases hnil : parts = []
  · -- the root path has one segment, which is not plain
    subst hnil
    rfl
  · rw [basePath_eq, segments_of_plain hplain hfree hnil, List.takeWhile_eq_self_iff.2 hplain]

end

theorem basePath_basePath (path : String) : basePath (basePath path) = basePath path := by
  rw [basePath_eq path]
  refine basePath_ofSegments (fun part hpart => List.mem_takeWhile_imp hpart) ?_
  intro part hpart
  exact slash_not_mem_of_mem_segments (List.takeWhile_subset _ hpart)

/-! ## The longest beginning -/

/-- The longest beginning of a list of segments in which all of them are plain. -/
structure LongestPlain (base parts : List String) : Prop where
  starts : base <+: parts
  plain : ∀ part ∈ base, Plain part
  longest : ∀ other, other <+: parts → (∀ part ∈ other, Plain part) → other <+: base

theorem longestPlain_takeWhile (parts : List String) :
    LongestPlain (parts.takeWhile isPlain) parts where
  starts := List.takeWhile_prefix isPlain
  plain _ hpart := isPlain_iff.1 (List.mem_takeWhile_imp hpart)
  longest := by
    rintro other ⟨rest, rfl⟩ hplain
    rw [List.takeWhile_append_of_pos fun part hpart => isPlain_iff.2 (hplain part hpart)]
    exact List.prefix_append other _

/-- **A base path is the longest plain beginning of a path**, so it is its own base path. It is the
    same if no parameter ahead is looked at, and if the parameter of a segment is recognized by
    the singular of the segment, too. -/
theorem basePath_longest (path : String) :
    (∃ base, LongestPlain base (segments path) ∧ basePath path = ofSegments base) ∧
      basePathBy (fun _ _ => false) path = basePath path ∧
      (∀ trySingular, basePathBy (identifiedBy trySingular) path = basePath path) ∧
      basePath (basePath path) = basePath path := by
  refine ⟨⟨_, longestPlain_takeWhile _, basePath_eq path⟩, ?_, ?_, basePath_basePath path⟩
  · exact basePathBy_eq stopsAtParam_never path
  · intro trySingular
    exact basePathBy_eq (stopsAtParam_identifiedBy trySingular) path

/-- Only the singular of `boxes` is in the parameter behind it, where the base path ends anyway. -/
example : identifiedBy false "boxes" (some "\x7bboxId\x7d") = false ∧
    basePath "/boxes/\x7bboxId\x7d/lids" = "/boxes" := by
  decide

end ApiKinds.Path
