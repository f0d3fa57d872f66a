/-
  What a pattern for paths says of the segments of a path.

  * `pathSegments_append`: a path is cut at any of its slashes; `pathSegments_ofSegments`:
    segments are found again in the path that is made of them.
  * `acceptsPath_below_iff`, `acceptsPath_child_iff`, `acceptsPath_plain_iff`: the three forms
    of a pattern for paths.
  * `AddsSlash`: a slash more that makes no other segments.
  * `acceptsPath_forms`: the forms that end in `/*` and `/?` by the form that ends in neither,
    on the first segments of the path, and whatever slashes the path is written with.
-/
import ApiKinds.Glob
import ApiKinds.Proofs.Path
import Mathlib.Logic.Relation

namespace ApiKinds.Glob

open Text

/-! ## Segments -/

@[simp] theorem pathSegments_empty : pathSegments "" = [] := rfl

/-- A path is cut at any of its slashes. -/
theorem pathSegments_append (front back : String) :
    pathSegments (front ++ "/" ++ back) = pathSegments front ++ pathSegments back := by
  have hpath : front ++ "/" ++ back = .ofList (front.toList ++ '/' :: back.toList) := by
    apply String.toList_inj.1
    simp [Path.toList_slash]
  rw [pathSegments, hpath, splitOn_append_cons, List.filter_append, String.ofList_toList,
    String.ofList_toList, pathSegments, pathSegments]

theorem of_mem_pathSegments {path part : String} (h : part ∈ pathSegments path) :
    part ≠ "" ∧ '/' ∉ part.toList := by
  obtain ⟨hpart, hne⟩ := List.mem_filter.1 h
  exact ⟨by simpa using hne, not_mem_of_mem_splitOn hpart⟩

/-- Segments are found again in the path that is made of them. -/
theorem pathSegments_ofSegments {parts : List String}
    (h : ∀ part ∈ parts, part ≠ "" ∧ '/' ∉ part.toList) :
    pathSegments (Path.ofSegments parts) = parts := by
  have hstart : Path.ofSegments parts = "" ++ "/" ++ join "/" parts := rfl
  rw [hstart, pathSegments_append, pathSegments_empty, List.nil_append]
  cases parts with
  | nil => rfl
  | cons first rest =>
    rw [pathSegments, splitOn_join Path.toList_slash (List.cons_ne_nil _ _) fun part hpart =>
      (h part hpart).2]
    refine List.filter_eq_self.2 fun part hpart => ?_
    simpa using (h part hpart).1

/-- The path made of the first segments of another. -/
def firstSegments (count : ℕ) (path : String) : String :=
  Path.ofSegments ((pathSegments path).take count)

@[simp] theorem pathSegments_firstSegments (count : ℕ) (path : String) :
    pathSegments (firstSegments count path) = (pathSegments path).take count :=
  pathSegments_ofSegments fun _ hpart => of_mem_pathSegments (List.mem_of_mem_take hpart)

/-! ## The forms of a pattern -/

/-- The segments without a pattern beside them do not matter. -/
theorem acceptsAll_take (patterns segments : List String) :
    acceptsAll patterns (segments.take patterns.length) = acceptsAll patterns segments := by
  induction patterns generalizing segments with
  | nil => rfl
  | cons pattern patterns ih =>
    cases segments with
    | nil => rfl
    | cons segment segments =>
      have hrest := ih segments
      simp only [acceptsAll] at hrest ⊢
      rw [List.length_cons, List.take_succ_cons, List.zip_cons_cons, List.zip_cons_cons,
        List.all_cons, List.all_cons, hrest]

section
variable {pattern path : String}

theorem acceptsPath_below_iff : acceptsPath (pattern ++ "/*") path ↔
    (pathSegments pattern).length ≤ (pathSegments path).length ∧
      acceptsAll (pathSegments pattern) (pathSegments path) := by
  rw [acceptsPath, dropSuffix?_append]
  simp

/-- No text ends both in `/*` and in `/?`. -/
theorem acceptsPath_child_iff : acceptsPath (pattern ++ "/?") path ↔
    (pathSegments path).length = (pathSegments pattern).length + 1 ∧
      acceptsAll (pathSegments pattern) (pathSegments path) := by
  have hbelow : ¬ hasSuffix "/*" (pattern ++ "/?") := by
    intro h
    obtain ⟨front, hfront⟩ := hasSuffix_iff.1 h
    have hlast := congrArg (List.getLast? ∘ String.toList) hfront
    simp at hlast
  rw [acceptsPath, dropSuffix?_of_not_hasSuffix hbelow, dropSuffix?_append]
  simp

theorem acceptsPath_plain_iff (hbelow : ¬ hasSuffix "/*" pattern)
    (hchild : ¬ hasSuffix "/?" pattern) : acceptsPath pattern path ↔
      (pathSegments pattern).length = (pathSegments path).length ∧
        acceptsAll (pathSegments pattern) (pathSegments path) := by
  rw [acceptsPath, dropSuffix?_of_not_hasSuffix hbelow, dropSuffix?_of_not_hasSuffix hchild]
  simp

/-- On the first segments of a path, as many as there are of the pattern. -/
theorem acceptsPath_firstSegments_iff (hbelow : ¬ hasSuffix "/*" pattern)
    (hchild : ¬ hasSuffix "/?" pattern) {count : ℕ} (hcount : count ≤ (pathSegments path).length) :
    acceptsPath pattern (firstSegments count path) ↔
      (pathSegments pattern).length = count ∧
        acceptsAll (pathSegments pattern) (pathSegments path) := by
  rw [acceptsPath_plain_iff hbelow hchild, pathSegments_firstSegments,
    List.length_take_of_le hcount]
  refine and_congr_right fun hlength => ?_
  rw [← hlength, acceptsAll_take]

end

/-! ## Slashes -/

/-- A slash more, at an end of a path or next to another slash. -/
inductive AddsSlash : String → String → Prop
  | start (path : String) : AddsSlash path ("/" ++ path)
  | stop (path : String) : AddsSlash path (path ++ "/")
  | beside (front back : String) : AddsSlash (front ++ "/" ++ back) (front ++ "//" ++ back)

/-- Such a slash makes no other segments. -/
theorem AddsSlash.pathSegments_eq {path other : String} (h : AddsSlash path other) :
    pathSegments path = pathSegments other := by
  cases h with
  | start =>
    have hother := pathSegments_append "" path
    simpa using hother.symm
  | stop =>
    have hother := pathSegments_append path ""
    simpa using hother.symm
  | beside front back =>
    have hother : front ++ "//" ++ back = front ++ "/" ++ "" ++ "/" ++ back := by
      have htwice : "//" = "/" ++ "/" := rfl
      rw [String.append_empty, htwice]
      simp only [String.append_assoc]
    rw [hother, pathSegments_append, pathSegments_append, pathSegments_append,
      pathSegments_empty, List.append_nil]

theorem acceptsPath_congr (pattern : String) {path other : String}
    (h : pathSegments path = pathSegments other) :
    acceptsPath pattern path = acceptsPath pattern other := by
  simp only [acceptsPath, h]

/-- Whatever slashes are added and removed so, the pattern says the same. -/
theorem acceptsPath_eq_of_eqvGen (pattern : String) {path other : String}
    (h : Relation.EqvGen AddsSlash path other) :
    acceptsPath pattern path = acceptsPath pattern other := by
  induction h with
  | rel path other hadds => exact acceptsPath_congr pattern hadds.pathSegments_eq
  | refl => rfl
  | symm path other _ ih => exact ih.symm
  | trans path between other _ _ ih₁ ih₂ => exact ih₁.trans ih₂

/-- **A pattern that ends in `/*` is the pattern before it on some first segments of the path, one
    that ends in `/?` on all but the last**, and no pattern sees the slashes that a path has more
    than it needs between its segments. -/
theorem acceptsPath_forms (path : String) :
    (∀ pattern, ¬ hasSuffix "/*" pattern → ¬ hasSuffix "/?" pattern →
      (acceptsPath (pattern ++ "/*") path ↔
        ∃ count ≤ (pathSegments path).length, acceptsPath pattern (firstSegments count path)) ∧
      (acceptsPath (pattern ++ "/?") path ↔
        1 ≤ (pathSegments path).length ∧
          acceptsPath pattern (firstSegments ((pathSegments path).length - 1) path))) ∧
    ∀ pattern other, Relation.EqvGen AddsSlash path other →
      acceptsPath pattern path = acceptsPath pattern other := by
  refine ⟨fun pattern hbelow hchild => ⟨?_, ?_⟩, fun pattern other h =>
    acceptsPath_eq_of_eqvGen pattern h⟩
  · rw [acceptsPath_below_iff]
    constructor
    · rintro ⟨hlength, hall⟩
      exact ⟨_, hlength, (acceptsPath_firstSegments_iff hbelow hchild hlength).2 ⟨rfl, hall⟩⟩
    · rintro ⟨count, hcount, haccepts⟩
      obtain ⟨rfl, hall⟩ := (acceptsPath_firstSegments_iff hbelow hchild hcount).1 haccepts
      exact ⟨hcount, hall⟩
  · rw [acceptsPath_child_iff,
      acceptsPath_firstSegments_iff hbelow hchild (Nat.sub_le _ 1)]
    constructor
    · rintro ⟨hlength, hall⟩
      exact ⟨by omega, by omega, hall⟩
    · rintro ⟨hpos, hlength, hall⟩
      exact ⟨by omega, hall⟩

/-- A pattern with a run in the middle, and a path with more slashes than it needs. -/
theorem acceptsPath_users : ¬ hasSuffix "/*" "/api/*/users" ∧ ¬ hasSuffix "/?" "/api/*/users" ∧
    Relation.EqvGen AddsSlash "/api/v1/users//7/" "/api/v1/users/7" ∧
      acceptsPath ("/api/*/users" ++ "/*") "/api/v1/users//7/" ∧
        acceptsPath ("/api/*/users" ++ "/?") "/api/v1/users/7" := by
  have hbelow : ¬ hasSuffix "/*" "/api/*/users" := by decide
  have hchild : ¬ hasSuffix "/?" "/api/*/users" := by decide
  have hslashes : Relation.EqvGen AddsSlash "/api/v1/users//7/" "/api/v1/users/7" :=
    .trans _ _ _ (.symm _ _ (.rel _ _ (.stop "/api/v1/users//7")))
      (.symm _ _ (.rel _ _ (.beside "/api/v1/users" "7")))
  obtain ⟨hforms, hsame⟩ := acceptsPath_forms "/api/v1/users//7/"
  obtain ⟨hsubtree, hitem⟩ := hforms "/api/*/users" hbelow hchild
  refine ⟨hbelow, hchild, hslashes, ?_, ?_⟩
  · exact hsubtree.2 ⟨3, by decide, by decide⟩
  · rw [← hsame _ _ hslashes]
    exact hitem.2 ⟨by decide, by decide⟩

end ApiKinds.Glob
