/-
  Patterns written as regular expressions.

  * `Sign`: what such expressions are made of. `Found` says what an expression is found in.
  * `Engine`: something that compiles expressions and searches texts for them;
    `Engine.Documented`: it finds what the signs say.
  * `Engine.accepts`: a pattern without wildcards is the text itself, any other is escaped, put
    between anchors and searched for.
  * `accepts_iff_splits`: by the matcher and by every such engine a text is accepted just if it
    is cut into the pieces that the signs of the pattern stand for.
-/
import ApiKinds.Proofs.Glob.Pieces

namespace ApiKinds.Glob

/-! ## Expressions -/

/-- A sign of an expression. -/
inductive Sign where
  /-- The start of the text: `^`. -/
  | start
  /-- The end of the text: `$`. -/
  | stop
  /-- A character other than a line feed: `.`. -/
  | any
  /-- A run of such characters: `.*`. -/
  | run
  /-- A character that stands for itself. -/
  | self (c : Char)
deriving DecidableEq, Repr

/-- The piece of a text that a sign matches, between what is before and after it. -/
inductive Sign.Matches : Sign → List Char → List Char → List Char → Prop
  | start {after} : Matches .start [] [] after
  | stop {before} : Matches .stop before [] []
  | any {before c after} : c ≠ '\n' → Matches .any before [c] after
  | run {before piece after} : '\n' ∉ piece → Matches .run before piece after
  | self {before c after} : Matches (.self c) before [c] after

/-- The part of a text that signs match one behind the other. -/
inductive Spans : List Sign → List Char → List Char → List Char → Prop
  | nil {before after} : Spans [] before [] after
  | cons {sign signs before piece rest after} : sign.Matches before piece (rest ++ after) →
      Spans signs (before ++ piece) rest after → Spans (sign :: signs) before (piece ++ rest) after

/-- Some part of the text is matched. -/
def Found (signs : List Sign) (text : List Char) : Prop :=
  ∃ before part after, before ++ part ++ after = text ∧ Spans signs before part after

/-- Compiles regular expressions. -/
structure Engine where
  /-- How a character is written that stands for itself. -/
  escape : Char → String
  /-- The search for an expression, unless it cannot be compiled. -/
  compile? : String → Option (String → Bool)

namespace Engine

def sign (engine : Engine) : Sign → String
  | .start => "^"
  | .stop => "$"
  | .any => "."
  | .run => ".*"
  | .self c => engine.escape c

/-- An expression as it is written. -/
def written (engine : Engine) (signs : List Sign) : String :=
  .ofList (signs.flatMap fun sign => (engine.sign sign).toList)

/-- A search finds what the signs of its expression say. -/
structure Documented (engine : Engine) : Prop where
  finds : ∀ signs search, engine.compile? (engine.written signs) = some search →
    ∀ text, search text = true ↔ Found signs text.toList

end Engine

/-! ## Patterns -/

def isWildcard (sign : Char) : Bool :=
  sign == '*' || sign == '?'

/-- The sign of an expression for a sign of a pattern. -/
def Sign.ofChar (sign : Char) : Sign :=
  if sign = '*' then .run else if sign = '?' then .any else .self sign

/-- The expression for a pattern, which the whole text has to match. -/
def anchored (pattern : List Char) : List Sign :=
  .start :: pattern.map Sign.ofChar ++ [.stop]

/-- Whether a text has the form of a pattern, by the search for its expression. -/
def Engine.accepts (engine : Engine) (pattern text : String) : Bool :=
  if pattern.toList.any isWildcard then
    match engine.compile? (engine.written (anchored pattern.toList)) with
    | some search => search text
    | none => false
  else pattern == text

section
variable {pattern text before after : List Char}

theorem spans_nil_iff : Spans [] before text after ↔ text = [] := by
  constructor
  · intro h
    cases h
    rfl
  · rintro rfl
    exact .nil

theorem spans_cons_iff {sign : Sign} {signs : List Sign} :
    Spans (sign :: signs) before text after ↔ ∃ piece rest, piece ++ rest = text ∧
      sign.Matches before piece (rest ++ after) ∧ Spans signs (before ++ piece) rest after := by
  constructor
  · intro h
    cases h with
    | @cons _ _ _ piece rest _ hpiece hrest => exact ⟨piece, rest, rfl, hpiece, hrest⟩
  · rintro ⟨piece, rest, rfl, hpiece, hrest⟩
    exact .cons hpiece hrest

/-- A sign of a pattern is written as one that matches the pieces it stands for. -/
theorem matches_ofChar_iff {sign : Char} {piece : List Char} :
    (Sign.ofChar sign).Matches before piece after ↔ Takes sign piece := by
  rw [Sign.ofChar]
  split
  · next hrun =>
    subst hrun
    rw [takes_star_iff]
    constructor
    · intro h
      cases h with
      | run hpiece => exact hpiece
    · exact .run
  split
  · next hany =>
    subst hany
    constructor
    · intro h
      cases h with
      | any hc => exact .any hc
    · intro h
      cases h with
      | any hc => exact .any hc
      | self _ hne => exact absurd rfl hne
  · next hrun hany =>
    constructor
    · intro h
      cases h
      exact .self hrun hany
    · intro h
      cases h with
      | run => exact absurd rfl hrun
      | any => exact absurd rfl hany
      | self => exact .self

/-- Up to the end of the text the signs of a pattern match what is cut into its pieces. -/
theorem spans_ofChar_iff :
    Spans (pattern.map Sign.ofChar ++ [.stop]) before text after ↔
      after = [] ∧ Splits pattern text := by
  induction pattern generalizing before text with
  | nil =>
    rw [List.map_nil, List.nil_append, spans_cons_iff, splits_nil_iff]
    constructor
    · rintro ⟨piece, rest, rfl, hstop, hrest⟩
      obtain rfl := spans_nil_iff.1 hrest
      cases hstop
      exact ⟨rfl, rfl⟩
    · rintro ⟨rfl, rfl⟩
      exact ⟨[], [], rfl, .stop, .nil⟩
  | cons sign pattern ih =>
    simp only [List.map_cons, List.cons_append, spans_cons_iff, splits_cons_iff,
      matches_ofChar_iff, ih]
    constructor
    · rintro ⟨piece, rest, htext, hpiece, hafter, hrest⟩
      exact ⟨hafter, piece, rest, htext, hpiece, hrest⟩
    · rintro ⟨hafter, piece, rest, htext, hpiece, hrest⟩
      exact ⟨piece, rest, htext, hpiece, hafter, hrest⟩

/-- Between its anchors a pattern is found just in the texts that are cut into its pieces. -/
theorem found_anchored_iff : Found (anchored pattern) text ↔ Splits pattern text := by
  rw [Found, anchored]
  constructor
  · rintro ⟨before, part, after, rfl, hspans⟩
    rw [List.cons_append, spans_cons_iff] at hspans
    obtain ⟨piece, rest, rfl, hstart, hrest⟩ := hspans
    cases hstart
    obtain ⟨rfl, hsplits⟩ := spans_ofChar_iff.1 hrest
    simpa using hsplits
  · intro h
    refine ⟨[], text, [], by simp, ?_⟩
    rw [List.cons_append, spans_cons_iff]
    exact ⟨[], text, rfl, .start, spans_ofChar_iff.2 ⟨rfl, h⟩⟩

/-- Without wildcards a pattern stands for itself. -/
theorem splits_iff_eq (h : ¬ pattern.any isWildcard) : Splits pattern text ↔ pattern = text := by
  induction pattern generalizing text with
  | nil => rw [splits_nil_iff, eq_comm]
  | cons sign pattern ih =>
    rw [List.any_cons, Bool.or_eq_true, not_or] at h
    obtain ⟨hsign, hpattern⟩ := h
    simp only [isWildcard, Bool.or_eq_true, beq_iff_eq, not_or] at hsign
    cases text with
    | nil => simp [not_splits_nil hsign.1]
    | cons c text =>
      rw [splits_char_cons_iff hsign.1, ih hpattern, acceptsChar, if_neg hsign.2, beq_iff_eq,
        List.cons.injEq]

end

theorem Engine.Documented.accepts_iff {engine : Engine} (h : engine.Documented)
    {pattern text : String}
    (hcompiles : (engine.compile? (engine.written (anchored pattern.toList))).isSome) :
    engine.accepts pattern text ↔ Splits pattern.toList text.toList := by
  obtain ⟨search, hsearch⟩ := Option.isSome_iff_exists.1 hcompiles
  rw [Engine.accepts, hsearch]
  split
  · exact (h.finds _ _ hsearch text).trans found_anchored_iff
  · next hplain => rw [beq_iff_eq, splits_iff_eq hplain, String.toList_inj]

/-- **A text has the form of a pattern just if it is cut into pieces, one for each sign**, whether
    the pattern is matched as it stands or written as an expression and searched for. -/
theorem accepts_iff_splits (pattern text : String) :
    (accepts pattern text ↔ Splits pattern.toList text.toList) ∧
      ∀ engine : Engine, engine.Documented →
        (engine.compile? (engine.written (anchored pattern.toList))).isSome →
          (engine.accepts pattern text ↔ Splits pattern.toList text.toList) :=
  ⟨accepts_iff, fun _ hdocumented hcompiles => hdocumented.accepts_iff hcompiles⟩

/-! ## A plain engine -/

/-- The characters that are escaped to stand for themselves. -/
def metaCharacters : List Char :=
  "\\.+*?()|[]\x7b\x7d^$#&-~".toList

/-- The signs that an expression is written with. -/
def readSigns? : List Char → Option (List Sign)
  | [] => some []
  | '^' :: rest => (readSigns? rest).map (.start :: ·)
  | '$' :: rest => (readSigns? rest).map (.stop :: ·)
  | '.' :: '*' :: rest => (readSigns? rest).map (.run :: ·)
  | '.' :: rest => (readSigns? rest).map (.any :: ·)
  | '\\' :: c :: rest =>
    if c ∈ metaCharacters then (readSigns? rest).map (.self c :: ·) else none
  | c :: rest => if c ∈ metaCharacters then none else (readSigns? rest).map (.self c :: ·)

open Classical in
/-- An engine for expressions of these signs only. -/
noncomputable def Engine.plain : Engine where
  escape c := .ofList (if c ∈ metaCharacters then ['\\', c] else [c])
  compile? expression :=
    (readSigns? expression.toList).map fun signs text => decide (Found signs text.toList)

theorem written_cons (engine : Engine) (sign : Sign) (signs : List Sign) :
    (engine.written (sign :: signs)).toList =
      (engine.sign sign).toList ++ (engine.written signs).toList := by
  simp [Engine.written]

/-- No sign is written with `*` in front, which would make a run of the sign before it. -/
theorem head?_written (signs : List Sign) :
    (Engine.plain.written signs).toList.head? ≠ some '*' := by
  cases signs with
  | nil => simp [Engine.written]
  | cons sign signs =>
    rw [written_cons]
    cases sign with
    | self c =>
      by_cases hc : c ∈ metaCharacters
      · simp [Engine.sign, Engine.plain, hc]
      · have hne : c ≠ '*' := by
          rintro rfl
          exact hc (by decide)
        simp [Engine.sign, Engine.plain, hc, hne]
    | _ => simp [Engine.sign]

/-- A sign is read again, if what is behind it does not make a run of it. -/
theorem readSigns?_sign (sign : Sign) {rest : List Char} (hrest : rest.head? ≠ some '*') :
    readSigns? ((Engine.plain.sign sign).toList ++ rest) = (readSigns? rest).map (sign :: ·) := by
  cases sign with
  | start => rfl
  | stop => rfl
  | run => rfl
  | any =>
    cases rest with
    | nil => rfl
    | cons c rest =>
      have hc : c ≠ '*' := by simpa using hrest
      simp [Engine.sign, readSigns?, hc]
  | self c =>
    by_cases hc : c ∈ metaCharacters
    · simp [Engine.sign, Engine.plain, readSigns?, hc]
    · have hne : ∀ d ∈ metaCharacters, c ≠ d := by
        rintro d hd rfl
        exact hc hd
      have hstart := hne '^' (by decide)
      have hstop := hne '$' (by decide)
      have hany := hne '.' (by decide)
      have hescape := hne '\\' (by decide)
      simp [Engine.sign, Engine.plain, readSigns?, hc, hany, hescape]

theorem readSigns?_written (signs : List Sign) :
    readSigns? (Engine.plain.written signs).toList = some signs := by
  induction signs with
  | nil => rfl
  | cons sign signs ih => rw [written_cons, readSigns?_sign sign (head?_written signs), ih]; rfl

open Classical in
theorem documented_plain : Engine.plain.Documented where
  finds signs search hsearch text := by
    have hcompiled : (readSigns? (Engine.plain.written signs).toList).map _ = some search := hsearch
    rw [readSigns?_written, Option.map_some, Option.some.injEq] at hcompiled
    rw [← hcompiled]
    exact decide_eq_true_iff

/-- A pattern with characters that an expression has to escape. -/
theorem accepts_braces : Engine.plain.Documented ∧
    (Engine.plain.compile? (Engine.plain.written (anchored "v?.\x7bid\x7d*".toList))).isSome ∧
      Engine.plain.accepts "v?.\x7bid\x7d*" "v2.\x7bid\x7d/x" ∧
      ¬ Engine.plain.accepts "v?.\x7bid\x7d*" "v2-\x7bid\x7d/x" := by
  have hcompiles : ∀ signs, (Engine.plain.compile? (Engine.plain.written signs)).isSome := by
    intro signs
    have hread := congrArg Option.isSome (readSigns?_written signs)
    rwa [← Option.isSome_map] at hread
  have hengine := fun text => (accepts_iff_splits "v?.\x7bid\x7d*" text).2 Engine.plain
    documented_plain (hcompiles _)
  have hmatcher := fun text => (accepts_iff_splits "v?.\x7bid\x7d*" text).1
  refine ⟨documented_plain, hcompiles _, ?_, ?_⟩
  · exact (hengine _).2 ((hmatcher _).1 (by decide))
  · exact fun h => absurd ((hmatcher _).2 ((hengine _).1 h)) (by decide)

end ApiKinds.Glob
