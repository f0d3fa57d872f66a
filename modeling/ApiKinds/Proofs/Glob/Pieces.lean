/-
  What a pattern says of a text, sign by sign.

  * `Takes`: the pieces of text that one sign stands for.
  * `Splits`: a text is cut into such pieces, one for each sign of a pattern in their order.
  * `answers_tails`: the matcher answers for every rest of a text whether it is cut so;
    `accepts_iff` is the answer for the whole text.
-/
import ApiKinds.Glob
import Mathlib.Data.List.Forall2
import Mathlib.Data.List.Infix

namespace ApiKinds.Glob

/-! ## Pieces -/

/-- A piece of text that a sign stands for. -/
inductive Takes : Char → List Char → Prop
  | run {piece : List Char} : '\n' ∉ piece → Takes '*' piece
  | any {c : Char} : c ≠ '\n' → Takes '?' [c]
  | self {sign : Char} : sign ≠ '*' → sign ≠ '?' → Takes sign [sign]

/-- A text is cut into pieces, one for each sign of a pattern. -/
def Splits (pattern text : List Char) : Prop :=
  ∃ pieces : List (List Char), pieces.flatten = text ∧ List.Forall₂ Takes pattern pieces

theorem takes_star_iff {piece : List Char} : Takes '*' piece ↔ '\n' ∉ piece := by
  constructor
  · intro h
    cases h with
    | run hpiece => exact hpiece
    | self hstar _ => exact absurd rfl hstar
  · exact .run

/-- Every other sign stands for one character. -/
theorem takes_iff_acceptsChar {sign : Char} (hsign : sign ≠ '*') {piece : List Char} :
    Takes sign piece ↔ ∃ c, acceptsChar sign c ∧ piece = [c] := by
  constructor
  · intro h
    cases h with
    | run => exact absurd rfl hsign
    | @any c hc => exact ⟨c, by simpa [acceptsChar] using hc, rfl⟩
    | self _ hany => exact ⟨sign, by simp [acceptsChar, hany], rfl⟩
  · rintro ⟨c, hc, rfl⟩
    rw [acceptsChar] at hc
    split at hc
    · next hany =>
      subst hany
      exact .any (by simpa using hc)
    · next hany =>
      obtain rfl := beq_iff_eq.1 hc
      exact .self hsign hany

section
variable {sign : Char} {pattern text : List Char}

theorem splits_nil_iff : Splits [] text ↔ text = [] := by
  constructor
  · rintro ⟨pieces, rfl, hpieces⟩
    cases hpieces
    rfl
  · rintro rfl
    exact ⟨[], rfl, .nil⟩

/-- The first sign of a pattern takes the first piece. -/
theorem splits_cons_iff : Splits (sign :: pattern) text ↔
    ∃ piece rest, piece ++ rest = text ∧ Takes sign piece ∧ Splits pattern rest := by
  constructor
  · rintro ⟨pieces, rfl, hpieces⟩
    cases hpieces with
    | @cons _ piece _ others hpiece hothers =>
      exact ⟨piece, others.flatten, rfl, hpiece, others, rfl, hothers⟩
  · rintro ⟨piece, _, rfl, hpiece, others, rfl, hothers⟩
    exact ⟨piece :: others, rfl, .cons hpiece hothers⟩

theorem splits_star_nil_iff : Splits ('*' :: pattern) [] ↔ Splits pattern [] := by
  rw [splits_cons_iff]
  constructor
  · rintro ⟨piece, rest, htext, -, hrest⟩
    rwa [(List.append_eq_nil_iff.1 htext).2] at hrest
  · intro h
    exact ⟨[], [], rfl, .run List.not_mem_nil, h⟩

/-- A run is empty, or takes the first character and goes on behind it. -/
theorem splits_star_cons_iff {c : Char} : Splits ('*' :: pattern) (c :: text) ↔
    Splits pattern (c :: text) ∨ c ≠ '\n' ∧ Splits ('*' :: pattern) text := by
  simp only [splits_cons_iff, takes_star_iff]
  constructor
  · rintro ⟨piece, rest, htext, hpiece, hrest⟩
    cases piece with
    | nil => exact .inl (htext ▸ hrest)
    | cons d piece =>
      obtain ⟨rfl, hbehind⟩ := List.cons.inj htext
      rw [List.mem_cons, not_or] at hpiece
      exact .inr ⟨Ne.symm hpiece.1, piece, rest, hbehind, hpiece.2, hrest⟩
  · rintro (h | ⟨hc, piece, rest, rfl, hpiece, hrest⟩)
    · exact ⟨[], c :: text, rfl, List.not_mem_nil, h⟩
    · refine ⟨c :: piece, rest, rfl, ?_, hrest⟩
      rw [List.mem_cons, not_or]
      exact ⟨Ne.symm hc, hpiece⟩

section
variable (hsign : sign ≠ '*')
include hsign

theorem not_splits_nil : ¬ Splits (sign :: pattern) [] := by
  rw [splits_cons_iff]
  rintro ⟨piece, rest, htext, hpiece, -⟩
  obtain ⟨c, -, rfl⟩ := (takes_iff_acceptsChar hsign).1 hpiece
  cases htext

theorem splits_char_cons_iff {c : Char} :
    Splits (sign :: pattern) (c :: text) ↔ acceptsChar sign c ∧ Splits pattern text := by
  simp only [splits_cons_iff, takes_iff_acceptsChar hsign]
  constructor
  · rintro ⟨_, rest, htext, ⟨d, hd, rfl⟩, hrest⟩
    obtain ⟨rfl, rfl⟩ := List.cons.inj htext
    exact ⟨hd, hrest⟩
  · rintro ⟨hc, hrest⟩
    exact ⟨[c], text, rfl, ⟨c, hc, rfl⟩, hrest⟩

end

end

/-! ## Answers -/

/-- An answer says whether a rest of the text is cut into the pieces of a pattern. -/
def Answers (pattern : List Char) (answer : Bool) (rest : List Char) : Prop :=
  answer = true ↔ Splits pattern rest

section
variable {sign : Char} {pattern text : List Char} {answered : List Bool}

theorem tails_eq_cons (text : List Char) : ∃ rests, text.tails = text :: rests := by
  cases text with
  | nil => exact ⟨[], rfl⟩
  | cons c text => exact ⟨text.tails, List.tails_cons ..⟩

/-- The first answer is that for the whole text. -/
theorem headD_answered (h : List.Forall₂ (Answers pattern) answered text.tails) :
    answered.headD false = true ↔ Splits pattern text := by
  obtain ⟨rests, hrests⟩ := tails_eq_cons text
  rw [hrests] at h
  cases h with
  | cons hanswer _ => exact hanswer

theorem runAnswers_tails (h : List.Forall₂ (Answers pattern) answered text.tails) :
    List.Forall₂ (Answers ('*' :: pattern)) (runAnswers text answered) text.tails := by
  induction text generalizing answered with
  | nil =>
    rw [List.tails] at h ⊢
    cases h with
    | cons hanswer hnone =>
      cases hnone
      exact .cons (hanswer.trans splits_star_nil_iff.symm) .nil
  | cons c text ih =>
    rw [List.tails_cons] at h ⊢
    cases h with
    | @cons answer _ behind _ hanswer hbehind =>
      have hrun := ih hbehind
      refine .cons ?_ hrun
      rw [Answers] at hanswer ⊢
      rw [splits_star_cons_iff, ← headD_answered hrun, ← hanswer]
      simp

theorem charAnswers_tails (hsign : sign ≠ '*')
    (h : List.Forall₂ (Answers pattern) answered text.tails) :
    List.Forall₂ (Answers (sign :: pattern)) (charAnswers sign text answered) text.tails := by
  induction text generalizing answered with
  | nil =>
    rw [List.tails]
    exact .cons (by simp [Answers, not_splits_nil hsign]) .nil
  | cons c text ih =>
    rw [List.tails_cons] at h ⊢
    cases h with
    | @cons answer _ behind _ _ hbehind =>
      refine .cons ?_ (ih hbehind)
      rw [Answers, splits_char_cons_iff hsign, ← headD_answered hbehind, Bool.and_eq_true]

/-- **The matcher answers for each rest of a text.** -/
theorem answers_tails (pattern text : List Char) :
    List.Forall₂ (Answers pattern) (answers pattern text) text.tails := by
  induction pattern with
  | nil =>
    induction text with
    | nil => exact .cons (by simp [Answers, splits_nil_iff]) .nil
    | cons c text ih =>
      rw [List.tails_cons]
      exact .cons (by simp [Answers, splits_nil_iff]) ih
  | cons sign pattern ih =>
    rw [answers]
    split
    · next hstar =>
      subst hstar
      exact runAnswers_tails ih
    · next hsign => exact charAnswers_tails hsign ih

end

theorem accepts_iff {pattern text : String} :
    accepts pattern text ↔ Splits pattern.toList text.toList :=
  headD_answered (answers_tails pattern.toList text.toList)

end ApiKinds.Glob
