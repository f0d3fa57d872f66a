/-
  Singular and plural of a word.

  * `singular_append`: the singular looks at the last four letters only.
  * `singular_append_es`, `singular_append_s`: what the singular makes of what the plural adds.
  * `singular_plural_iff`: the words that the singular gives back, which are all but those in
    `-ie`, `-se`, `-xe`, `-ze`, `-che` and `-she`.
-/
import ApiKinds.Word
import ApiKinds.Proofs.Text

namespace ApiKinds.Word

open Text

/-! ## Endings -/

theorem dropLast_append (s tail : String) : dropLast tail.length (s ++ tail) = s := by
  simp [dropLast, ← String.length_toList]

theorem dropLast_append_of_le {n : Nat} {s : String} (h : n ≤ s.length) (front : String) :
    dropLast n (front ++ s) = front ++ dropLast n s := by
  have hlength : (front ++ s).toList.length - n = front.toList.length + (s.toList.length - n) := by
    rw [String.toList_append, List.length_append, s.length_toList]
    omega
  rw [dropLast, hlength, String.toList_append, List.take_length_add_append, String.ofList_append,
    String.ofList_toList, dropLast]

theorem singular_ies (stem : String) : singular (stem ++ "ies") = stem ++ "y" := by
  rw [singular, dropSuffix?_append]

theorem singular_of_not_ies {s : String} (h : ¬ hasSuffix "ies" s) :
    singular s =
      if sibilantEndings.any (hasSuffix · s) then dropLast 2 s
      else if hasSuffix "s" s && !hasSuffix "ss" s then dropLast 1 s
      else s := by
  rw [singular, dropSuffix?_of_not_hasSuffix h]

theorem length_le_of_mem_sibilantEndings {ending : String} (h : ending ∈ sibilantEndings) :
    ending.length ≤ 4 := by
  simp only [sibilantEndings, List.mem_cons, List.not_mem_nil, or_false] at h
  rcases h with rfl | rfl | rfl | rfl | rfl | rfl <;> decide

/-- The singular looks at the last four letters only. -/
theorem singular_append {ending : String} (h : 4 ≤ ending.length) (front : String) :
    singular (front ++ ending) = front ++ singular ending := by
  have hcut (short : String) (hshort : short.length ≤ 4) :
      hasSuffix short (front ++ ending) = hasSuffix short ending :=
    hasSuffix_append_of_le (hshort.trans h) front
  have hsibilant : sibilantEndings.any (hasSuffix · (front ++ ending)) =
      sibilantEndings.any (hasSuffix · ending) := by
    rw [Bool.eq_iff_iff, List.any_eq_true, List.any_eq_true]
    refine exists_congr fun plural => and_congr_right fun hmem => ?_
    rw [hcut plural (length_le_of_mem_sibilantEndings hmem)]
  by_cases hies : hasSuffix "ies" ending
  · obtain ⟨stem, rfl⟩ := hasSuffix_iff.1 hies
    rw [singular_ies, ← String.append_assoc, singular_ies, String.append_assoc]
  have hies' : ¬ hasSuffix "ies" (front ++ ending) := by
    rwa [hcut "ies" (by decide)]
  rw [singular_of_not_ies hies, singular_of_not_ies hies', hsibilant, hcut "s" (by decide),
    hcut "ss" (by decide)]
  split
  · exact dropLast_append_of_le (by omega) front
  split
  · exact dropLast_append_of_le (by omega) front
  · rfl

/-! ## The singular of a plural -/

/-- The endings whose last letter the singular takes away with the `s` of the plural. -/
def lostEndings : List String :=
  ["ie", "se", "xe", "ze", "che", "she"]

theorem getLast?_of_mem_lostEndings {ending : String} (h : ending ∈ lostEndings) :
    ending.toList.getLast? = some 'e' := by
  simp only [lostEndings, List.mem_cons, List.not_mem_nil, or_false] at h
  rcases h with rfl | rfl | rfl | rfl | rfl | rfl <;> rfl

variable {s : String}

/-- A text with another last letter has none of these endings. -/
theorem not_hasSuffix_of_getLast? {c : Char} {ending : String} (hlast : s.toList.getLast? = some c)
    (hc : c ≠ 'e') (h : ending ∈ lostEndings) : ¬ hasSuffix ending s := by
  intro hsuffix
  have he := getLast?_of_hasSuffix (getLast?_of_mem_lostEndings h) hsuffix
  rw [hlast, Option.some.injEq] at he
  exact hc he

/-- The plural adds an `es`. -/
def TakesEs (s : String) : Prop :=
  hasSuffix "s" s ∨ hasSuffix "x" s ∨ hasSuffix "ch" s

theorem TakesEs.exists_getLast? (h : TakesEs s) :
    ∃ c, s.toList.getLast? = some c ∧ c ≠ 'e' ∧ c ≠ 'i' := by
  rcases h with h | h | h
  · exact ⟨'s', getLast?_of_hasSuffix rfl h, by decide⟩
  · exact ⟨'x', getLast?_of_hasSuffix rfl h, by decide⟩
  · exact ⟨'h', getLast?_of_hasSuffix rfl h, by decide⟩

/-- This `es` stands behind a sibilant, so the singular takes it away. -/
theorem singular_append_es (h : TakesEs s) : singular (s ++ "es") = s := by
  have hcut (ending : String) : hasSuffix (ending ++ "es") (s ++ "es") = hasSuffix ending s :=
    hasSuffix_append_append ending s "es"
  have hies : ¬ hasSuffix "ies" (s ++ "es") := by
    intro hies
    obtain ⟨c, hlast, -, hc⟩ := h.exists_getLast?
    have hi := getLast?_of_hasSuffix (c := 'i') rfl ((hcut "i").symm.trans hies)
    rw [hlast, Option.some.injEq] at hi
    exact hc hi
  have hsibilant : sibilantEndings.any (hasSuffix · (s ++ "es")) := by
    rw [List.any_eq_true]
    rcases h with h | h | h
    · exact ⟨"s" ++ "es", by decide, (hcut "s").trans h⟩
    · exact ⟨"x" ++ "es", by decide, (hcut "x").trans h⟩
    · exact ⟨"ch" ++ "es", by decide, (hcut "ch").trans h⟩
  rw [singular_of_not_ies hies, if_pos hsibilant]
  exact dropLast_append s "es"

/-- The `s` of a plural makes a sibilant ending of all of these endings but the first. -/
theorem any_sibilantEndings_iff : sibilantEndings.any (hasSuffix · (s ++ "s")) ↔
    ∃ ending ∈ lostEndings.tail, hasSuffix ending s := by
  have hendings : sibilantEndings = ("sse" :: lostEndings.tail).map (· ++ "s") := rfl
  rw [hendings, List.any_map, List.any_eq_true]
  simp only [Function.comp_apply, hasSuffix_append_append]
  constructor
  · rintro ⟨ending, hmem, hsuffix⟩
    rcases List.mem_cons.1 hmem with rfl | hmem
    · obtain ⟨front, rfl⟩ := hasSuffix_iff.1 hsuffix
      have hse : hasSuffix "se" (front ++ "s" ++ "se") := hasSuffix_iff.2 ⟨front ++ "s", rfl⟩
      exact ⟨"se", by decide, by rwa [String.append_assoc] at hse⟩
    · exact ⟨ending, hmem, hsuffix⟩
  · rintro ⟨ending, hmem, hsuffix⟩
    exact ⟨ending, List.mem_cons_of_mem _ hmem, hsuffix⟩

theorem singular_append_ies_ne (stem : String) : singular (stem ++ "ie" ++ "s") ≠ stem ++ "ie" := by
  intro heq
  have hies : stem ++ "ie" ++ "s" = stem ++ "ies" := by rw [String.append_assoc]; rfl
  rw [hies, singular_ies] at heq
  have hlength : "y".length = "ie".length := by simpa using congrArg String.length heq
  exact absurd hlength (by decide)

/-- The letter before an `s` is missed where both are taken away. -/
theorem dropLast_two_append_s_ne {ending : String} (hmem : ending ∈ lostEndings)
    (hsuffix : hasSuffix ending s) : dropLast 2 (s ++ "s") ≠ s := by
  intro heq
  have hlast := getLast?_of_hasSuffix (getLast?_of_mem_lostEndings hmem) hsuffix
  have hpos : 0 < s.toList.length := List.length_pos_of_mem (List.mem_of_getLast? hlast)
  have hlength : (dropLast 2 (s ++ "s")).toList.length = s.toList.length - 1 := by
    simp [dropLast]
    omega
  rw [heq] at hlength
  omega

/-- An `s` behind another letter is all that the singular takes away, or it goes with the letter
    before it. -/
theorem singular_append_s (h : ¬ hasSuffix "s" s) :
    singular (s ++ "s") = s ↔ ∀ ending ∈ lostEndings, ¬ hasSuffix ending s := by
  have hcut (ending : String) : hasSuffix (ending ++ "s") (s ++ "s") = hasSuffix ending s :=
    hasSuffix_append_append ending s "s"
  by_cases hie : hasSuffix "ie" s
  · obtain ⟨stem, rfl⟩ := hasSuffix_iff.1 hie
    exact iff_of_false (singular_append_ies_ne stem) fun hall => hall "ie" (by decide) hie
  have hies : ¬ hasSuffix "ies" (s ++ "s") := by
    rwa [← hcut "ie"] at hie
  rw [singular_of_not_ies hies]
  by_cases hsibilant : sibilantEndings.any (hasSuffix · (s ++ "s"))
  · obtain ⟨ending, htail, hsuffix⟩ := any_sibilantEndings_iff.1 hsibilant
    have hmem : ending ∈ lostEndings := List.mem_of_mem_tail htail
    rw [if_pos hsibilant]
    exact iff_of_false (dropLast_two_append_s_ne hmem hsuffix) fun hall =>
      hall ending hmem hsuffix
  · have hs : hasSuffix "s" (s ++ "s") := hasSuffix_iff.2 ⟨s, rfl⟩
    have hss : hasSuffix "ss" (s ++ "s") = false := by
      rw [← Bool.not_eq_true]
      rwa [← hcut "s"] at h
    have hback : dropLast 1 (s ++ "s") = s := dropLast_append s "s"
    simp only [hsibilant, hs, hss, hback]
    refine iff_of_true rfl fun ending hmem hsuffix => ?_
    rcases List.mem_cons.1 hmem with rfl | htail
    · exact hie hsuffix
    · exact hsibilant (any_sibilantEndings_iff.2 ⟨ending, htail, hsuffix⟩)

/-- **The singular of the plural is the word itself** just if the word has none of the endings
    whose last letter gets lost. -/
theorem singular_plural_iff (s : String) :
    singular (plural s) = s ↔ ∀ ending ∈ lostEndings, ∀ stem, s ≠ stem ++ ending := by
  have hspelled : (∀ ending ∈ lostEndings, ∀ stem, s ≠ stem ++ ending) ↔
      ∀ ending ∈ lostEndings, ¬ hasSuffix ending s := by
    simp only [hasSuffix_iff, not_exists, ne_eq]
  rw [hspelled, plural]
  by_cases hy : hasSuffix "y" s
  · have hlast := getLast?_of_hasSuffix (c := 'y') rfl hy
    obtain ⟨stem, rfl⟩ := hasSuffix_iff.1 hy
    rw [dropSuffix?_append]
    refine iff_of_true (singular_ies stem) fun ending hmem => ?_
    exact not_hasSuffix_of_getLast? hlast (by decide) hmem
  rw [dropSuffix?_of_not_hasSuffix hy]
  have hadds : (hasSuffix "s" s || hasSuffix "x" s || hasSuffix "ch" s) = true ↔ TakesEs s := by
    simp only [Bool.or_eq_true, TakesEs, or_assoc]
  by_cases hes : TakesEs s
  · obtain ⟨c, hlast, hc, -⟩ := hes.exists_getLast?
    simp only [hadds.2 hes, if_true]
    refine iff_of_true (singular_append_es hes) fun ending hmem => ?_
    exact not_hasSuffix_of_getLast? hlast hc hmem
  · simp only [hadds, hes, if_false]
    exact singular_append_s fun hs => hes (.inl hs)

end ApiKinds.Word
