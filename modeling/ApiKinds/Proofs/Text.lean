/-
  Texts that are cut and put together again, and texts whose ends are trimmed.

  * `splitOn_join`: pieces without separator are what their join is cut into.
  * `toList_join_empty`: pieces that are joined by nothing stand one behind the other.
  * `dropPrefix?_eq_some_iff`, `splitOnce_eq_some_iff`: a text that is cut once is put together
    again; `contains_iff`: a text that contains another is put together around it.
  * `trimEnds_of_ends`: a text whose ends stay is trimmed to itself.
  * `splitOn_append`, `trimEnds_append`: what a piece put at the end of a text changes.
  * `hasSuffix_append_of_le`: an end that is long enough decides which suffixes a text has.
-/
import ApiKinds.Text.Basic
import Mathlib.Data.List.DropRight
import Mathlib.Data.List.TakeDrop

namespace ApiKinds.Text

/-! ## Splitting and joining -/

section
variable {sep : Char → Bool}

theorem pieces_eq_splitOnP (sep : Char → Bool) (s : List Char) : pieces sep s = s.splitOnP sep := by
  induction s with
  | nil => exact (List.splitOnP_nil ..).symm
  | cons c rest ih =>
    rw [pieces, List.splitOnP_cons_eq_if_modifyHead, ← ih]
    split
    · rfl
    · cases hpieces : pieces sep rest with
      | nil => exact absurd hpieces (pieces_ne_nil sep rest)
      | cons piece others => rfl

theorem sep_eq_false_of_mem_pieces {s piece : List Char} (h : piece ∈ pieces sep s) :
    ∀ c ∈ piece, sep c = false := by
  induction s generalizing piece with
  | nil =>
    rw [pieces, List.mem_singleton] at h
    simp [h]
  | cons c rest ih =>
    rw [pieces] at h
    split at h
    · rcases List.mem_cons.1 h with rfl | h
      · simp
      · exact ih h
    · next hsep =>
      split at h
      · next hpieces => exact absurd hpieces (pieces_ne_nil sep rest)
      · next first others hpieces =>
        rcases List.mem_cons.1 h with rfl | h
        · intro d hd
          rcases List.mem_cons.1 hd with rfl | hd
          · simpa using hsep
          · exact ih (hpieces ▸ List.mem_cons_self) d hd
        · exact ih (hpieces ▸ List.mem_cons_of_mem _ h)

/-- The first piece of a text that does not start with a separator is not empty. -/
theorem pieces_cons_of_not_sep (sep : Char → Bool) {c : Char} (h : sep c = false) (s : List Char) :
    ∃ piece others, pieces sep (c :: s) = (c :: piece) :: others := by
  rw [pieces, if_neg (by simp [h])]
  split
  · exact ⟨_, _, rfl⟩
  · exact ⟨_, _, rfl⟩

end

theorem not_mem_of_mem_splitOn {sep : Char} {s piece : String} (h : piece ∈ splitOn sep s) :
    sep ∉ piece.toList := by
  obtain ⟨chars, hchars, rfl⟩ := List.mem_map.1 h
  intro hmem
  rw [String.toList_ofList] at hmem
  simpa using sep_eq_false_of_mem_pieces hchars sep hmem

/-- A text is cut at a separator into the pieces before and the pieces behind. -/
theorem splitOn_append_cons (sep : Char) (front back : List Char) :
    splitOn sep (.ofList (front ++ sep :: back)) =
      splitOn sep (.ofList front) ++ splitOn sep (.ofList back) := by
  simp only [splitOn, splitBy, String.toList_ofList, pieces_eq_splitOnP]
  rw [List.splitOnP_append_cons (p := (· == sep)) _ _ (beq_self_eq_true sep), List.map_append]

/-- A text without separator is one piece. -/
theorem splitOn_of_not_mem {sep : Char} {s : String} (h : sep ∉ s.toList) : splitOn sep s = [s] := by
  have hpieces : pieces (· == sep) s.toList = [s.toList] := by
    rw [pieces_eq_splitOnP]
    refine List.splitOnP_eq_singleton fun c hc => beq_eq_false_iff_ne.2 ?_
    rintro rfl
    exact h hc
  rw [splitOn, splitBy, hpieces, List.map_singleton, String.ofList_toList]

/-- What is behind the last separator is one piece more. -/
theorem splitOn_append {sep : Char} {back : List Char} (front : List Char) (hfree : sep ∉ back) :
    splitOn sep (.ofList (front ++ sep :: back)) =
      splitOn sep (.ofList front) ++ [.ofList back] := by
  rw [splitOn_append_cons, splitOn_of_not_mem (s := .ofList back) (by rwa [String.toList_ofList])]

section
variable {c : Char} {sep : String} (hsep : sep.toList = [c])
include hsep

/-- Pieces are found again in their join, if the separator is in none of them. -/
theorem splitOn_join {parts : List String} (hne : parts ≠ [])
    (hfree : ∀ part ∈ parts, c ∉ part.toList) : splitOn c (join sep parts) = parts := by
  have hcut : (List.intercalate [c] (parts.map String.toList)).splitOn c =
      parts.map String.toList := by
    refine List.splitOn_intercalate c ?_ (by simpa using hne)
    intro chars hchars
    obtain ⟨part, hpart, rfl⟩ := List.mem_map.1 hchars
    exact hfree part hpart
  rw [splitOn, splitBy, join, String.toList_ofList, hsep, pieces_eq_splitOnP,
    ← List.splitOn_eq_splitOnP, hcut, List.map_map]
  simp [Function.comp_def]

theorem join_injective {as bs : List String} (ha : as ≠ []) (hb : bs ≠ [])
    (hafree : ∀ part ∈ as, c ∉ part.toList) (hbfree : ∀ part ∈ bs, c ∉ part.toList)
    (h : join sep as = join sep bs) : as = bs := by
  rw [← splitOn_join hsep ha hafree, h, splitOn_join hsep hb hbfree]

end

theorem toList_join_cons (sep first : String) (rest : List String) :
    ∃ back, (join sep (first :: rest)).toList = first.toList ++ back := by
  cases rest with
  | nil => exact ⟨[], by simp [join]⟩
  | cons second rest =>
    exact ⟨_, by rw [join, String.toList_ofList, List.map_cons, List.map_cons,
      List.intercalate_cons_cons, List.append_assoc]⟩

theorem toList_join_concat (sep : String) (before : List String) (last : String) :
    ∃ front, (join sep (before ++ [last])).toList = front ++ last.toList := by
  induction before with
  | nil => exact ⟨[], by simp [join]⟩
  | cons first before ih =>
    obtain ⟨front, hfront⟩ := ih
    refine ⟨first.toList ++ sep.toList ++ front, ?_⟩
    rw [join, String.toList_ofList] at hfront ⊢
    rw [List.cons_append, List.map_cons, List.intercalate_cons_of_ne_nil (by simp), hfront]
    simp

/-- A character of a join is one of the separator or of a piece. -/
theorem mem_of_mem_join {c : Char} {sep : String} {parts : List String}
    (h : c ∈ (join sep parts).toList) : c ∈ sep.toList ∨ ∃ part ∈ parts, c ∈ part.toList := by
  rw [join, String.toList_ofList] at h
  induction parts with
  | nil => cases h
  | cons first rest ih =>
    cases rest with
    | nil => exact .inr ⟨first, List.mem_singleton_self _, by simpa using h⟩
    | cons second rest =>
      rw [List.map_cons, List.map_cons, List.intercalate_cons_cons, List.mem_append,
        List.mem_append] at h
      rcases h with (hfirst | hsep) | hrest
      · exact .inr ⟨first, List.mem_cons_self, hfirst⟩
      · exact .inl hsep
      · exact (ih hrest).imp_right fun ⟨part, hpart, hc⟩ =>
          ⟨part, List.mem_cons_of_mem _ hpart, hc⟩

theorem toList_join_empty (parts : List String) :
    (join "" parts).toList = parts.flatMap String.toList := by
  have hflat : ∀ lists : List (List Char), List.intercalate [] lists = lists.flatten := by
    intro lists
    induction lists with
    | nil => rfl
    | cons list rest ih =>
      cases rest with
      | nil => simp
      | cons next rest => rw [List.intercalate_cons_cons, ih, List.append_nil, ← List.flatten_cons]
  rw [join, String.toList_ofList, String.toList_empty, hflat, List.flatMap_def]

theorem join_empty_append (before after : List String) :
    join "" (before ++ after) = join "" before ++ join "" after := by
  rw [← String.toList_inj, String.toList_append, toList_join_empty, toList_join_empty,
    toList_join_empty, List.flatMap_append]

theorem join_empty_cons (first : String) (rest : List String) :
    join "" (first :: rest) = first ++ join "" rest := by
  rw [← String.toList_inj, String.toList_append, toList_join_empty, toList_join_empty,
    List.flatMap_cons]

/-! ## Prefixes, suffixes and first separators -/

theorem hasPrefix_iff {start s : String} : hasPrefix start s ↔ ∃ rest, s = start ++ rest := by
  rw [hasPrefix, List.isPrefixOf_iff_prefix]
  constructor
  · rintro ⟨rest, hrest⟩
    exact ⟨.ofList rest, String.toList_inj.1 (by simp [← hrest])⟩
  · rintro ⟨rest, rfl⟩
    exact ⟨rest.toList, by simp⟩

/-- A text ends in a character just if that is its last one. -/
theorem hasSuffix_iff_getLast? {c : Char} {ending s : String} (h : ending.toList = [c]) :
    hasSuffix ending s ↔ s.toList.getLast? = some c := by
  rw [hasSuffix, h, List.isSuffixOf_iff_suffix, List.getLast?_eq_some_iff]
  exact exists_congr fun front => eq_comm

theorem hasSuffix_iff {ending s : String} : hasSuffix ending s ↔ ∃ front, s = front ++ ending := by
  rw [hasSuffix, List.isSuffixOf_iff_suffix]
  constructor
  · rintro ⟨front, hfront⟩
    exact ⟨.ofList front, String.toList_inj.1 (by simp [← hfront])⟩
  · rintro ⟨front, rfl⟩
    exact ⟨front.toList, by simp⟩

/-- What stands in front of a text does not matter for an ending that is no longer. -/
theorem hasSuffix_append_of_le {ending s : String} (h : ending.length ≤ s.length) (front : String) :
    hasSuffix ending (front ++ s) = hasSuffix ending s := by
  rw [Bool.eq_iff_iff, hasSuffix, hasSuffix, List.isSuffixOf_iff_suffix, List.isSuffixOf_iff_suffix,
    String.toList_append]
  constructor
  · intro hsuffix
    refine List.suffix_of_suffix_length_le hsuffix (List.suffix_append _ _) ?_
    rwa [String.length_toList, String.length_toList]
  · intro hsuffix
    exact hsuffix.trans (List.suffix_append _ _)

/-- The same text put behind both changes nothing. -/
theorem hasSuffix_append_append (ending s tail : String) :
    hasSuffix (ending ++ tail) (s ++ tail) = hasSuffix ending s := by
  rw [Bool.eq_iff_iff, hasSuffix_iff, hasSuffix_iff]
  simp only [← String.append_assoc, String.append_left_inj]

/-- A text has the last character of what it ends in. -/
theorem getLast?_of_hasSuffix {c : Char} {ending s : String}
    (hlast : ending.toList.getLast? = some c) (h : hasSuffix ending s) :
    s.toList.getLast? = some c := by
  obtain ⟨front, rfl⟩ := hasSuffix_iff.1 h
  have hne : ending.toList ≠ [] := by
    intro hnil
    simp [hnil] at hlast
  rw [String.toList_append, List.getLast?_append_of_ne_nil _ hne, hlast]

theorem dropSuffix?_append (front ending : String) :
    dropSuffix? ending (front ++ ending) = some front := by
  rw [dropSuffix?, if_pos (hasSuffix_iff.2 ⟨front, rfl⟩)]
  simp

theorem dropSuffix?_of_not_hasSuffix {ending s : String} (h : ¬ hasSuffix ending s) :
    dropSuffix? ending s = none :=
  if_neg h

theorem dropPrefix?_append (start rest : String) : dropPrefix? start (start ++ rest) = some rest := by
  rw [dropPrefix?, if_pos (hasPrefix_iff.2 ⟨rest, rfl⟩)]
  simp

theorem dropPrefix?_eq_some_iff {start s rest : String} :
    dropPrefix? start s = some rest ↔ s = start ++ rest := by
  constructor
  · intro h
    have hprefix : hasPrefix start s := by
      by_contra hnot
      simp [dropPrefix?, hnot] at h
    obtain ⟨other, rfl⟩ := hasPrefix_iff.1 hprefix
    rw [dropPrefix?_append] at h
    rw [Option.some.inj h]
  · rintro rfl
    exact dropPrefix?_append start rest

theorem splitOnce_eq_some_iff {sep : Char} {s before after : String} :
    splitOnce sep s = some (before, after) ↔
      sep ∉ before.toList ∧ s.toList = before.toList ++ sep :: after.toList := by
  rw [splitOnce, List.span_eq_takeWhile_dropWhile]
  constructor
  · intro h
    split at h
    · cases h
    · next front c back hspan =>
      cases h
      obtain ⟨hfront, hback⟩ := Prod.mk.inj hspan
      have hc : c = sep := by
        have := List.head?_dropWhile_not (· != sep) s.toList
        simpa [hback] using this
      subst hc
      refine ⟨?_, ?_⟩
      · rw [String.toList_ofList, ← hfront]
        intro hmem
        simpa using List.mem_takeWhile_imp hmem
      · rw [String.toList_ofList, String.toList_ofList, ← hfront, ← hback,
          List.takeWhile_append_dropWhile]
  · rintro ⟨hfree, hs⟩
    have hall : ∀ c ∈ before.toList, (c != sep) = true := by
      intro c hc
      rw [bne_iff_ne]
      rintro rfl
      exact hfree hc
    have htake : s.toList.takeWhile (· != sep) = before.toList := by
      rw [hs, List.takeWhile_append_of_pos hall]
      simp
    have hdrop : s.toList.dropWhile (· != sep) = sep :: after.toList := by
      rw [hs, List.dropWhile_append_of_pos hall]
      simp
    rw [htake, hdrop]
    simp

theorem splitOnce_eq_none_iff {sep : Char} {s : String} :
    splitOnce sep s = none ↔ sep ∉ s.toList := by
  rw [splitOnce, List.span_eq_takeWhile_dropWhile]
  constructor
  · intro h
    split at h
    · next front hspan =>
      have hempty : s.toList.dropWhile (· != sep) = [] := (Prod.mk.inj hspan).2
      intro hmem
      simpa using List.dropWhile_eq_nil_iff.1 hempty sep hmem
    · cases h
  · intro hfree
    have hempty : s.toList.dropWhile (· != sep) = [] := by
      refine List.dropWhile_eq_nil_iff.2 fun c hc => ?_
      rw [bne_iff_ne]
      rintro rfl
      exact hfree hc
    rw [hempty]

theorem afterLast_of_not_mem {sep : Char} {s : String} (h : sep ∉ s.toList) :
    afterLast sep s = s := by
  have hall : ∀ c ∈ s.toList.reverse, (c != sep) = true := by
    intro c hc
    rw [bne_iff_ne]
    rintro rfl
    exact h (List.mem_reverse.1 hc)
  rw [afterLast, List.takeWhile_eq_self_iff.2 hall, List.reverse_reverse, String.ofList_toList]

/-- What stands before a separator does not matter for what stands behind the last one. -/
theorem afterLast_append_cons (sep : Char) (front back : List Char) :
    afterLast sep (.ofList (front ++ sep :: back)) = afterLast sep (.ofList back) := by
  simp only [afterLast, String.toList_ofList, List.reverse_append, List.reverse_cons,
    List.append_assoc]
  rw [List.takeWhile_append]
  split
  · next hall =>
    have hself : back.reverse.takeWhile (· != sep) = back.reverse :=
      (List.takeWhile_prefix _).eq_of_length hall
    simp [hself]
  · rfl

/-- What stands behind a separator, without another one, stands behind the last. -/
theorem afterLast_eq {sep : Char} {s back : String} (front : List Char)
    (hs : s.toList = front ++ sep :: back.toList) (hfree : sep ∉ back.toList) :
    afterLast sep s = back := by
  rw [← String.ofList_toList (s := s), hs, afterLast_append_cons, String.ofList_toList,
    afterLast_of_not_mem hfree]

/-! ## Searching -/

theorem occurs_iff {needle s : List Char} : occurs needle s ↔ needle <:+: s := by
  induction s with
  | nil => rw [occurs, List.isEmpty_iff, List.infix_nil]
  | cons c rest ih =>
    rw [occurs, Bool.or_eq_true, ih, List.isPrefixOf_iff_prefix, List.infix_cons_iff]

theorem contains_iff {needle s : String} :
    contains needle s ↔ ∃ front back, s = front ++ needle ++ back := by
  rw [contains, occurs_iff]
  constructor
  · rintro ⟨front, back, hs⟩
    exact ⟨.ofList front, .ofList back, String.toList_inj.1 (by simp [← hs])⟩
  · rintro ⟨front, back, rfl⟩
    exact ⟨front.toList, back.toList, by simp⟩

/-! ## Trimming -/

section
variable {drop : Char → Bool} {s : List Char}

theorem trimEnds_cons {c : Char} (h : drop c) : trimEnds drop (c :: s) = trimEnds drop s := by
  rw [trimEnds, trimEnds, List.dropWhile_cons_of_pos h]

theorem trimEnds_concat {c : Char} (h : drop c) : trimEnds drop (s ++ [c]) = trimEnds drop s := by
  rw [trimEnds, trimEnds, List.dropWhile_append]
  split
  · next hempty => simp [List.isEmpty_iff.1 hempty, h]
  · rw [List.reverse_append, List.reverse_singleton, List.singleton_append,
      List.dropWhile_cons_of_pos h]

/-- Nothing is left of a text just if all of it is dropped. -/
theorem trimEnds_eq_nil_iff : trimEnds drop s = [] ↔ ∀ c ∈ s, drop c := by
  have hback : trimEnds drop s = [] ↔ ∀ c ∈ s.dropWhile drop, drop c := List.rdropWhile_eq_nil_iff
  rw [hback]
  constructor
  · intro h c hc
    rw [← @List.takeWhile_append_dropWhile _ drop s] at hc
    rcases List.mem_append.1 hc with hc | hc
    · exact List.mem_takeWhile_imp hc
    · exact h c hc
  · intro h c hc
    exact h c (List.dropWhile_subset _ hc)

/-- What is left of a trimmed text does not start with what is dropped. -/
theorem head?_trimEnds : ∀ c ∈ (trimEnds drop s).head?, drop c = false := by
  intro c hc
  have hprefix : trimEnds drop s <+: s.dropWhile drop := List.rdropWhile_prefix drop _
  obtain ⟨rest, hrest⟩ := hprefix
  have hhead : (s.dropWhile drop).head? = some c := by
    rw [← hrest, List.head?_append, Option.mem_def.1 hc]; rfl
  simpa [hhead] using List.head?_dropWhile_not drop s

theorem rdropWhile_of_getLast? (h : ∀ c ∈ s.getLast?, drop c = false) : s.rdropWhile drop = s :=
  List.rdropWhile_eq_self_iff.2 fun hne => by simp [h _ (List.getLast_mem_getLast? hne)]

/-- A text is trimmed to itself if neither its first nor its last character is dropped. -/
theorem trimEnds_of_ends (hhead : ∀ c ∈ s.head?, drop c = false)
    (hlast : ∀ c ∈ s.getLast?, drop c = false) : trimEnds drop s = s := by
  have hfront : s.dropWhile drop = s := by
    cases s with
    | nil => rfl
    | cons c rest => rw [List.dropWhile_cons_of_neg]; simp [hhead c rfl]
  calc trimEnds drop s
    _ = (s.dropWhile drop).rdropWhile drop := rfl
    _ = s := by rw [hfront, rdropWhile_of_getLast? hlast]

/-- What is put behind a text stays there when the ends are trimmed, if neither of the two ends
    in what is dropped. -/
theorem trimEnds_append {t : List Char} (hne : trimEnds drop s ≠ [])
    (hs : ∀ c ∈ s.getLast?, drop c = false) (ht : t ≠ [])
    (hlast : ∀ c ∈ t.getLast?, drop c = false) :
    trimEnds drop (s ++ t) = trimEnds drop s ++ t := by
  have hfront : s.dropWhile drop ≠ [] := by
    intro hnil
    rw [trimEnds, hnil] at hne
    exact hne rfl
  have hback : (s.dropWhile drop).getLast? = s.getLast? := by
    obtain ⟨front, hdrop⟩ := List.dropWhile_suffix drop (l := s)
    conv_rhs => rw [← hdrop]
    rw [List.getLast?_append_of_ne_nil _ hfront]
  calc trimEnds drop (s ++ t)
    _ = ((s ++ t).dropWhile drop).rdropWhile drop := rfl
    _ = (s.dropWhile drop ++ t).rdropWhile drop := by
      rw [List.dropWhile_append, if_neg (by simpa using hfront)]
    _ = s.dropWhile drop ++ t :=
      rdropWhile_of_getLast? (by rwa [List.getLast?_append_of_ne_nil _ ht])
    _ = (s.dropWhile drop).rdropWhile drop ++ t := by
      rw [rdropWhile_of_getLast? (by rwa [hback])]

end

end ApiKinds.Text
