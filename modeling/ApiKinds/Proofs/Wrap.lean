/-
  Texts that are broken into lines.

  * `separatorAt_of_lastBreakable`, `lastBreakable_eq_none_iff`: the search finds a separator in
    its range, if there is one.
  * `Cut`: where a line may end that others follow.
  * `cut_take_breakPoint`: the line that is cut off a text ends there; `flatten_wrapChars`: nothing
    of the text is lost.
  * `wraps_wrap`: what the lines of any text are, for any width but zero.
-/
import ApiKinds.Text.Wrap
import ApiKinds.Proofs.Text
import Mathlib.Algebra.Order.BigOperators.Group.List

namespace ApiKinds.Text

/-! ## Separators -/

/-- The characters that a line preferably ends in. -/
def separators : List Char :=
  ['/', '-', '_', ',']

def SeparatorAt (s : List Char) (i : Nat) : Prop :=
  ∃ c ∈ separators, s[i]? = some c

def EndsInSeparator (s : List Char) : Prop :=
  ∃ c ∈ separators, s.getLast? = some c

section
variable {line s : List Char}

theorem isBreakable_iff {c : Char} : isBreakable c ↔ c ∈ separators := by
  simp only [isBreakable, separators, Bool.or_eq_true, beq_iff_eq, List.mem_cons, List.not_mem_nil,
    or_false, or_assoc]

theorem separatorAt_iff {i : Nat} : (line.drop i).head?.any isBreakable ↔ SeparatorAt line i := by
  rw [List.head?_drop, Option.any_eq_true]
  simp only [isBreakable_iff, SeparatorAt]
  exact exists_congr fun c => and_comm

/-- No separator stands in the range, from its end down to its start. -/
theorem lastBreakable_eq_none_iff {lo hi : Nat} :
    lastBreakable line lo hi = none ↔ ∀ i, lo ≤ i → i < hi → ¬ SeparatorAt line i := by
  induction hi with
  | zero => simp [lastBreakable]
  | succ hi ih =>
    rw [lastBreakable]
    split
    · next hempty =>
      refine iff_of_true rfl fun i hlo hhi => ?_
      omega
    split
    · next hlo hsep =>
      refine iff_of_false (by simp) fun hall => ?_
      exact hall hi (by omega) (by omega) (separatorAt_iff.1 hsep)
    · next hlo hsep =>
      rw [ih]
      constructor
      · intro hall i hi₁ hi₂
        rcases Nat.lt_or_eq_of_le (Nat.le_of_lt_succ hi₂) with hlt | rfl
        · exact hall i hi₁ hlt
        · exact fun hat => hsep (separatorAt_iff.2 hat)
      · intro hall i hi₁ hi₂
        exact hall i hi₁ (by omega)

theorem separatorAt_of_lastBreakable {lo hi i : Nat} (h : lastBreakable line lo hi = some i) :
    lo ≤ i ∧ i < hi ∧ SeparatorAt line i := by
  induction hi with
  | zero => cases h
  | succ hi ih =>
    rw [lastBreakable] at h
    split at h
    · cases h
    split at h
    · next hlo hsep =>
      cases h
      exact ⟨by omega, by omega, separatorAt_iff.1 hsep⟩
    · obtain ⟨hlo, hhi, hat⟩ := ih h
      exact ⟨hlo, by omega, hat⟩

/-! ## Cutting a line off -/

/-- Where a line of a text may end that others follow. -/
inductive Cut (width : Nat) (line : List Char) : Prop
  /-- Behind a separator in the second half of the width. -/
  | behind : EndsInSeparator line → width / 2 + 1 < line.length → Cut width line
  /-- At the width, if there is no separator in that half. -/
  | full : line.length = width → (∀ i, width / 2 < i → ¬ SeparatorAt line i) → Cut width line

variable {width : Nat}

theorem breakPoint_le (width : Nat) (line : List Char) : breakPoint width line ≤ width := by
  rw [breakPoint]
  split
  · next i hfound =>
    obtain ⟨-, hlt, -⟩ := separatorAt_of_lastBreakable hfound
    exact hlt
  · exact le_rfl

/-- A text that does not fit is cut at its break point. -/
theorem cut_take_breakPoint (h : width < s.length) : Cut width (s.take (breakPoint width s)) := by
  rw [breakPoint]
  split
  · next i hfound =>
    obtain ⟨hhalf, hlt, c, hsep, hc⟩ := separatorAt_of_lastBreakable hfound
    have hlength : (s.take (i + 1)).length = i + 1 := List.length_take_of_le (by omega)
    refine .behind ⟨c, hsep, ?_⟩ (by omega)
    rw [List.getLast?_eq_getElem?, hlength, Nat.add_sub_cancel, List.getElem?_take_of_lt (by omega)]
    exact hc
  · next hnone =>
    -- The search goes up to the width, so it has seen every place in the line that is cut off.
    refine .full (List.length_take_of_le (by omega)) fun i hi => ?_
    rintro ⟨c, hsep, hc⟩
    obtain ⟨hlt, -⟩ := List.getElem?_eq_some_iff.1 hc
    rw [List.length_take] at hlt
    rw [List.getElem?_take_of_lt (by omega)] at hc
    exact lastBreakable_eq_none_iff.1 hnone i hi (by omega) ⟨c, hsep, hc⟩

/-! ## Lines of characters -/

theorem wrapChars_of_le (h : s.length ≤ width) (hs : s ≠ []) : wrapChars width s = [s] := by
  have hfits : ¬ (0 < width ∧ exceeds width s) := by
    rw [exceeds_iff]
    omega
  rw [wrapChars, dif_neg hfits, if_neg (by simpa using hs)]

/-- Nothing is lost between the lines. -/
theorem flatten_wrapChars (width : Nat) (s : List Char) : (wrapChars width s).flatten = s := by
  fun_induction wrapChars width s with
  | case1 s hlong ih => rw [List.flatten_cons, ih, List.take_append_drop]
  | case2 s hshort hempty => simpa using hempty
  | case3 s hshort hne => simp

theorem wrapChars_ne_nil (hs : s ≠ []) : wrapChars width s ≠ [] := by
  intro hnil
  have hflat := flatten_wrapChars width s
  rw [hnil] at hflat
  exact hs hflat.symm

/-- The lines are not empty, and none is wider than it may be. -/
theorem ne_nil_and_length_le_of_mem_wrapChars (h : 0 < width) :
    ∀ line ∈ wrapChars width s, line ≠ [] ∧ line.length ≤ width := by
  fun_induction wrapChars width s with
  | case1 s hlong ih =>
    have hlength : (s.take (breakPoint width s)).length = breakPoint width s := by
      have hle := breakPoint_le width s
      have hlt := exceeds_iff.1 hlong.2
      exact List.length_take_of_le (by omega)
    rw [List.forall_mem_cons]
    refine ⟨⟨?_, ?_⟩, ih⟩
    · rw [← List.length_pos_iff, hlength]
      exact breakPoint_pos s h
    · rw [hlength]
      exact breakPoint_le width s
  | case2 s hshort hempty => rintro _ ⟨⟩
  | case3 s hshort hne =>
    have hle : s.length ≤ width := by
      rw [exceeds_iff] at hshort
      omega
    rw [List.forall_mem_singleton]
    exact ⟨by simpa using hne, hle⟩

/-- Each line but the last is cut off a text that does not fit. -/
theorem cut_of_mem_dropLast_wrapChars :
    ∀ line ∈ (wrapChars width s).dropLast, Cut width line := by
  fun_induction wrapChars width s with
  | case1 s hlong ih =>
    have hlt := exceeds_iff.1 hlong.2
    have hrest : s.drop (breakPoint width s) ≠ [] := by
      have hle := breakPoint_le width s
      rw [← List.length_pos_iff, List.length_drop]
      omega
    rw [List.dropLast_cons_of_ne_nil (wrapChars_ne_nil hrest), List.forall_mem_cons]
    exact ⟨cut_take_breakPoint hlt, ih⟩
  | case2 s hshort hempty => rintro _ ⟨⟩
  | case3 s hshort hne => rintro _ ⟨⟩

end

/-! ## Lines of text -/

section
variable {width : Nat} {s : String}

theorem wrap_empty (width : Nat) : wrap width "" = [""] :=
  if_pos (.inl (Nat.zero_le width))

theorem wrap_of_ne_empty (h : 0 < width) (hs : s ≠ "") :
    wrap width s = (wrapChars width s.toList).map String.ofList := by
  rw [wrap]
  split
  · next hfits =>
    have hle : s.toList.length ≤ width := by omega
    have hne : s.toList ≠ [] := by simpa using hs
    rw [wrapChars_of_le hle hne, List.map_singleton, String.ofList_toList]
  · rfl

/-- The lines hold the characters of the text, for a width of zero as well. -/
theorem flatMap_toList_wrap (width : Nat) (s : String) :
    (wrap width s).flatMap String.toList = s.toList := by
  rw [wrap]
  split
  · rw [List.flatMap_singleton]
  · simpa [List.flatMap_def] using flatten_wrapChars width s.toList

theorem length_le_of_mem_wrap (h : 0 < width) : ∀ line ∈ wrap width s, line.length ≤ width := by
  by_cases hs : s = ""
  · rw [hs, wrap_empty]
    exact List.forall_mem_singleton.2 (Nat.zero_le width)
  · rw [wrap_of_ne_empty h hs, List.forall_mem_map]
    intro line hline
    rw [String.length_ofList]
    exact (ne_nil_and_length_le_of_mem_wrapChars h line hline).2

/-- Lines that are not empty are no more than the characters in them. -/
theorem length_le_length_flatten {lines : List (List Char)} (h : ∀ line ∈ lines, line ≠ []) :
    lines.length ≤ lines.flatten.length := by
  rw [List.length_flatten, ← List.length_map (f := List.length)]
  refine List.length_le_sum_of_one_le _ fun n hn => ?_
  obtain ⟨line, hline, rfl⟩ := List.mem_map.1 hn
  exact List.length_pos_iff.2 (h line hline)

end

/-- What the lines of a text of some width are. -/
structure Wraps (width : Nat) (s : String) (lines : List String) : Prop where
  /-- There are no more than the text has characters. -/
  count_le : lines.length ≤ max 1 s.length
  join_eq : join "" lines = s
  length_le : ∀ line ∈ lines, line.length ≤ width
  ne_empty : s ≠ "" → ∀ line ∈ lines, line ≠ ""
  cut : ∀ line ∈ lines.dropLast, Cut width line.toList

/-- **Wrapping loses nothing and keeps the width**, however narrow it is: it ends, the lines are
    the text, and each but the last ends where it should. -/
theorem wraps_wrap {width : Nat} (h : 0 < width) (s : String) : Wraps width s (wrap width s) := by
  have hjoin : join "" (wrap width s) = s := by
    rw [← String.toList_inj, toList_join_empty, flatMap_toList_wrap]
  by_cases hs : s = ""
  · subst hs
    refine ⟨?_, hjoin, length_le_of_mem_wrap h, fun hne => absurd rfl hne, ?_⟩
    · rw [wrap_empty]
      exact le_rfl
    · rw [wrap_empty]
      rintro _ ⟨⟩
  have hne := fun line hline =>
    (ne_nil_and_length_le_of_mem_wrapChars (s := s.toList) h line hline).1
  refine ⟨?_, hjoin, length_le_of_mem_wrap h, fun _ => ?_, ?_⟩
  · have hcount := length_le_length_flatten hne
    rw [flatten_wrapChars, s.length_toList] at hcount
    rw [wrap_of_ne_empty h hs, List.length_map]
    exact hcount.trans (le_max_right 1 s.length)
  · rw [wrap_of_ne_empty h hs, List.forall_mem_map]
    intro line hline
    simpa using hne line hline
  · rw [wrap_of_ne_empty h hs, ← List.map_dropLast, List.forall_mem_map]
    intro line hline
    rw [String.toList_ofList]
    exact cut_of_mem_dropLast_wrapChars line hline

/-- A line that ends behind a separator, and one that is cut at the width although a separator
    stands before its half. -/
theorem wraps_petsByName : 0 < 6 ∧ wrap 6 "pets/by-name" = ["pets/", "by-nam", "e"] ∧
    Wraps 6 "pets/by-name" ["pets/", "by-nam", "e"] := by
  have hwrap : wrap 6 "pets/by-name" = ["pets/", "by-nam", "e"] := by cbv
  exact ⟨by decide, hwrap, hwrap ▸ wraps_wrap (by decide) "pets/by-name"⟩

end ApiKinds.Text
