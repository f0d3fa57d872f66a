/-
  Breaking a text into lines of bounded width.

  * `breakPoint width line` is where a line too long for `width` is cut: behind
    the last separator (`/`, `-`, `_`, `,`) that stands in the second half of the
    width, else at the width.
  * `wrap width s`: the lines, cut as long as the rest does not fit.
-/

namespace ApiKinds.Text

/-- The characters behind which a line is preferably cut. -/
def isBreakable (c : Char) : Bool :=
  c == '/' || c == '-' || c == '_' || c == ','

/-- The greatest position `lo ≤ i < hi` with a separator, searched downwards. -/
def lastBreakable (line : List Char) (lo : Nat) : Nat → Option Nat
  | 0 => none
  | hi + 1 =>
    if hi < lo then none
    else if (line.drop hi).head?.any isBreakable then some hi
    else lastBreakable line lo hi

/-- How many characters the next line takes. -/
def breakPoint (width : Nat) (line : List Char) : Nat :=
  match lastBreakable line (width / 2 + 1) width with
  | some i => i + 1
  | none => width

theorem breakPoint_pos {width : Nat} (line : List Char) (h : 0 < width) :
    0 < breakPoint width line := by
  rw [breakPoint]
  split <;> omega

/-- There are more than `width` characters; no more than that many are looked at. -/
def exceeds (width : Nat) (s : List Char) : Bool :=
  !(s.drop width).isEmpty

theorem exceeds_iff {width : Nat} {s : List Char} :
    exceeds width s = true ↔ width < s.length := by
  simp [exceeds]

/-- The lines of a text that is cut while it is longer than `width`. -/
def wrapChars (width : Nat) (s : List Char) : List (List Char) :=
  if _h : 0 < width ∧ exceeds width s then
    s.take (breakPoint width s) :: wrapChars width (s.drop (breakPoint width s))
  else if s.isEmpty then [] else [s]
termination_by s.length
decreasing_by
  have hpos := breakPoint_pos s _h.1
  have hlen := exceeds_iff.mp _h.2
  simp only [List.length_drop]
  omega

/-- The lines of a text; a text that fits is one line, even if it is empty, and a
    width of zero means no bound. -/
def wrap (width : Nat) (s : String) : List String :=
  if s.toList.length ≤ width ∨ width = 0 then [s]
  else (wrapChars width s.toList).map String.ofList

end ApiKinds.Text
