/-
  Doubles that are read or rounded to are finite.

  * `lt_scaled_iff`: comparing a scaled ratio comes to comparing the ratio with a power of two.
  * `scaled_exponentOf_lt`: at the exponent that is chosen a ratio has no more than 53 bits, so
    that its significand fits.
  * `isFinite_of_ofDecimal?`, `isFinite_ofInt`: the nearest double of a decimal and of an integer
    is finite, if there is one.
-/
import ApiKinds.Decimal.Binary64
import Mathlib.Algebra.Order.Field.Power
import Mathlib.Data.Rat.Cast.Order
import Mathlib.Tactic.Linarith
import Mathlib.Tactic.Positivity
import Mathlib.Tactic.FieldSimp

namespace ApiKinds.Binary64

/-! ## Encoding -/

theorem exponentField_ofNat {sign field fraction : Nat} (hsign : sign = 0 ∨ sign = twoTo 63)
    (hfield : field < twoTo 11) (hfraction : fraction < twoTo 52) :
    exponentField ⟨.ofNat (sign + field * twoTo 52 + fraction)⟩ = field := by
  have hstep : twoTo 52 = 4503599627370496 := by decide
  have hrange : twoTo 11 = 2048 := by decide
  have htop : twoTo 63 = 9223372036854775808 := by decide
  rw [htop] at hsign
  rw [hrange] at hfield
  rw [hstep] at hfraction
  rw [exponentField, UInt64.toNat_ofNat', hstep, hrange]
  omega

/-- The exponent of what is encoded stays below that of infinity. -/
theorem isFinite_of_encode? {negative : Bool} {m : Nat} {q : Int} {x : Binary64}
    (hm : m < 2 * normalBound) (h : encode? negative m q = some x) : x.isFinite := by
  have hsign : (if negative then twoTo 63 else 0) = 0 ∨
      (if negative then twoTo 63 else 0) = twoTo 63 := by
    cases negative
    · exact .inl rfl
    · exact .inr rfl
  have hinfinite : 2047 < twoTo 11 := by decide
  have hstep : normalBound = twoTo 52 := rfl
  rw [encode?] at h
  dsimp only at h
  generalize (if negative then twoTo 63 else 0) = sign at h hsign
  split at h
  · next hsmall =>
    obtain rfl := Option.some.inj h
    have hfield := exponentField_ofNat hsign (twoTo_pos 11) hsmall
    rw [Nat.zero_mul, Nat.add_zero] at hfield
    rw [isFinite, hfield]
    rfl
  split at h
  · next hfield =>
    obtain rfl := Option.some.inj h
    rw [isFinite, exponentField_ofNat hsign (by omega) (by omega)]
    simp only [bne_iff_ne]
    omega
  · cases h

/-! ## Rounding -/

section
variable {num den bound : Nat} {q : Int}

theorem lt_scaled_iff (hden : 0 < den) :
    (scaled num den q).1 / (scaled num den q).2 < bound ↔
      (num : ℚ) < bound * (den * 2 ^ q) := by
  rw [scaled]
  by_cases hq : 0 ≤ q
  · obtain ⟨k, rfl⟩ := Int.eq_ofNat_of_zero_le hq
    have hpos : 0 < den * twoTo k := Nat.mul_pos hden (twoTo_pos k)
    rw [if_pos hq, Int.toNat_natCast, Nat.div_lt_iff_lt_mul hpos, zpow_natCast, twoTo]
    exact_mod_cast Iff.rfl
  · obtain ⟨k, hk⟩ := Int.eq_ofNat_of_zero_le (show 0 ≤ -q by omega)
    obtain rfl : q = -k := by omega
    have hpos : (0 : ℚ) < 2 ^ k := by positivity
    rw [if_neg hq, neg_neg, Int.toNat_natCast, Nat.div_lt_iff_lt_mul hden, zpow_neg, zpow_natCast,
      ← mul_assoc, ← div_eq_mul_inv, lt_div_iff₀ hpos, twoTo]
    exact_mod_cast Iff.rfl

/-- At the first guess of the exponent the ratio has no more than 53 bits. -/
theorem lt_of_guess (hden : 0 < den) (hq : (num.log2 : Int) - den.log2 - 52 ≤ q) :
    (num : ℚ) < 2 ^ 53 * (den * 2 ^ q) := by
  have hnum : (num : ℚ) < 2 ^ (num.log2 + 1) := by exact_mod_cast Nat.lt_log2_self
  have hlog : (2 : ℚ) ^ den.log2 ≤ den := by exact_mod_cast Nat.log2_self_le hden.ne'
  calc (num : ℚ) < 2 ^ (num.log2 + 1) := hnum
    _ = (2 : ℚ) ^ ((num.log2 + 1 : ℕ) : ℤ) := (zpow_natCast _ _).symm
    _ ≤ (2 : ℚ) ^ ((53 + den.log2 : ℕ) + q : ℤ) :=
        zpow_le_zpow_right₀ one_le_two (by push_cast; omega)
    _ = 2 ^ 53 * (2 ^ den.log2 * 2 ^ q) := by
        rw [zpow_add₀ two_ne_zero, zpow_natCast, pow_add, mul_assoc]
    _ ≤ 2 ^ 53 * (den * 2 ^ q) := by gcongr

theorem scaled_exponentOf_lt (hden : 0 < den) :
    (scaled num den (exponentOf num den)).1 / (scaled num den (exponentOf num den)).2 <
      2 * normalBound := by
  have hbound : ((2 * normalBound : ℕ) : ℚ) = 2 ^ 53 := by
    rw [normalBound, twoTo]
    norm_num
  rw [lt_scaled_iff hden, hbound]
  set guess : Int := (num.log2 : Int) - den.log2 - 52 with hguess
  -- One step below the guess the ratio doubles, which is taken only if it has room for that.
  have hlow : ∃ low : Int, low ≤ exponentOf num den ∧ (num : ℚ) < 2 ^ 53 * (den * 2 ^ low) := by
    by_cases hroom : (scaled num den guess).1 / (scaled num den guess).2 < normalBound
    · refine ⟨guess - 1, ?_, ?_⟩
      · rw [exponentOf, ← hguess]
        simp only [hroom, if_true]
        exact le_max_right _ _
      · rw [lt_scaled_iff hden, normalBound, twoTo] at hroom
        have hdouble : (2 : ℚ) ^ guess = 2 * 2 ^ (guess - 1) := by
          rw [zpow_sub_one₀ two_ne_zero]
          field_simp
        rw [hdouble] at hroom
        push_cast at hroom
        linarith
    · refine ⟨guess, ?_, lt_of_guess hden le_rfl⟩
      rw [exponentOf, ← hguess]
      simp only [hroom, if_false]
      exact le_max_right _ _
  obtain ⟨low, hle, hlt⟩ := hlow
  calc (num : ℚ) < 2 ^ 53 * (den * 2 ^ low) := hlt
    _ ≤ 2 ^ 53 * (den * 2 ^ exponentOf num den) := by
        gcongr
        exact one_le_two

theorem roundDiv_le (num den : Nat) : roundDiv num den ≤ num / den + 1 := by
  rw [roundDiv]
  split <;> omega

theorem isFinite_of_roundRatio {negative : Bool} {x : Binary64} (hden : 0 < den)
    (h : roundRatio negative num den = some x) : x.isFinite := by
  have hsize : (scaled num den (exponentOf num den)).1 / (scaled num den (exponentOf num den)).2 <
      2 * normalBound := scaled_exponentOf_lt hden
  have hpos : 0 < normalBound := twoTo_pos 52
  rw [roundRatio] at h
  dsimp only at h
  split at h
  · exact isFinite_of_encode? (by omega) h
  · have hround := roundDiv_le (scaled num den (exponentOf num den)).1
      (scaled num den (exponentOf num den)).2
    exact isFinite_of_encode? (by omega) h

end

/-! ## Decimals and integers -/

theorem isFinite_of_ofDecimal? {d : Decimal} {x : Binary64} (h : ofDecimal? d = some x) :
    x.isFinite := by
  have hzero : 0 < 2 * normalBound := by decide
  rw [ofDecimal?] at h
  dsimp only at h
  split at h
  · exact isFinite_of_encode? hzero h
  split at h
  · exact isFinite_of_encode? hzero h
  split at h
  · cases h
  split at h
  · exact isFinite_of_roundRatio Nat.one_pos h
  · exact isFinite_of_roundRatio (tenTo_pos _) h

theorem isFinite_ofInt (i : Int) : (ofInt i).isFinite := by
  rw [ofInt]
  cases h : ofDecimal? ⟨decide (i < 0), i.natAbs, 0⟩ with
  | none => decide
  | some x => exact isFinite_of_ofDecimal? h

end ApiKinds.Binary64
