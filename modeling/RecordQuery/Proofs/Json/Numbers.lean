import RecordQuery.Json.Number
import RecordQuery.Proofs.Number.Integers

/-! # Numbers of documents are finite

A numeral is read as a finite number or not at all: its digits fit sixty-four
bits, a division by a power of ten does not leave the finite range, and a product
that leaves it is refused.
-/

namespace RecordQuery

namespace Binary64

-- powers are those of the core library, whichever others are in scope
attribute [local instance (high)] instPowNat

/-! ## Rounding inside the finite range -/

/-- Rounding does not cross an integer. -/
theorem nearestEven_le_of_le {num den k : Nat} (hden : 0 < den) (h : num ≤ k * den) :
    nearestEven num den ≤ k := by
  rcases Nat.lt_or_eq_of_le h with hlt | rfl
  · have hquotient : num / den < k := (Nat.div_lt_iff_lt_mul hden).mpr hlt
    exact Nat.le_trans (nearestEven_le num den) hquotient
  · exact Nat.le_of_eq (nearestEven_mul_self hden k)

def maxMagnitude : Nat :=
  (2 ^ 53 - 1) * 2 ^ 2045

theorem magnitude_le_of_isFinite {x : Binary64} (hx : x.isFinite = true) :
    x.magnitude ≤ maxMagnitude := by
  have hfraction := fraction_lt x
  have hfield := exponentField_lt_of_isFinite hx
  have hsignificand : x.significand ≤ 2 ^ 53 - 1 := by
    simp only [significand]
    split <;> omega
  have hscale : x.scale ≤ 2045 := by
    simp only [scale]
    omega
  rw [maxMagnitude]
  -- the exponent is hidden, so that nothing computes the power
  generalize 2045 = largest at hscale ⊢
  exact Nat.mul_le_mul hsignificand (Nat.pow_le_pow_right (by decide) hscale)

/-- A quotient that is no larger than a finite number is rounded to a finite number. -/
theorem isFinite_ofUnits (negative : Bool) {num den : Nat} (hden : 0 < den)
    (h : num ≤ maxMagnitude * den) : (ofUnits negative num den).isFinite = true := by
  rw [maxMagnitude] at h
  generalize hlargest : 2045 = largest at h
  have hpower : (num / den).log2 - 52 ≤ largest := by
    by_cases hzero : num / den = 0
    · simp [hzero]
    have hle : num / den ≤ (2 ^ 53 - 1) * 2 ^ largest :=
      Nat.div_le_of_le_mul (by rwa [Nat.mul_comm])
    have hlt : num / den < 2 ^ (53 + largest) := by
      rw [Nat.pow_add]
      exact Nat.lt_of_le_of_lt hle (Nat.mul_lt_mul_of_pos_right (by decide) (Nat.two_pow_pos _))
    have hlog := (Nat.log2_lt hzero).mpr hlt
    omega
  apply isFinite_ofWord
  rw [infinityWord]
  generalize hexponent : (num / den).log2 - 52 = power at hpower
  have hplace : 0 < den * 2 ^ power := Nat.mul_pos hden (Nat.two_pow_pos _)
  rcases Nat.lt_or_eq_of_le hpower with hlt | rfl
  · have hsignificand : num / (den * 2 ^ power) < 2 ^ 53 := by
      rw [← Nat.div_div_eq_div_mul, Nat.div_lt_iff_lt_mul (Nat.two_pow_pos _), ← Nat.pow_add]
      refine Nat.lt_of_lt_of_le Nat.lt_log2_self (Nat.pow_le_pow_right (by decide) ?_)
      omega
    have hround := nearestEven_le num (den * 2 ^ power)
    omega
  · have hround : nearestEven num (den * 2 ^ power) ≤ 2 ^ 53 - 1 := by
      apply nearestEven_le_of_le hplace
      rwa [Nat.mul_comm den, ← Nat.mul_assoc]
    omega

theorem isFinite_dividedBy {x y : Binary64} (hx : x.isFinite = true)
    (hy : unitsPerOne ≤ y.magnitude) : (x.dividedBy y).isFinite = true := by
  have hpos : 0 < y.magnitude :=
    Nat.lt_of_lt_of_le (Nat.pos_of_ne_zero unitsPerOne_ne_zero) hy
  exact isFinite_ofUnits false hpos (Nat.mul_le_mul (magnitude_le_of_isFinite hx) hy)

theorem isFinite_withSign_of_isFinite (negative : Bool) {x : Binary64} (hx : x.isFinite = true) :
    (x.withSign negative).isFinite = true :=
  isFinite_ofWord negative (magnitudeWord_lt_of_isFinite hx)

/-! ## Powers of ten -/

/-- A number with the exponent of one, or a larger exponent, is no less than one. -/
theorem unitsPerOne_le_magnitude_ofWord {w : Nat} (hw : 1023 * 2 ^ 52 ≤ w) :
    unitsPerOne ≤ (ofWord false w).magnitude := by
  have hlow : 1023 * 2 ^ 52 ≤ min w infinityWord := Nat.le_min.mpr ⟨hw, by decide⟩
  have hhigh : min w infinityWord ≤ 2047 * 2 ^ 52 := Nat.min_le_right _ _
  have hfield : 1023 ≤ (ofWord false w).exponentField := by
    rw [exponentField, word_ofWord, if_neg Bool.false_ne_true]
    omega
  have hscale : 1022 ≤ (ofWord false w).scale := by
    rw [scale]
    omega
  have hsignificand : 2 ^ 52 ≤ (ofWord false w).significand := by
    rw [significand, if_neg (by omega)]
    exact Nat.le_add_right _ _
  generalize hk : 1022 = k at hscale
  have hunits : unitsPerOne = 2 ^ 52 * 2 ^ k := unitsPerOne_eq (by omega)
  rw [hunits]
  exact Nat.mul_le_mul hsignificand (Nat.pow_le_pow_right (by decide) hscale)

end Binary64

namespace Json

open Binary64 (unitsPerOne)

theorem unitsPerOne_le_powerOfTen (exponent : Nat) :
    unitsPerOne ≤ (powerOfTen exponent).magnitude := by
  have hcount : Decimal.digitCount 1 = 1 := by decide
  have horder : (⟨1, exponent⟩ : Decimal).order = 1 + exponent := by
    rw [Decimal.order, hcount]
    rfl
  by_cases hlarge : 310 < (⟨1, exponent⟩ : Decimal).order
  · have hinfinite : powerOfTen exponent = Binary64.ofWord false Binary64.infinityWord := by
      have hpositive : ¬ ((1 : Nat) = 0 ∨ (⟨1, exponent⟩ : Decimal).order < -330) := by omega
      rw [powerOfTen, Decimal.toBinary64, if_neg hpositive, if_pos hlarge]
    rw [hinfinite]
    exact Binary64.unitsPerOne_le_magnitude_ofWord (by decide)
  · have hnumerator : (⟨1, exponent⟩ : Decimal).numerator = 10 ^ exponent * unitsPerOne := by
      simp only [Decimal.numerator, Int.toNat_natCast, Nat.one_mul]
    have hdenominator : (⟨1, exponent⟩ : Decimal).denominator = 1 := by
      simp [Decimal.denominator]
    have hne : 10 ^ exponent ≠ 0 := Nat.ne_of_gt (Nat.pow_pos (by decide))
    rw [powerOfTen, Decimal.toBinary64_of_order Nat.one_ne_zero (by omega) (by omega), hnumerator,
      hdenominator, Binary64.ofUnits_integer hne]
    have hsignificand := (Binary64.integerSignificand_bounds hne).1
    exact Binary64.unitsPerOne_le_magnitude_ofWord (by omega)

/-- Scaling by a power of ten gives a finite number or none. -/
theorem isFinite_of_scaleByTen? {fuel : Nat} {x y : Binary64} {exponent : Int}
    (hx : x.isFinite = true) (h : scaleByTen? fuel x exponent = some y) : y.isFinite = true := by
  induction fuel generalizing x exponent with
  | zero =>
      cases h
      exact hx
  | succ fuel ih =>
      have hdivided (k : Nat) : (x.dividedBy (powerOfTen k)).isFinite = true :=
        Binary64.isFinite_dividedBy hx (unitsPerOne_le_powerOfTen k)
      rw [scaleByTen?] at h
      dsimp only at h
      split_ifs at h with hsmall hnegative hfinite hzero
      · rw [← Option.some.inj h]
        exact hdivided _
      · rw [← Option.some.inj h]
        exact hfinite
      · rw [← Option.some.inj h]
        exact hx
      · exact ih (hdivided 308) h

/-! ## Numerals -/

theorem absorb_lt {significand : Nat} (h : significand < 2 ^ 64) (digits : List Char) :
    (absorb significand digits).1 < 2 ^ 64 := by
  induction digits generalizing significand with
  | nil => exact h
  | cons c cs ih =>
      rw [absorb]
      dsimp only
      split
      · rename_i hextended
        exact ih hextended
      · exact h

theorem isFinite_of_floatOf? {n : Numeral} {x : Binary64} (h : floatOf? n = some x) :
    x.isFinite = true := by
  obtain ⟨scaled, hscaled, rfl⟩ := Option.map_eq_some_iff.mp h
  have hwhole := absorb_lt (by decide : 0 < 2 ^ 64) n.whole
  have hsignificand := absorb_lt hwhole (n.fraction.getD [])
  have hinteger := (Binary64.ofInt_spec (n := ((absorb (absorb 0 n.whole).1
    (n.fraction.getD [])).1 : Int)) hsignificand).1
  exact Binary64.isFinite_withSign_of_isFinite _ (isFinite_of_scaleByTen? hinteger hscaled)

end Json

end RecordQuery
