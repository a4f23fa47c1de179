import Mathlib
import RecordQuery.Number.Decimal

/-! # Rounding of exact quotients

The rounding of a quotient depends on its value alone, and every finite binary
number is the rounding of its own magnitude.
-/

namespace RecordQuery

namespace Binary64

/-! ## Words -/

theorem word_lt (x : Binary64) : x.word < 2 ^ 64 := x.bits.toNat_lt

theorem eq_of_word_eq {x y : Binary64} (h : x.word = y.word) : x = y := by
  cases x
  cases y
  exact congrArg Binary64.mk (UInt64.toNat_inj.mp h)

theorem word_ofWord (negative : Bool) (w : Nat) :
    (ofWord negative w).word = (if negative then 2 ^ 63 else 0) + min w infinityWord := by
  simp only [ofWord, word, UInt64.toNat_ofNat']
  apply Nat.mod_eq_of_lt
  have hw : min w infinityWord ≤ 2047 * 2 ^ 52 := Nat.min_le_right _ _
  split <;> omega

theorem fraction_lt (x : Binary64) : x.fraction < 2 ^ 52 := Nat.mod_lt _ (by decide)

theorem exponentField_lt_of_isFinite {x : Binary64} (hx : x.isFinite = true) :
    x.exponentField < 2047 := by
  have hlt : x.exponentField < 2 ^ 11 := Nat.mod_lt _ (by decide)
  simp only [isFinite, bne_iff_ne, ne_eq] at hx
  omega

/-- The bits below the sign bit are the exponent bits over the fraction bits. -/
theorem magnitudeWord_eq (x : Binary64) :
    x.word % 2 ^ 63 = x.exponentField * 2 ^ 52 + x.fraction := by
  simp only [exponentField, fraction]
  omega

theorem magnitudeWord_lt_of_isFinite {x : Binary64} (hx : x.isFinite = true) :
    x.word % 2 ^ 63 < infinityWord := by
  have hfield := exponentField_lt_of_isFinite hx
  have hfraction := fraction_lt x
  rw [magnitudeWord_eq]
  simp only [infinityWord]
  omega

/-- A finite number is made of its sign and its magnitude bits. -/
theorem ofWord_magnitudeWord {x : Binary64} (hx : x.isFinite = true) :
    ofWord x.isNegative (x.word % 2 ^ 63) = x := by
  apply eq_of_word_eq
  have hlt := word_lt x
  rw [word_ofWord, Nat.min_eq_left (Nat.le_of_lt (magnitudeWord_lt_of_isFinite hx))]
  by_cases hs : 2 ^ 63 ≤ x.word
  · simp only [isNegative, hs, decide_true, if_true]
    omega
  · simp only [isNegative, hs, decide_false, Bool.false_eq_true, if_false]
    omega

theorem word_withSign {x : Binary64} (hx : x.isFinite = true) :
    (x.withSign false).word = x.word % 2 ^ 63 := by
  rw [withSign, word_ofWord, if_neg Bool.false_ne_true, Nat.zero_add,
    Nat.min_eq_left (Nat.le_of_lt (magnitudeWord_lt_of_isFinite hx))]

section

variable {x : Binary64} (hx : x.isFinite = true)

include hx

theorem magnitudeWord_withSign : (x.withSign false).word % 2 ^ 63 = x.word % 2 ^ 63 := by
  rw [word_withSign hx, Nat.mod_mod]

theorem isZero_withSign : (x.withSign false).isZero = x.isZero := by
  rw [isZero, magnitudeWord_withSign hx, isZero]

theorem isFinite_withSign : (x.withSign false).isFinite = true := by
  simp only [isFinite, exponentField, word_withSign hx, bne_iff_ne, ne_eq] at hx ⊢
  omega

theorem withSign_withSign : (x.withSign false).withSign false = x.withSign false := by
  rw [withSign, magnitudeWord_withSign hx, withSign]

end

/-! ## Equal quotients round alike -/

theorem nearestEven_mul {k : Nat} (hk : 0 < k) (num den : Nat) :
    nearestEven (num * k) (den * k) = nearestEven num den := by
  have hless (m n : Nat) : 2 * (m * k) < n * k ↔ 2 * m < n := by
    rw [← Nat.mul_assoc]
    exact Nat.mul_lt_mul_right hk
  have hmore (m n : Nat) : n * k < 2 * (m * k) ↔ n < 2 * m := by
    rw [← Nat.mul_assoc]
    exact Nat.mul_lt_mul_right hk
  simp only [nearestEven, Nat.mul_div_mul_right _ _ hk, Nat.mul_mod_mul_right, hless, hmore]

theorem ofUnits_mul {k : Nat} (hk : 0 < k) (negative : Bool) (num den : Nat) :
    ofUnits negative (num * k) (den * k) = ofUnits negative num den := by
  simp only [ofUnits, Nat.mul_div_mul_right _ _ hk, Nat.mul_right_comm den k, nearestEven_mul hk]

theorem ofUnits_congr {num den num' den' : Nat} (hden : 0 < den) (hden' : 0 < den')
    (h : num * den' = num' * den) (negative : Bool) :
    ofUnits negative num den = ofUnits negative num' den' := by
  rw [← ofUnits_mul hden' negative num den, h, Nat.mul_comm den den',
    ofUnits_mul hden negative num' den']

/-! ## Numbers are their own rounding -/

theorem nearestEven_mul_self {k : Nat} (hk : 0 < k) (n : Nat) : nearestEven (n * k) k = n := by
  simp [nearestEven, Nat.mul_div_cancel _ hk, Nat.mul_mod_left, hk]

/-- The significand of a normal number fills fifty-three bits. -/
theorem log2_magnitude {x : Binary64} (hx : x.exponentField ≠ 0) :
    Nat.log2 x.magnitude = 52 + x.scale := by
  have hfraction := fraction_lt x
  have hsig : x.significand = 2 ^ 52 + x.fraction := by simp [significand, hx]
  have hpow : 0 < 2 ^ x.scale := Nat.two_pow_pos _
  have hlow : 2 ^ (52 + x.scale) ≤ x.magnitude := by
    rw [magnitude, hsig, Nat.pow_add]
    exact Nat.mul_le_mul_right _ (by omega)
  have hhigh : x.magnitude < 2 ^ (52 + x.scale + 1) := by
    rw [magnitude, hsig, show 52 + x.scale + 1 = 53 + x.scale by omega, Nat.pow_add]
    exact Nat.mul_lt_mul_of_pos_right (by omega) hpow
  have hne : x.magnitude ≠ 0 := Nat.ne_of_gt (Nat.lt_of_lt_of_le (Nat.two_pow_pos _) hlow)
  exact (Nat.log2_eq_iff hne).mpr ⟨hlow, hhigh⟩

theorem ofUnits_magnitude (negative : Bool) (x : Binary64) :
    ofUnits negative x.magnitude 1 = ofWord negative (x.word % 2 ^ 63) := by
  simp only [ofUnits, Nat.div_one, Nat.one_mul, magnitudeWord_eq]
  by_cases hfield : x.exponentField = 0
  · have hmag : x.magnitude = x.fraction := by simp [magnitude, significand, scale, hfield]
    have hlog : Nat.log2 x.fraction - 52 = 0 := by
      by_cases hzero : x.fraction = 0
      · simp [hzero]
      · have hlt := (Nat.log2_lt hzero).mpr (fraction_lt x)
        omega
    rw [hmag, hlog, hfield]
    have hround := nearestEven_mul_self Nat.one_pos x.fraction
    simpa using congrArg (ofWord negative) hround
  · have hsig : x.significand = 2 ^ 52 + x.fraction := by simp [significand, hfield]
    have hround : nearestEven x.magnitude (2 ^ x.scale) = x.significand :=
      nearestEven_mul_self (Nat.two_pow_pos _) _
    rw [log2_magnitude hfield, show 52 + x.scale - 52 = x.scale by omega, hround, hsig]
    have hword : x.scale * 2 ^ 52 + (2 ^ 52 + x.fraction) =
        x.exponentField * 2 ^ 52 + x.fraction := by
      simp only [scale]
      omega
    rw [hword]

end Binary64

end RecordQuery
