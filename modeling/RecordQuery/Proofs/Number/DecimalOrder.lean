import RecordQuery.Proofs.Number.DecimalSteps
import RecordQuery.Proofs.Number.MixedOrder

/-! # The order of decimals

A greater number never has a smaller decimal.  Two numbers of different size
differ by far more than taking powers of two off loses, and rounding keeps the
order.  Numbers too large for a decimal are integers above all that have one.
-/

namespace RecordQuery

namespace Binary64

-- powers are those of the core library, whichever others are in scope
attribute [local instance (high)] instPowNat

namespace Scaled

/-! ## Numbers beyond decimals -/

theorem raise?_eq_none {k m : Nat} (hm : m < limit) (h : limit ≤ m * 2 ^ k) :
    raise? k ⟨m, k⟩ = none := by
  induction k generalizing m with
  | zero => omega
  | succ k ih =>
      unfold raise?
      by_cases hroom : m * 2 < limit
      · have hexponent : ((k + 1 : Nat) : Int) - 1 = k := by omega
        rw [if_pos hroom, hexponent]
        apply ih hroom
        rw [Nat.mul_assoc, ← Nat.pow_succ']
        exact h
      · have htwice : 2 * ((k + 1 : Nat) : Int) > k + 1 := by omega
        rw [if_neg hroom, if_pos htwice]

end Scaled

/-! ## Neighbours -/

theorem significand_lt (x : Binary64) : x.significand < 2 ^ 53 := by
  have hfraction := fraction_lt x
  unfold significand
  split <;> omega

/-- A significand that is scaled fills fifty-three bits. -/
theorem le_significand {x : Binary64} (hx : x.scale ≠ 0) : 2 ^ 52 ≤ x.significand := by
  have hfield : x.exponentField ≠ 0 := by
    unfold scale at hx
    omega
  rw [significand, if_neg hfield]
  exact Nat.le_add_right _ _

theorem scale_le_scale {x y : Binary64} (h : x.magnitude ≤ y.magnitude) : x.scale ≤ y.scale := by
  by_contra hlt
  obtain ⟨k, hk⟩ : ∃ k, x.scale = y.scale + (k + 1) := ⟨x.scale - y.scale - 1, by omega⟩
  have hlow : 2 ^ 52 ≤ x.significand := le_significand (by omega)
  have hhigh := significand_lt y
  have hpow : 0 < 2 ^ y.scale := Nat.two_pow_pos _
  have hstep : 2 ^ 1 ≤ 2 ^ (k + 1) := Nat.pow_le_pow_right (by decide) (by omega)
  have hless : y.magnitude < x.magnitude := by
    calc y.magnitude
        < 2 ^ 53 * 2 ^ y.scale := Nat.mul_lt_mul_of_pos_right hhigh hpow
      _ = 2 ^ 52 * (2 ^ y.scale * 2 ^ 1) := by omega
      _ ≤ 2 ^ 52 * (2 ^ y.scale * 2 ^ (k + 1)) :=
          Nat.mul_le_mul_left _ (Nat.mul_le_mul_left _ hstep)
      _ ≤ x.significand * (2 ^ y.scale * 2 ^ (k + 1)) := Nat.mul_le_mul_right _ hlow
      _ = x.magnitude := by rw [magnitude, hk, ← Nat.pow_add]
  omega

/-- Two numbers of different size differ by at least the last of fifty-three bits. -/
theorem magnitude_gap {x y : Binary64} (h : x.magnitude < y.magnitude) :
    x.magnitude * (2 ^ 53 + 1) ≤ y.magnitude * 2 ^ 53 := by
  obtain ⟨k, hk⟩ := Nat.exists_eq_add_of_le (scale_le_scale h.le)
  have hsplit : y.magnitude = y.significand * 2 ^ k * 2 ^ x.scale := by
    rw [magnitude, hk, Nat.pow_add]
    ac_rfl
  have hfewer : x.significand < y.significand * 2 ^ k := by
    rw [hsplit, magnitude] at h
    exact Nat.lt_of_mul_lt_mul_right h
  have hsignificand : x.significand * (2 ^ 53 + 1) ≤ y.significand * 2 ^ k * 2 ^ 53 := by
    have hbits := significand_lt x
    omega
  calc x.magnitude * (2 ^ 53 + 1)
      = x.significand * (2 ^ 53 + 1) * 2 ^ x.scale := Nat.mul_right_comm _ _ _
    _ ≤ y.significand * 2 ^ k * 2 ^ 53 * 2 ^ x.scale := Nat.mul_le_mul_right _ hsignificand
    _ = y.magnitude * 2 ^ 53 := by rw [hsplit, Nat.mul_right_comm]

theorem size_le_size {x y : Binary64} : x.size ≤ y.size ↔ x.magnitude ≤ y.magnitude := by
  rw [size, size, div_le_div_iff_of_pos_right unitsPerOne_cast_pos, Nat.cast_le]

theorem size_gap {x y : Binary64} (h : x.size < y.size) : x.size * (1 + 1 / 2 ^ 53) ≤ y.size := by
  rw [← not_le, size_le_size, not_le] at h
  have hgap : (x.magnitude * (2 ^ 53 + 1) : ℚ) ≤ y.magnitude * 2 ^ 53 := by
    exact_mod_cast magnitude_gap h
  have hone := unitsPerOne_cast_pos
  rw [size, size, div_mul_eq_mul_div, div_le_div_iff_of_pos_right hone]
  linarith

theorem size_lt_of_small {x : Binary64} (h : x.scale < 1074) : x.size < 2 ^ 53 := by
  obtain ⟨s, hs⟩ : ∃ s, s + x.scale = 1074 := ⟨1074 - x.scale, by omega⟩
  have hsignificand : (x.significand : ℚ) < 2 ^ 53 := by exact_mod_cast significand_lt x
  have hpowers : (1 : ℚ) ≤ 2 ^ s * 10 ^ 0 := by
    rw [pow_zero, mul_one]
    exact one_le_pow₀ (by norm_num)
  rw [size_eq_owing hs, Scaled.owing, div_lt_iff₀ (by positivity)]
  linarith

/-! ## Decimals of numbers -/

/-- The size of a number's decimal; a number without one keeps its own. -/
def decimalSize (x : Binary64) : ℚ :=
  match x.decimal? with
  | some d => d.toRat
  | none => x.size

theorem decimalSize_nonneg (x : Binary64) : 0 ≤ x.decimalSize := by
  unfold decimalSize
  split
  · exact Scaled.toRat_nonneg _
  · exact x.size_nonneg

theorem decimalValue_eq_decimalSize (x : Binary64) :
    x.decimalValue = if x.isNegative then -x.decimalSize else x.decimalSize := by
  unfold decimalValue decimalSize
  cases x.decimal? with
  | some d => rfl
  | none => exact toRat_eq x

section

variable {x y : Binary64} (hx : x.isFinite = true)

include hx

theorem decimalSize_of_size_eq_zero (hzero : x.size = 0) : x.decimalSize = 0 := by
  obtain ⟨c, r, hdecimal, hfollows, -, -⟩ := decimal?_spec hx (by rw [hzero]; norm_num)
  have hle := hfollows.below 0 (by rw [hzero, Nat.cast_zero])
  rw [decimalSize, hdecimal]
  exact le_antisymm (by simpa using hle) (Scaled.toRat_nonneg _)

theorem decimalSize_of_small {s : Nat} (hs : s + x.scale = 1074) (hpos : 0 < s) :
    x.decimalSize = (Scaled.roundPlaces s x.significand).toRat := by
  by_cases hzero : x.isZero = true
  · have hsize : x.size = 0 := by
      rw [size, magnitude_of_isZero hzero, Nat.cast_zero, zero_div]
    obtain ⟨c, r, hround, hfollows, -, -⟩ :=
      Scaled.roundPlaces_spec x.significand (s := s) (by omega)
    have hle := hfollows.below 0 (by rw [← size_eq_owing hs, hsize, Nat.cast_zero])
    rw [decimalSize_of_size_eq_zero hx hsize, hround]
    exact le_antisymm (Scaled.toRat_nonneg _) (by simpa using hle)
  · rw [decimalSize, decimal?, if_neg hzero, if_pos hx, Scaled.ofBinary64?_of_small hs hpos]

end

/-- A number with fifty-three bits above the point is an integer. -/
theorem magnitude_of_large {x : Binary64} {t : Nat} (ht : x.scale = t + 1074) :
    x.magnitude = x.significand * 2 ^ t * unitsPerOne := by
  rw [magnitude, ht, unitsPerOne]
  generalize 1074 = units
  rw [Nat.pow_add, Nat.mul_assoc]

theorem size_of_large {x : Binary64} {t : Nat} (ht : x.scale = t + 1074) :
    x.size = (x.significand * 2 ^ t : Nat) := by
  rw [size, magnitude_of_large ht, Nat.cast_mul _ unitsPerOne,
    mul_div_cancel_right₀ _ unitsPerOne_cast_pos.ne']

theorem Scaled.ofBinary64?_eq_none {x : Binary64} {t : Nat} (ht : x.scale = t + 1074)
    (h : limit ≤ x.significand * 2 ^ t) : ofBinary64? x = none := by
  have hexponent : (x.scale : Int) - 1074 = t := by omega
  have hlarge : ¬ (t : Int) < 0 := by omega
  have hroom : x.significand < limit := Nat.lt_trans (significand_lt x) (by decide)
  simp only [ofBinary64?, hexponent, if_neg hlarge, Int.toNat_natCast, raise?_eq_none hroom h]
  rfl

theorem Scaled.toRat_integer (n : Nat) : toRat ⟨n, 0⟩ = n := by
  simp [toRat]

/-- Integral numbers are their decimals, or have none. -/
theorem decimalSize_of_large {x : Binary64} {t : Nat} (ht : x.scale = t + 1074) :
    x.decimalSize = x.size := by
  unfold decimalSize decimal?
  by_cases hzero : x.isZero = true
  · rw [if_pos hzero, size, magnitude_of_isZero hzero, Nat.cast_zero, zero_div]
    exact Scaled.toRat_integer 0
  · rw [if_neg hzero]
    by_cases hx : x.isFinite = true
    · rw [if_pos hx]
      by_cases hfits : x.significand * 2 ^ t < Scaled.limit
      · rw [Scaled.ofBinary64?_of_integral hfits (magnitude_of_large ht), size_of_large ht]
        exact Scaled.toRat_integer _
      · rw [Scaled.ofBinary64?_eq_none ht (Nat.le_of_not_lt hfits)]
    · rw [if_neg hx]

theorem isFinite_of_isZero {x : Binary64} (hx : x.isZero = true) : x.isFinite = true := by
  have hword : x.word % 2 ^ 63 = 0 := by simpa [isZero] using hx
  rw [magnitudeWord_eq] at hword
  unfold isFinite
  rw [bne_iff_ne]
  omega

/-- Only numbers from two to the ninety-sixth on, and those that are not finite, have no decimal. -/
theorem decimal?_eq_none_iff (x : Binary64) :
    x.decimal? = none ↔ (x.isFinite = true → 2 ^ 96 ≤ x.size) := by
  constructor
  · intro h hx
    by_contra hfits
    obtain ⟨c, r, hdecimal, -⟩ := decimal?_spec hx (not_le.mp hfits)
    rw [h] at hdecimal
    cases hdecimal
  · intro h
    have hzero : x.isZero ≠ true := by
      intro hzero
      have hlarge := h (isFinite_of_isZero hzero)
      rw [size, magnitude_of_isZero hzero, Nat.cast_zero, zero_div] at hlarge
      norm_num at hlarge
    rw [decimal?, if_neg hzero]
    by_cases hx : x.isFinite = true
    · have hlarge := h hx
      have hscale : ¬ x.scale < 1074 := by
        intro hsmall
        have hbits := size_lt_of_small hsmall
        norm_num at hbits hlarge
        linarith
      obtain ⟨t, ht⟩ : ∃ t, x.scale = t + 1074 := ⟨x.scale - 1074, by omega⟩
      rw [size_of_large ht] at hlarge
      rw [if_pos hx, Scaled.ofBinary64?_eq_none ht (by exact_mod_cast hlarge)]
    · rw [if_neg hx]

section

variable {x y : Binary64} (hx : x.isFinite = true) (hy : y.isFinite = true)

include hx hy

theorem decimalSize_mono (h : x.size ≤ y.size) : x.decimalSize ≤ y.decimalSize := by
  have hscale : x.scale ≤ y.scale := scale_le_scale (size_le_size.mp h)
  by_cases hsmall : y.scale < 1074
  · obtain ⟨s, hs⟩ : ∃ s, s + x.scale = 1074 := ⟨1074 - x.scale, by omega⟩
    obtain ⟨s', hs'⟩ : ∃ s', s' + y.scale = 1074 := ⟨1074 - y.scale, by omega⟩
    rw [decimalSize_of_small hx hs (by omega), decimalSize_of_small hy hs' (by omega)]
    rcases h.lt_or_eq with hlt | heq
    · have hgap := size_gap hlt
      rw [size_eq_owing hs, size_eq_owing hs'] at hgap
      exact Scaled.roundPlaces_mono (by omega) (by omega)
        (Scaled.lower_le_lower (by omega) (by omega) hgap)
    · -- equal sizes are written in one way only
      have hscale' : y.scale ≤ x.scale := scale_le_scale (size_le_size.mp heq.ge)
      obtain rfl : s = s' := by omega
      have hsignificand : x.significand = y.significand := by
        rw [size_eq_owing hs, size_eq_owing hs', Scaled.owing, Scaled.owing,
          div_left_inj' (by positivity)] at heq
        exact_mod_cast heq
      rw [hsignificand]
  · obtain ⟨t, ht⟩ : ∃ t, y.scale = t + 1074 := ⟨y.scale - 1074, by omega⟩
    rw [decimalSize_of_large ht]
    by_cases hlarge : x.scale < 1074
    · have hfits : x.size < 2 ^ 96 := (size_lt_of_small hlarge).trans (by norm_num)
      obtain ⟨c, r, hdecimal, hfollows, -, -⟩ := decimal?_spec hx hfits
      rw [decimalSize, hdecimal, size_of_large ht]
      apply hfollows.below
      rw [← size_of_large ht]
      exact h
    · obtain ⟨t', ht'⟩ : ∃ t', x.scale = t' + 1074 := ⟨x.scale - 1074, by omega⟩
      rw [decimalSize_of_large ht']
      exact h

/-- A greater number never has a smaller decimal. -/
theorem decimalValue_mono (h : x.toRat ≤ y.toRat) : x.decimalValue ≤ y.decimalValue := by
  have hxsize := x.size_nonneg
  have hysize := y.size_nonneg
  have hxnonneg := x.decimalSize_nonneg
  have hynonneg := y.decimalSize_nonneg
  rw [toRat_eq, toRat_eq] at h
  rw [decimalValue_eq_decimalSize, decimalValue_eq_decimalSize]
  by_cases hxsign : x.isNegative = true
  · rw [if_pos hxsign] at h ⊢
    by_cases hysign : y.isNegative = true
    · rw [if_pos hysign] at h ⊢
      exact neg_le_neg (decimalSize_mono hy hx (neg_le_neg_iff.mp h))
    · rw [if_neg hysign]
      linarith
  · rw [if_neg hxsign] at h ⊢
    by_cases hysign : y.isNegative = true
    · -- both are zero
      rw [if_pos hysign] at h ⊢
      rw [decimalSize_of_size_eq_zero hx (by linarith),
        decimalSize_of_size_eq_zero hy (by linarith), neg_zero]
    · rw [if_neg hysign] at h ⊢
      exact decimalSize_mono hx hy h

end

end Binary64

end RecordQuery
