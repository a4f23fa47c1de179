import RecordQuery.Number.Mixed
import RecordQuery.Proofs.Number.Integers

/-! # Comparison of integers with integral numbers

A binary number of integral value has that integer for its decimal, as long as
the integer fits a coefficient.  Integers are compared with it exactly.
-/

namespace RecordQuery

namespace Binary64

-- powers are those of the core library, whichever others are in scope
attribute [local instance (high)] instPowNat

namespace Scaled

theorem lower_mul_two_pow (k m : Nat) (e : Int) : lower k ⟨m * 2 ^ k, e⟩ = ⟨m, e + k⟩ := by
  induction k generalizing e with
  | zero => simp [lower]
  | succ k ih =>
      have hdouble : m * 2 ^ (k + 1) = 2 * (m * 2 ^ k) := by
        rw [Nat.pow_succ]
        ac_rfl
      have heven : 2 * (m * 2 ^ k) % 2 = 0 := Nat.mul_mod_right 2 _
      have hexponent : e + 1 + (k : Int) = e + (k + 1 : Nat) := by omega
      rw [hdouble, lower, if_pos heven, Nat.mul_div_cancel_left _ Nat.two_pos, ih, hexponent]

theorem raise?_of_lt {k m : Nat} (h : m * 2 ^ k < limit) (e : Int) :
    raise? k ⟨m, e⟩ = some ⟨m * 2 ^ k, e - k⟩ := by
  induction k generalizing m e with
  | zero => simp [raise?]
  | succ k ih =>
      have hdouble : m * 2 ^ (k + 1) = m * 2 * 2 ^ k := by
        rw [Nat.pow_succ]
        ac_rfl
      rw [hdouble] at h ⊢
      have hroom : m * 2 < limit :=
        Nat.lt_of_le_of_lt (Nat.le_mul_of_pos_right _ (Nat.two_pow_pos k)) h
      have hexponent : e - 1 - (k : Int) = e - (k + 1 : Nat) := by omega
      rw [raise?, if_pos hroom, ih h, hexponent]

/-- The decimal of an integral number has no places. -/
theorem ofBinary64?_of_integral {x : Binary64} {n : Nat} (hn : n < limit)
    (hx : x.magnitude = n * unitsPerOne) : ofBinary64? x = some ⟨n, 0⟩ := by
  rw [magnitude] at hx
  by_cases hsmall : (x.scale : Int) - 1074 < 0
  · -- the significand holds the powers of two that are taken off
    obtain ⟨k, hk⟩ : ∃ k, k + x.scale = 1074 := ⟨1074 - x.scale, by omega⟩
    have hsteps : ((x.scale : Int) - 1074).natAbs = k := by omega
    have hsig : x.significand = n * 2 ^ k := by
      rw [unitsPerOne_eq hk, ← Nat.mul_assoc] at hx
      exact Nat.eq_of_mul_eq_mul_right (Nat.two_pow_pos _) hx
    have hexponent : (x.scale : Int) - 1074 + k = 0 := by omega
    simp only [ofBinary64?, if_pos hsmall, hsteps, hsig, lower_mul_two_pow, hexponent]
    rfl
  · -- the coefficient has room for those that are put on
    obtain ⟨k, hk⟩ : ∃ k, x.scale = k + 1074 := ⟨x.scale - 1074, by omega⟩
    have hsteps : ((x.scale : Int) - 1074).toNat = k := by omega
    have hsig : x.significand * 2 ^ k = n := by
      rw [hk, unitsPerOne] at hx
      generalize 1074 = units at hx
      rw [Nat.pow_add, ← Nat.mul_assoc] at hx
      exact Nat.eq_of_mul_eq_mul_right (Nat.two_pow_pos _) hx
    have hexponent : (x.scale : Int) - 1074 - k = 0 := by omega
    have hroom : x.significand * 2 ^ k < limit := hsig ▸ hn
    simp only [ofBinary64?, if_neg hsmall, hsteps, raise?_of_lt hroom, hsig, hexponent]
    rfl

end Scaled

theorem magnitude_of_isZero {x : Binary64} (hx : x.isZero = true) : x.magnitude = 0 := by
  have hword : x.word % 2 ^ 63 = 0 := by simpa [isZero] using hx
  rw [magnitudeWord_eq] at hword
  have hfield : x.exponentField = 0 := by omega
  have hfraction : x.fraction = 0 := by omega
  rw [magnitude, significand, if_pos hfield, hfraction, Nat.zero_mul]

/-- Integers are compared exactly with a number of integral value. -/
theorem compareInt?_of_integral {x : Binary64} {m : Int} (hfinite : x.isFinite = true)
    (hm : m.natAbs < Scaled.limit) (hx : x.units = m * unitsPerOne) (n : Int) :
    compareInt? n x = some (compare n m) := by
  have hone : unitsPerOne ≠ 0 := unitsPerOne_ne_zero
  have hmagnitude : x.magnitude = m.natAbs * unitsPerOne := by
    have habs := congrArg Int.natAbs hx
    rw [Int.natAbs_mul, Int.natAbs_natCast] at habs
    rw [← habs, units]
    split <;> simp
  have hdecimal : (if x.isZero then some ⟨0, 0⟩
      else if x.isFinite then Scaled.ofBinary64? x else none) = some ⟨m.natAbs, 0⟩ := by
    rw [if_pos hfinite]
    split
    · rename_i hzero
      rw [magnitude_of_isZero hzero] at hmagnitude
      have hm : m.natAbs = 0 := by
        rcases Nat.mul_eq_zero.mp hmagnitude.symm with h | h
        · exact h
        · exact absurd h hone
      rw [hm]
    · rw [Scaled.ofBinary64?_of_integral hm hmagnitude]
  have hsign : (if x.isNegative then -(m.natAbs : Int) else m.natAbs) = m := by
    have hscaled : (if x.isNegative then -(m.natAbs : Int) else m.natAbs) * unitsPerOne =
        m * unitsPerOne := by
      rw [← hx, units, hmagnitude]
      generalize unitsPerOne = units
      split <;> simp
    exact Int.eq_of_mul_eq_mul_right (Int.natCast_ne_zero.mpr hone) hscaled
  rw [compareInt?]
  simp only [hdecimal, hsign]
  simp

/-- Integers are compared exactly with the rounding of an integer of at most sixty-four bits. -/
theorem compareInt?_ofInt {m : Int} (hm : m.natAbs < 2 ^ 64) (n : Int) :
    compareInt? n (ofInt m) = some (compare n (m.sign * roundedInteger m.natAbs)) := by
  obtain ⟨hfinite, hunits⟩ := ofInt_spec hm
  refine compareInt?_of_integral hfinite ?_ hunits n
  have hround := roundedInteger_le m.natAbs
  have hsign : (m.sign * roundedInteger m.natAbs).natAbs ≤ roundedInteger m.natAbs := by
    rw [Int.natAbs_mul, Int.natAbs_natCast, Int.natAbs_sign]
    split <;> omega
  rw [Scaled.limit]
  omega

/-- An integer equals the binary number nearest to it exactly if it is not rounded. -/
theorem compareInt?_ofInt_self_eq_iff {n : Int} (hn : n.natAbs < 2 ^ 64) :
    compareInt? n (ofInt n) = some .eq ↔ roundedInteger n.natAbs = n.natAbs := by
  rw [compareInt?_ofInt hn, Option.some_inj, Int.compare_eq_eq]
  constructor
  · intro h
    by_cases hzero : n = 0
    · subst hzero
      exact (roundedInteger_eq_self_iff 0).mpr ⟨0, 0, Nat.two_pow_pos _, rfl⟩
    · have habs := congrArg Int.natAbs h
      rw [Int.natAbs_mul, Int.natAbs_natCast, Int.natAbs_sign_of_ne_zero hzero, Nat.one_mul] at habs
      exact habs.symm
  · intro h
    rw [h, Int.sign_mul_natAbs]

end Binary64

end RecordQuery
