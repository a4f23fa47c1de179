import RecordQuery.Proofs.Number.PositionalText

/-! # Integers as binary numbers

The binary number nearest to an integer has the value of the integer rounded to
fifty-three significant bits.
-/

namespace RecordQuery

theorem natAbs_toInt_lt (n : Int64) : n.toInt.natAbs < 2 ^ 64 := by
  have hlow := n.le_toInt
  have hhigh := n.toInt_lt
  omega

namespace Binary64

-- powers are those of the core library, whichever others are in scope
attribute [local instance (high)] instPowNat

/-! ## Fields of a word -/

section

variable {w : Nat} (negative : Bool) (hw : w < infinityWord)

include hw

theorem word_ofWord_of_lt :
    (ofWord negative w).word = (if negative then 2 ^ 63 else 0) + w := by
  rw [word_ofWord, Nat.min_eq_left (Nat.le_of_lt hw)]

theorem isNegative_ofWord : (ofWord negative w).isNegative = negative := by
  rw [infinityWord] at hw
  cases negative with
  | false =>
      have hlt : ¬ 2 ^ 63 ≤ w := by omega
      simpa [isNegative, word_ofWord_of_lt _ hw] using hlt
  | true => simp [isNegative, word_ofWord_of_lt _ hw]

theorem exponentField_ofWord : (ofWord negative w).exponentField = w / 2 ^ 52 := by
  rw [exponentField, word_ofWord_of_lt negative hw]
  rw [infinityWord] at hw
  split <;> omega

theorem fraction_ofWord : (ofWord negative w).fraction = w % 2 ^ 52 := by
  rw [fraction, word_ofWord_of_lt negative hw]
  split <;> omega

theorem isFinite_ofWord : (ofWord negative w).isFinite = true := by
  rw [isFinite, exponentField_ofWord negative hw, bne_iff_ne]
  rw [infinityWord] at hw
  omega

end

/-- A significand of fifty-three bits, or the next power of two, above a power of two. -/
theorem magnitude_ofWord (negative : Bool) {power q : Nat} (hlow : 2 ^ 52 ≤ q)
    (hhigh : q ≤ 2 ^ 53) (hw : power * 2 ^ 52 + q < infinityWord) :
    (ofWord negative (power * 2 ^ 52 + q)).magnitude = q * 2 ^ power := by
  have hfield : (power * 2 ^ 52 + q) / 2 ^ 52 ≠ 0 := by omega
  rw [magnitude, significand, scale, exponentField_ofWord negative hw,
    fraction_ofWord negative hw, if_neg hfield]
  rcases Nat.lt_or_eq_of_le hhigh with hlt | rfl
  · have hscale : (power * 2 ^ 52 + q) / 2 ^ 52 - 1 = power := by omega
    have hsig : 2 ^ 52 + (power * 2 ^ 52 + q) % 2 ^ 52 = q := by omega
    rw [hscale, hsig]
  · -- the carry out of the fraction stands in the exponent
    have hscale : (power * 2 ^ 52 + 2 ^ 53) / 2 ^ 52 - 1 = power + 1 := by omega
    have hsig : 2 ^ 52 + (power * 2 ^ 52 + 2 ^ 53) % 2 ^ 52 = 2 ^ 52 := by omega
    rw [hscale, hsig, Nat.pow_succ]
    omega

/-! ## Rounding of integers -/

/-- The number of units in one, split at a power of two. -/
theorem unitsPerOne_eq {a b : Nat} (h : a + b = 1074) : unitsPerOne = 2 ^ a * 2 ^ b := by
  rw [← Nat.pow_add, h, unitsPerOne]

theorem unitsPerOne_ne_zero : unitsPerOne ≠ 0 := by
  obtain ⟨k, hk⟩ : ∃ k, k + 0 = 1074 := ⟨1074, rfl⟩
  rw [unitsPerOne_eq hk]
  exact Nat.mul_ne_zero (Nat.ne_of_gt (Nat.two_pow_pos k)) Nat.one_ne_zero

theorem le_nearestEven (num den : Nat) : num / den ≤ nearestEven num den := by
  simp only [nearestEven]
  split_ifs <;> omega

theorem nearestEven_le (num den : Nat) : nearestEven num den ≤ num / den + 1 := by
  simp only [nearestEven]
  split_ifs <;> omega

theorem log2_mul_two_pow {n : Nat} (hn : n ≠ 0) (k : Nat) :
    (n * 2 ^ k).log2 = n.log2 + k := by
  have hlow : 2 ^ n.log2 ≤ n := Nat.log2_self_le hn
  have hhigh : n < 2 ^ (n.log2 + 1) := Nat.lt_log2_self
  have hpow : 0 < 2 ^ k := Nat.two_pow_pos k
  refine (Nat.log2_eq_iff (Nat.mul_ne_zero hn (Nat.ne_of_gt hpow))).mpr ⟨?_, ?_⟩
  · rw [Nat.pow_add]
    exact Nat.mul_le_mul_right _ hlow
  · rw [Nat.add_right_comm, Nat.pow_add]
    exact Nat.mul_lt_mul_of_pos_right hhigh hpow

/-- A natural number rounded to fifty-three significant bits. -/
def roundedInteger (n : Nat) : Nat :=
  nearestEven n (2 ^ (n.log2 - 52)) * 2 ^ (n.log2 - 52)

/-- Rounding at most doubles. -/
theorem roundedInteger_le (n : Nat) : roundedInteger n ≤ 2 * n := by
  by_cases hn : n = 0
  · simp [hn, roundedInteger, nearestEven]
  have hpow : 2 ^ (n.log2 - 52) ≤ n :=
    Nat.le_trans (Nat.pow_le_pow_right (by decide) (Nat.sub_le _ _)) (Nat.log2_self_le hn)
  calc roundedInteger n
      ≤ (n / 2 ^ (n.log2 - 52) + 1) * 2 ^ (n.log2 - 52) :=
        Nat.mul_le_mul_right _ (nearestEven_le _ _)
    _ = n / 2 ^ (n.log2 - 52) * 2 ^ (n.log2 - 52) + 2 ^ (n.log2 - 52) := Nat.succ_mul _ _
    _ ≤ n + n := Nat.add_le_add (Nat.div_mul_le_self _ _) hpow
    _ = 2 * n := (Nat.two_mul n).symm

/-- Rounding keeps the integers whose odd part has at most fifty-three bits. -/
theorem roundedInteger_eq_self_iff (n : Nat) :
    roundedInteger n = n ↔ ∃ m k, m < 2 ^ 53 ∧ n = m * 2 ^ k := by
  by_cases hn : n = 0
  · subst hn
    have hself : roundedInteger 0 = 0 := by simp [roundedInteger, nearestEven]
    exact ⟨fun _ => ⟨0, 0, Nat.two_pow_pos _, rfl⟩, fun _ => hself⟩
  have hlow : 2 ^ n.log2 ≤ n := Nat.log2_self_le hn
  have hhigh : n < 2 ^ (n.log2 + 1) := Nat.lt_log2_self
  constructor
  · intro hself
    refine ⟨nearestEven n (2 ^ (n.log2 - 52)), n.log2 - 52, ?_, hself.symm⟩
    have hlt : nearestEven n (2 ^ (n.log2 - 52)) * 2 ^ (n.log2 - 52) <
        2 ^ 53 * 2 ^ (n.log2 - 52) := by
      rw [roundedInteger] at hself
      rw [hself, ← Nat.pow_add]
      exact Nat.lt_of_lt_of_le hhigh (Nat.pow_le_pow_right (by decide) (by omega))
    exact Nat.lt_of_mul_lt_mul_right hlt
  · rintro ⟨m, k, hm, hmk⟩
    have hle : n.log2 - 52 ≤ k := by
      have hlt : 2 ^ n.log2 < 2 ^ (53 + k) := by
        refine Nat.lt_of_le_of_lt hlow ?_
        rw [hmk, Nat.pow_add]
        exact Nat.mul_lt_mul_of_pos_right hm (Nat.two_pow_pos k)
      have hexponents := (Nat.pow_lt_pow_iff_right (by decide)).mp hlt
      omega
    have hmultiple : n = m * 2 ^ (k - (n.log2 - 52)) * 2 ^ (n.log2 - 52) := by
      rw [Nat.mul_assoc, ← Nat.pow_add, Nat.sub_add_cancel hle]
      exact hmk
    have hround := nearestEven_mul_self (Nat.two_pow_pos (n.log2 - 52))
      (m * 2 ^ (k - (n.log2 - 52)))
    rw [← hmultiple] at hround
    rw [roundedInteger, hround, ← hmultiple]

/-! ## The number nearest to an integer -/

section

variable {n : Nat} (hn : n ≠ 0)

include hn

/-- The significand of a rounded integer fills fifty-three bits, or overflows them by one. -/
theorem integerSignificand_bounds :
    2 ^ 52 ≤ nearestEven (n * 2 ^ 52) (2 ^ n.log2) ∧
      nearestEven (n * 2 ^ 52) (2 ^ n.log2) ≤ 2 ^ 53 := by
  have hpow : 0 < 2 ^ n.log2 := Nat.two_pow_pos _
  have hlow : 2 ^ 52 ≤ n * 2 ^ 52 / 2 ^ n.log2 := by
    rw [Nat.le_div_iff_mul_le hpow, Nat.mul_comm]
    exact Nat.mul_le_mul_right _ (Nat.log2_self_le hn)
  have hhigh : n * 2 ^ 52 / 2 ^ n.log2 < 2 ^ 53 := by
    rw [Nat.div_lt_iff_lt_mul hpow]
    have hlt : n < 2 ^ (n.log2 + 1) := Nat.lt_log2_self
    rw [Nat.pow_succ] at hlt
    omega
  exact ⟨Nat.le_trans hlow (le_nearestEven _ _), Nat.le_trans (nearestEven_le _ _) hhigh⟩

theorem ofUnits_integer (negative : Bool) :
    ofUnits negative (n * unitsPerOne) 1 =
      ofWord negative ((n.log2 + 1022) * 2 ^ 52 + nearestEven (n * 2 ^ 52) (2 ^ n.log2)) := by
  have hround : nearestEven (n * unitsPerOne) (1 * 2 ^ (n.log2 + 1022)) =
      nearestEven (n * 2 ^ 52) (2 ^ n.log2) := by
    -- the exponent is hidden, so that nothing computes the power
    generalize hk : 1022 = k
    have hunits : unitsPerOne = 2 ^ 52 * 2 ^ k := unitsPerOne_eq (by omega)
    rw [hunits, Nat.one_mul, Nat.pow_add, ← Nat.mul_assoc]
    exact nearestEven_mul (Nat.two_pow_pos _) _ _
  have hpower : (n * unitsPerOne).log2 - 52 = n.log2 + 1022 := by
    rw [unitsPerOne]
    generalize hk : 1074 = k
    rw [log2_mul_two_pow hn]
    omega
  simp only [ofUnits, Nat.div_one, hpower, hround]

end

/-- The significand of an integer, scaled to its place, is the rounded integer. -/
theorem integerSignificand_mul (n : Nat) :
    nearestEven (n * 2 ^ 52) (2 ^ n.log2) * 2 ^ (n.log2 + 1022) =
      roundedInteger n * unitsPerOne := by
  by_cases hsmall : n.log2 ≤ 52
  · -- up to fifty-three bits nothing is rounded
    have hexact : n * 2 ^ 52 = n * 2 ^ (52 - n.log2) * 2 ^ n.log2 := by
      rw [Nat.mul_assoc, ← Nat.pow_add, Nat.sub_add_cancel hsmall]
    have hself : roundedInteger n = n := by
      rw [roundedInteger, Nat.sub_eq_zero_of_le hsmall]
      simpa using nearestEven_mul_self Nat.one_pos n
    have hsum : 52 - n.log2 + (n.log2 + 1022) = 1074 := by omega
    rw [hexact, nearestEven_mul_self (Nat.two_pow_pos _), hself, Nat.mul_assoc,
      unitsPerOne_eq hsum]
  · obtain ⟨e, he⟩ : ∃ e, n.log2 = e + 52 := ⟨n.log2 - 52, by omega⟩
    generalize hk : 1022 = k
    have hunits : unitsPerOne = 2 ^ 52 * 2 ^ k := unitsPerOne_eq (by omega)
    have hsplit : 2 ^ (e + 52 + k) = 2 ^ e * unitsPerOne := by
      rw [hunits, ← Nat.mul_assoc, ← Nat.pow_add, ← Nat.pow_add]
    rw [roundedInteger, he, Nat.add_sub_cancel, hsplit, Nat.pow_add 2 e 52,
      nearestEven_mul (Nat.two_pow_pos _), Nat.mul_assoc]

theorem ofInt_zero : ofInt 0 = ofWord false 0 := by simp [ofInt, ofUnits, nearestEven]

/-- The value of the number nearest to an integer is the rounded integer with its sign. -/
theorem ofInt_spec {n : Int} (hn : n.natAbs < 2 ^ 64) :
    (ofInt n).isFinite = true ∧
      (ofInt n).units = n.sign * roundedInteger n.natAbs * unitsPerOne := by
  by_cases hzero : n = 0
  · subst hzero
    have hw : 0 < infinityWord := by decide
    have hsig : (ofWord false 0).significand = 0 := by
      simp [significand, exponentField_ofWord _ hw, fraction_ofWord _ hw]
    rw [ofInt_zero, units, isNegative_ofWord _ hw, magnitude, hsig]
    refine ⟨isFinite_ofWord _ hw, ?_⟩
    generalize unitsPerOne = units
    simp
  · have hne : n.natAbs ≠ 0 := Int.natAbs_ne_zero.mpr hzero
    obtain ⟨hlow, hhigh⟩ := integerSignificand_bounds hne
    have hlog : n.natAbs.log2 < 64 := (Nat.log2_lt hne).mpr hn
    have hw : (n.natAbs.log2 + 1022) * 2 ^ 52 +
        nearestEven (n.natAbs * 2 ^ 52) (2 ^ n.natAbs.log2) < infinityWord := by
      rw [infinityWord]
      omega
    rw [ofInt, ofUnits_integer hne, units, isNegative_ofWord _ hw,
      magnitude_ofWord _ hlow hhigh hw, integerSignificand_mul]
    refine ⟨isFinite_ofWord _ hw, ?_⟩
    generalize unitsPerOne = units
    rcases Int.lt_or_gt_of_ne hzero with hneg | hpos
    · simp [hneg, Int.sign_eq_neg_one_of_neg hneg]
    · simp [Int.not_lt.mpr (Int.le_of_lt hpos), Int.sign_eq_one_of_pos hpos]

/-! ## Numerals of integers -/

/-- The numeral of an integer reads as the number nearest to the integer. -/
theorem exists_numeral_ofInt {n : Int} (hn : n.natAbs < 2 ^ 64) :
    ∃ m : Numeral, m.WellFormed ∧ m.text = (toString n).toList ∧ m.toBinary64 = ofInt n := by
  have htext : (toString n).toList =
      (if n < 0 then ['-'] else []) ++ Nat.toDigits 10 n.natAbs := by
    cases n with
    | ofNat m => exact Nat.toList_repr
    | negSucc m =>
        have hrepr : (toString (Int.negSucc m)).toList = '-' :: (Nat.repr (m + 1)).toList :=
          String.toList_append
        rw [hrepr, Nat.toList_repr, if_pos (Int.negSucc_lt_zero m)]
        rfl
  by_cases hzero : n = 0
  · subst hzero
    exact ⟨⟨false, ['0'], none, none⟩, ⟨Or.inl rfl, by simp, by simp⟩, rfl, ofInt_zero.symm⟩
  · have hne : n.natAbs ≠ 0 := Int.natAbs_ne_zero.mpr hzero
    have horder : (⟨n.natAbs, 0⟩ : Decimal).order ≤ 20 := by
      have hdigits := (Decimal.digitCount_le_iff hne (by decide)).mpr
        (Nat.lt_trans hn (by decide : 2 ^ 64 < 10 ^ 20))
      simp only [Decimal.order]
      omega
    refine ⟨(⟨n.natAbs, 0⟩ : Decimal).numeral (decide (n < 0)),
      Decimal.wellFormed_numeral _ hne, ?_, ?_⟩
    · rw [Decimal.text_numeral, htext]
      simp [Decimal.positional, Decimal.digitChars]
    · have hnumerator : (⟨n.natAbs, 0⟩ : Decimal).numerator = n.natAbs * unitsPerOne := by
        simp only [Decimal.numerator]
        generalize unitsPerOne = units
        simp
      have hlow : -330 ≤ (⟨n.natAbs, 0⟩ : Decimal).order := by
        simp only [Decimal.order]
        omega
      rw [Decimal.toBinary64_numeral, Decimal.toBinary64_of_order hne hlow (by omega), hnumerator]
      rfl

end Binary64

end RecordQuery
