import RecordQuery.Number.Notation
import RecordQuery.Proofs.Number.Rounding

/-! # Reading decimals as binary numbers

The reading of a decimal depends on its value alone, so trailing zeros may move
between digits and exponent.  The shortest decimal of a positive number reads
back as that number.
-/

namespace RecordQuery

namespace Decimal

open Binary64

/-! ## Digit counts -/

theorem digitCount_mul_ten {n : Nat} (hn : 0 < n) : digitCount (n * 10) = digitCount n + 1 := by
  have hdigits : Nat.toDigits 10 (n * 10) = Nat.toDigits 10 n ++ ['0'] := by
    have happend :=
      Nat.toDigits_append_toDigits (b := 10) (n := n) (d := 0) (by decide) hn (by decide)
    rw [Nat.toDigits_zero] at happend
    rw [happend]
    congr 1
    omega
  have hn' : n * 10 ≠ 0 := by omega
  rw [digitCount, if_neg hn', hdigits, digitCount, if_neg (Nat.ne_of_gt hn)]
  simp

theorem digitCount_mul_pow {n : Nat} (hn : 0 < n) (k : Nat) :
    digitCount (n * 10 ^ k) = digitCount n + k := by
  induction k with
  | zero => simp
  | succ k ih =>
      have hpos : 0 < n * 10 ^ k := Nat.mul_pos hn (Nat.pow_pos (by decide))
      rw [Nat.pow_succ, ← Nat.mul_assoc, digitCount_mul_ten hpos, ih]
      omega

theorem digitCount_le_iff {n k : Nat} (hn : n ≠ 0) (hk : 0 < k) :
    digitCount n ≤ k ↔ n < 10 ^ k := by
  rw [digitCount, if_neg hn]
  exact Nat.length_toDigits_le_iff (by decide) hk

/-! ## The value decides -/

theorem denominator_pos (d : Decimal) : 0 < d.denominator := Nat.pow_pos (by decide)

/-- Zeros at the end of the digits may be written in the exponent instead. -/
theorem toBinary64_mul_pow (negative : Bool) (n k : Nat) (e : Int) :
    (⟨n * 10 ^ k, e⟩ : Decimal).toBinary64 negative =
      (⟨n, e + k⟩ : Decimal).toBinary64 negative := by
  have hpow : 0 < 10 ^ k := Nat.pow_pos (by decide)
  by_cases hn : n = 0
  · simp [toBinary64, hn]
  have hdigits : n * 10 ^ k ≠ 0 := Nat.mul_ne_zero hn (Nat.ne_of_gt hpow)
  have horder : (⟨n * 10 ^ k, e⟩ : Decimal).order = (⟨n, e + k⟩ : Decimal).order := by
    simp only [order, digitCount_mul_pow (Nat.pos_of_ne_zero hn)]
    omega
  have hexponents : k + e.toNat + (-(e + k)).toNat = (e + k).toNat + (-e).toNat := by omega
  have hvalue : (⟨n * 10 ^ k, e⟩ : Decimal).numerator * (⟨n, e + k⟩ : Decimal).denominator =
      (⟨n, e + k⟩ : Decimal).numerator * (⟨n * 10 ^ k, e⟩ : Decimal).denominator := by
    simp only [numerator, denominator]
    generalize unitsPerOne = units
    calc n * 10 ^ k * 10 ^ e.toNat * units * 10 ^ (-(e + k)).toNat
        = n * units * 10 ^ (k + e.toNat + (-(e + k)).toNat) := by
          rw [Nat.pow_add, Nat.pow_add]
          ac_rfl
      _ = n * units * 10 ^ ((e + k).toNat + (-e).toNat) := by rw [hexponents]
      _ = n * 10 ^ (e + k).toNat * units * 10 ^ (-e).toNat := by
          rw [Nat.pow_add]
          ac_rfl
  simp only [toBinary64, hdigits, hn, horder, false_or]
  split
  · rfl
  split
  · rfl
  exact ofUnits_congr (denominator_pos _) (denominator_pos _) hvalue negative

theorem toBinary64_stripZeros (negative : Bool) (fuel : Nat) (d : Decimal) :
    (stripZeros fuel d).toBinary64 negative = d.toBinary64 negative := by
  induction fuel generalizing d with
  | zero => rfl
  | succ fuel ih =>
      rw [stripZeros]
      split
      · rename_i hzero
        have hmove := toBinary64_mul_pow negative (d.digits / 10) 1 d.exponent
        rw [Nat.pow_one, Nat.div_mul_cancel (Nat.dvd_of_mod_eq_zero hzero.2)] at hmove
        rw [ih]
        exact hmove.symm
      · rfl

/-- The sign of a reading is the given one, and its other bits do not depend on it. -/
theorem exists_magnitudeWord (d : Decimal) :
    ∃ w, ∀ negative, d.toBinary64 negative = ofWord negative w := by
  unfold toBinary64
  split
  · exact ⟨0, fun _ => rfl⟩
  split
  · exact ⟨infinityWord, fun _ => rfl⟩
  exact ⟨_, fun _ => rfl⟩

/-- What reads as the absolute value of a number reads as the number with its sign in front. -/
theorem toBinary64_of_withSign {d : Decimal} {x : Binary64} (hx : x.isFinite = true)
    (h : d.toBinary64 false = x.withSign false) : d.toBinary64 x.isNegative = x := by
  obtain ⟨w, hw⟩ := exists_magnitudeWord d
  have hlt := magnitudeWord_lt_of_isFinite hx
  have hword : min w infinityWord = x.word % 2 ^ 63 := by
    have hwords := congrArg word ((hw false).symm.trans h)
    rw [word_ofWord, word_withSign hx, if_neg Bool.false_ne_true, Nat.zero_add] at hwords
    exact hwords
  rw [hw x.isNegative]
  refine Eq.trans ?_ (ofWord_magnitudeWord hx)
  apply eq_of_word_eq
  rw [word_ofWord, word_ofWord, hword, Nat.min_eq_left (Nat.le_of_lt hlt)]

/-! ## The shortest decimal -/

theorem magnitude_pos {x : Binary64} (hx : x.isZero = false) : 0 < x.magnitude := by
  have hword : x.word % 2 ^ 63 ≠ 0 := by simpa [isZero] using hx
  rw [magnitudeWord_eq] at hword
  apply Nat.mul_pos _ (Nat.two_pow_pos _)
  simp only [significand]
  split <;> omega

theorem mul_two_pow_lt {m a k n : Nat} (hm : m < 2 ^ a) (hk : k ≤ n) :
    m * 2 ^ k < 2 ^ a * 2 ^ n :=
  Nat.lt_of_lt_of_le (Nat.mul_lt_mul_of_pos_right hm (Nat.two_pow_pos k))
    (Nat.mul_le_mul_left _ (Nat.pow_le_pow_right (by decide) hk))

theorem magnitude_lt {x : Binary64} (hx : x.isFinite = true) :
    x.magnitude < 2 ^ 53 * 2 ^ 2045 := by
  have hfraction := fraction_lt x
  have hfield := exponentField_lt_of_isFinite hx
  have hsig : x.significand < 2 ^ 53 := by
    simp only [significand]
    split <;> omega
  have hscale : x.scale ≤ 2045 := by
    simp only [scale]
    omega
  exact mul_two_pow_lt hsig hscale

/-- A decimal of moderate size lies well inside the orders of magnitude that are read. -/
theorem order_mul {m p bound : Nat} (hm : 0 < m) (hlt : m < bound) (hlow : 10 ^ 744 ≤ p)
    (hhigh : bound * p ≤ 10 ^ 1384) :
    m * p ≠ 0 ∧ -330 ≤ (⟨m * p, -1074⟩ : Decimal).order ∧
      (⟨m * p, -1074⟩ : Decimal).order ≤ 310 := by
  have hp : 0 < p := Nat.lt_of_lt_of_le (Nat.pow_pos (by decide)) hlow
  have hdigits : m * p ≠ 0 := Nat.mul_ne_zero (Nat.ne_of_gt hm) (Nat.ne_of_gt hp)
  have hmore : ¬ digitCount (m * p) ≤ 744 := by
    rw [digitCount_le_iff hdigits (by decide), Nat.not_lt]
    exact Nat.le_trans hlow (Nat.le_mul_of_pos_left p hm)
  have hfewer : digitCount (m * p) ≤ 1384 := by
    rw [digitCount_le_iff hdigits (by decide)]
    exact Nat.lt_of_lt_of_le (Nat.mul_lt_mul_of_pos_right hlt hp) hhigh
  simp only [order]
  omega

/-- A number of units, written with as many decimal as binary places. -/
theorem numerator_places (m : Nat) {k : Nat} {e : Int} (hk : 1074 = k) (he : e = -(k : Int)) :
    (⟨m * 5 ^ k, e⟩ : Decimal).numerator = m * (⟨m * 5 ^ k, e⟩ : Decimal).denominator := by
  have hten : 5 ^ k * 2 ^ k = 10 ^ k := (Nat.mul_pow 5 2 k).symm
  have hup : (-(k : Int)).toNat = 0 := by omega
  have hunits : unitsPerOne = 2 ^ k := by rw [unitsPerOne, hk]
  simp only [numerator, denominator, he, hup, Int.neg_neg, Int.toNat_natCast, hunits, Nat.pow_zero,
    Nat.mul_one]
  rw [Nat.mul_assoc, hten]

/-- A decimal inside those orders of magnitude is rounded. -/
theorem toBinary64_of_order {d : Decimal} (hdigits : d.digits ≠ 0) (hlow : -330 ≤ d.order)
    (hhigh : d.order ≤ 310) (negative : Bool) :
    d.toBinary64 negative = ofUnits negative d.numerator d.denominator := by
  have hsmall : ¬ (d.digits = 0 ∨ d.order < -330) := by omega
  have hlarge : ¬ 310 < d.order := by omega
  rw [toBinary64, if_neg hsmall, if_neg hlarge]

theorem toBinary64_exactly {x : Binary64} (hx : x.isFinite = true) (hzero : x.isZero = false) :
    (exactly x.magnitude).toBinary64 false = x.withSign false := by
  -- the exponent is hidden, so that nothing computes the power
  obtain ⟨k, hk⟩ : ∃ k : Nat, 1074 = k := ⟨_, rfl⟩
  have hplaces : 10 ^ 744 ≤ 5 ^ k ∧ 2 ^ 53 * 2 ^ 2045 * 5 ^ k ≤ 10 ^ 1384 := by
    subst hk
    decide +kernel
  obtain ⟨hdigits, hlow, hhigh⟩ := order_mul (magnitude_pos hzero) (magnitude_lt hx) hplaces.1
    hplaces.2
  have hvalue := numerator_places x.magnitude (e := -1074) hk (by omega)
  rw [exactly, hk, toBinary64_stripZeros, toBinary64_of_order hdigits hlow hhigh,
    ofUnits_congr (denominator_pos _) Nat.one_pos ((Nat.mul_one _).trans hvalue),
    ofUnits_magnitude, withSign]

theorem reads_of_firstGrid {half : HalfWay} {x : Binary64} {count : Nat} {exponent : Int}
    {d : Decimal} (h : firstGrid? half x count exponent = some d) : reads x d = true := by
  induction count generalizing exponent with
  | zero => simp [firstGrid?] at h
  | succ count ih =>
      rw [firstGrid?] at h
      cases hgrid : onGrid? half x exponent with
      | none =>
          rw [hgrid] at h
          exact ih h
      | some hit =>
          rw [hgrid] at h
          cases h
          exact List.find?_some hgrid

theorem toBinary64_shortest (half : HalfWay) {x : Binary64} (hx : x.isFinite = true)
    (hsign : x.withSign false = x) (hzero : x.isZero = false) :
    (shortest half x).toBinary64 false = x := by
  rw [shortest]
  cases hgrid : firstGrid? half x 17 (magnitudeOrder x.magnitude 640 (-324) - 1) with
  | none => rw [Option.map_none, Option.getD_none, toBinary64_exactly hx hzero, hsign]
  | some d =>
      rw [Option.map_some, Option.getD_some, toBinary64_stripZeros]
      exact of_decide_eq_true (reads_of_firstGrid hgrid)

/-- The digits of a decimal that reads as a number other than zero are not zero. -/
theorem digits_ne_zero {d : Decimal} {x : Binary64} (h : d.toBinary64 false = x)
    (hzero : x.isZero = false) : d.digits ≠ 0 := by
  intro hdigits
  have hx : x = ofWord false 0 := by
    simp only [← h, toBinary64, hdigits, true_or, if_true]
  rw [hx] at hzero
  simp [isZero, word_ofWord] at hzero

end Decimal

end RecordQuery
