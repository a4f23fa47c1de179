import RecordQuery.Proofs.Number.DecimalRounding
import RecordQuery.Proofs.Number.Mixed
import RecordQuery.Value.Comparison

/-! # Comparison of integers with numbers of any value

The decimal with which an integer is compared in place of a number may differ
from that number, but no integer lies between the two.  So the order is exact,
except that an integer may be taken for equal to a number close by.
-/

namespace RecordQuery

namespace Binary64

-- powers are those of the core library, whichever others are in scope
attribute [local instance (high)] instPowNat

def toRat (x : Binary64) : ℚ :=
  x.units / unitsPerOne

def size (x : Binary64) : ℚ :=
  x.magnitude / unitsPerOne

theorem size_nonneg (x : Binary64) : 0 ≤ x.size :=
  div_nonneg (Nat.cast_nonneg _) (Nat.cast_nonneg _)

theorem size_eq_owing {x : Binary64} {s : Nat} (hs : s + x.scale = 1074) :
    x.size = Scaled.owing s x.significand 0 := by
  rw [size, magnitude, unitsPerOne_eq hs, Scaled.owing]
  push_cast
  field_simp

theorem unitsPerOne_cast_pos : (0 : ℚ) < unitsPerOne := by
  exact_mod_cast Nat.pos_of_ne_zero unitsPerOne_ne_zero

namespace Scaled

theorem ofBinary64?_of_small {x : Binary64} {s : Nat} (hs : s + x.scale = 1074) (hpos : 0 < s) :
    ofBinary64? x = some (roundPlaces s x.significand) := by
  have hexponent : (x.scale : Int) - 1074 = -(s : Int) := by omega
  have hneg : -(s : Int) < 0 := by omega
  have hsteps : (-(s : Int)).natAbs = s := by omega
  obtain ⟨c₁, r₁, hlower, -⟩ := lower_places s x.significand 0 (by omega)
  have hnone : ((places c₁ r₁).exponent).toNat = 0 := by simp [places]
  have hstart : (⟨x.significand, -(s : Int)⟩ : Scaled) = places x.significand s := rfl
  change lower s (places x.significand s) = _ at hlower
  simp only [ofBinary64?, hexponent, if_pos hneg, hsteps, hstart, hlower, roundPlaces, hnone,
    expand?, Option.bind_eq_bind, Option.bind_some]
  rfl

theorem ofBinary64?_spec {x : Binary64} (hx : x.size < 2 ^ 96) :
    ∃ c r, ofBinary64? x = some (places c r) ∧ Approximates x.size (places c r) := by
  by_cases hsmall : x.scale < 1074
  · obtain ⟨s, hs⟩ : ∃ s, s + x.scale = 1074 := ⟨1074 - x.scale, by omega⟩
    obtain ⟨c, r, hround, happrox⟩ := roundPlaces_spec x.significand (s := s) (by omega)
    refine ⟨c, r, ?_, ?_⟩
    · rw [ofBinary64?_of_small hs (by omega), hround]
    · rwa [size_eq_owing hs]
  · obtain ⟨t, ht⟩ : ∃ t, x.scale = t + 1074 := ⟨x.scale - 1074, by omega⟩
    have hmagnitude : x.magnitude = x.significand * 2 ^ t * unitsPerOne := by
      rw [magnitude, ht, unitsPerOne]
      generalize 1074 = units
      rw [Nat.pow_add, Nat.mul_assoc]
    have hsize : x.size = (places (x.significand * 2 ^ t) 0).toRat := by
      rw [size, hmagnitude, Nat.cast_mul, mul_div_cancel_right₀ _ unitsPerOne_cast_pos.ne',
        toRat_places]
      simp
    have hfits : x.significand * 2 ^ t < limit := by
      rw [hsize, toRat_places, pow_zero, div_one] at hx
      exact_mod_cast hx
    refine ⟨_, 0, ofBinary64?_of_integral hfits hmagnitude, ?_⟩
    rw [hsize]
    exact .refl _

end Scaled

/-! ## Signs -/

theorem toRat_eq (x : Binary64) : x.toRat = if x.isNegative then -x.size else x.size := by
  rw [toRat, units, size]
  split
  · push_cast
    rw [neg_div]
  · rfl

theorem size_eq_abs (x : Binary64) : x.size = |x.toRat| := by
  rw [toRat_eq]
  split
  · rw [abs_neg, abs_of_nonneg x.size_nonneg]
  · rw [abs_of_nonneg x.size_nonneg]

/-- The decimal with which integers are compared in place of a number, its sign apart. -/
def decimal? (x : Binary64) : Option Scaled :=
  if x.isZero then some ⟨0, 0⟩ else if x.isFinite then Scaled.ofBinary64? x else none

/-- The value with which integers are compared in place of a number, if it is a decimal. -/
def decimalValue (x : Binary64) : ℚ :=
  match x.decimal? with
  | some d => if x.isNegative then -d.toRat else d.toRat
  | none => x.toRat

theorem decimal?_spec {x : Binary64} (hfinite : x.isFinite = true) (hx : x.size < 2 ^ 96) :
    ∃ c r, x.decimal? = some (Scaled.places c r) ∧
      Scaled.Approximates x.size (Scaled.places c r) := by
  by_cases hzero : x.isZero = true
  · have hsize : x.size = (Scaled.places 0 0).toRat := by
      rw [size, magnitude_of_isZero hzero, Scaled.toRat_places, Nat.cast_zero, zero_div, zero_div]
    refine ⟨0, 0, if_pos hzero, ?_⟩
    rw [hsize]
    exact .refl _
  · obtain ⟨c, r, hdecimal, happrox⟩ := Scaled.ofBinary64?_spec hx
    refine ⟨c, r, ?_, happrox⟩
    rw [decimal?, if_neg hzero, if_pos hfinite, hdecimal]

theorem compare_mul_pow (n u : Int) (r : Nat) :
    compare (n * 10 ^ r) u = compare (n : ℚ) (u / 10 ^ r) := by
  have hpos : (0 : ℚ) < 10 ^ r := by positivity
  have hcast : ((n * 10 ^ r : Int) : ℚ) = n * 10 ^ r := by push_cast; rfl
  rcases lt_trichotomy (n * 10 ^ r) u with h | h | h
  · have hlt : (n : ℚ) < u / 10 ^ r := by
      rw [lt_div_iff₀ hpos, ← hcast]
      exact_mod_cast h
    rw [compare_lt_iff_lt.mpr h, compare_lt_iff_lt.mpr hlt]
  · have heq : (n : ℚ) = u / 10 ^ r := by
      rw [eq_div_iff hpos.ne', ← hcast, h]
    rw [compare_eq_iff_eq.mpr h, compare_eq_iff_eq.mpr heq]
  · have hgt : (u : ℚ) / 10 ^ r < n := by
      rw [div_lt_iff₀ hpos, ← hcast]
      exact_mod_cast h
    rw [compare_gt_iff_gt.mpr h, compare_gt_iff_gt.mpr hgt]

theorem compareInt?_eq_decimalValue {x : Binary64} {c r : Nat}
    (h : x.decimal? = some (Scaled.places c r)) (n : Int) :
    compareInt? n x = some (compare (n : ℚ) x.decimalValue) := by
  have hvalue : x.decimalValue =
      ((if x.isNegative then -(c : Int) else c : Int) : ℚ) / 10 ^ r := by
    rw [decimalValue, h]
    simp only [Scaled.toRat_places]
    split
    · push_cast
      rw [neg_div]
    · rfl
  have hcompare : compareInt? n x =
      some (compare (n * 10 ^ r) (if x.isNegative then -(c : Int) else c)) := by
    change (match x.decimal? with
      | some d => some (compare (n * 10 ^ (-d.exponent).toNat)
          (if x.isNegative then -(d.coefficient : Int) else d.coefficient))
      | none => (ofInt n).compare? x) = _
    rw [h]
    simp only [Scaled.places_exponent_toNat]
    rfl
  rw [hcompare, hvalue, compare_mul_pow]

theorem Scaled.Follows.le_of_le {v : ℚ} {d : Scaled} (h : Follows v d) {n : Int}
    (hn : (n : ℚ) ≤ v) : (n : ℚ) ≤ d.toRat := by
  rcases n.eq_nat_or_neg with ⟨n, rfl | rfl⟩
  · exact_mod_cast h.above n (by exact_mod_cast hn)
  · have hneg : ((-(n : Int) : Int) : ℚ) ≤ 0 := by exact_mod_cast neg_nonpos.mpr n.cast_nonneg
    exact hneg.trans d.toRat_nonneg

theorem Scaled.Follows.le_of_ge {v : ℚ} {d : Scaled} (h : Follows v d) (hv : 0 ≤ v) {n : Int}
    (hn : v ≤ n) : d.toRat ≤ n := by
  have hnonneg : 0 ≤ n := by exact_mod_cast hv.trans hn
  obtain ⟨n, rfl⟩ := Int.eq_ofNat_of_zero_le hnonneg
  exact_mod_cast h.below n (by exact_mod_cast hn)

/-- No integer lies between a number and its decimal. -/
theorem decimalValue_follows {x : Binary64} (hfinite : x.isFinite = true)
    (hx : |x.toRat| < 2 ^ 96) (n : Int) :
    ((n : ℚ) ≤ x.toRat → (n : ℚ) ≤ x.decimalValue) ∧
      (x.toRat ≤ n → x.decimalValue ≤ n) := by
  rw [← size_eq_abs] at hx
  obtain ⟨c, r, hdecimal, hfollows, -, -⟩ := decimal?_spec hfinite hx
  rw [toRat_eq, decimalValue, hdecimal]
  simp only
  split
  · constructor
    · intro hn
      have := hfollows.le_of_ge x.size_nonneg (n := -n) (by push_cast; linarith)
      push_cast at this
      linarith
    · intro hn
      have := hfollows.le_of_le (n := -n) (by push_cast; linarith)
      push_cast at this
      linarith
  · exact ⟨hfollows.le_of_le, hfollows.le_of_ge x.size_nonneg⟩

/-- The order of an integer and the decimal is that of the number, or one of the two is equality. -/
theorem compare_decimalValue_iff {x : Binary64} (hfinite : x.isFinite = true)
    (hx : |x.toRat| < 2 ^ 96) (n : Int) :
    compare (n : ℚ) x.decimalValue = compare (n : ℚ) x.toRat ↔
      (x.decimalValue = n → x.toRat = n) := by
  obtain ⟨habove, hbelow⟩ := decimalValue_follows hfinite hx n
  rcases lt_trichotomy (n : ℚ) x.toRat with h | h | h
  · rw [compare_lt_iff_lt.mpr h, compare_lt_iff_lt]
    constructor
    · intro hlt heq
      exact absurd heq hlt.ne'
    · intro hne
      exact lt_of_le_of_ne (habove h.le) fun heq => h.ne' (hne heq.symm)
  · have heq : (n : ℚ) = x.decimalValue := le_antisymm (habove h.le) (hbelow h.ge)
    rw [compare_eq_iff_eq.mpr heq, compare_eq_iff_eq.mpr h]
    exact ⟨fun _ _ => h.symm, fun _ => rfl⟩
  · rw [compare_gt_iff_gt.mpr h, compare_gt_iff_gt]
    constructor
    · intro hgt heq
      exact absurd heq hgt.ne
    · intro hne
      exact lt_of_le_of_ne (hbelow h.le) fun heq => h.ne (hne heq)

/-- The decimal is within about forty-seven bits or the twenty-eighth place. -/
theorem abs_decimalValue_sub_le {x : Binary64} (hfinite : x.isFinite = true)
    (hx : |x.toRat| < 2 ^ 96) :
    |x.decimalValue - x.toRat| ≤ |x.toRat| / 2 ^ 47 + 2 / 10 ^ 28 := by
  rw [← size_eq_abs] at hx ⊢
  obtain ⟨c, r, hdecimal, -, hclose, -⟩ := decimal?_spec hfinite hx
  rw [toRat_eq, decimalValue, hdecimal]
  simp only
  split
  · rwa [neg_sub_neg, abs_sub_comm]
  · exact hclose

/-- A number that has few decimal digits is its decimal. -/
theorem decimalValue_eq {x : Binary64} (hfinite : x.isFinite = true) (hx : |x.toRat| < 2 ^ 96)
    {m : Int} {k : Nat} (hm : m.natAbs < 2 ^ 52) (hk : k ≤ 28) (h : x.toRat = m / 10 ^ k) :
    x.decimalValue = x.toRat := by
  have hsize : x.size = m.natAbs / 10 ^ k := by
    rw [size_eq_abs, h, abs_div, abs_of_nonneg (by positivity : (0 : ℚ) ≤ 10 ^ k), ← Int.cast_abs,
      Int.abs_eq_natAbs]
    rfl
  rw [← size_eq_abs] at hx
  obtain ⟨c, r, hdecimal, -, -, hexact⟩ := decimal?_spec hfinite hx
  rw [toRat_eq, decimalValue, hdecimal]
  simp only [hexact _ _ hm hk hsize]

end Binary64

namespace Value

open Binary64

variable {a : Int64} {x : Binary64}

theorem compare?_integer_float_eq (hfinite : x.isFinite = true) (hx : |x.toRat| < 2 ^ 96) :
    compare? (.integer a) (.float x) = some (compare (a.toInt : ℚ) x.decimalValue) := by
  obtain ⟨c, r, hdecimal, -⟩ := decimal?_spec hfinite (size_eq_abs x ▸ hx)
  rw [compare?, compareInt?_eq_decimalValue hdecimal]

/--
An integer equals a number of moderate size exactly if it is the number's
decimal.  So the two compare as their exact values do, unless the decimal is
that integer and the number is none: then they are equal all the same, being
about forty-seven bits or twenty-eight places alike.  A number of few decimal
digits is its decimal, and compares exactly.
-/
theorem compare?_integer_float (hfinite : x.isFinite = true) (hx : |x.toRat| < 2 ^ 96) :
    (looseEq (.integer a) (.float x) = true ↔ x.decimalValue = a.toInt) ∧
      (compare? (.integer a) (.float x) = some (compare (a.toInt : ℚ) x.toRat) ↔
        (x.decimalValue = a.toInt → x.toRat = a.toInt)) ∧
      (compare? (.integer a) (.float x) ≠ some (compare (a.toInt : ℚ) x.toRat) →
        compare? (.integer a) (.float x) = some .eq ∧
          |a.toInt - x.toRat| ≤ |x.toRat| / 2 ^ 47 + 2 / 10 ^ 28) ∧
      ∀ (m : Int) (k : Nat), m.natAbs < 2 ^ 52 → k ≤ 28 → x.toRat = m / 10 ^ k →
        compare? (.integer a) (.float x) = some (compare (a.toInt : ℚ) x.toRat) := by
  have hcompare := compare?_integer_float_eq (a := a) hfinite hx
  have hexact : compare? (.integer a) (.float x) = some (compare (a.toInt : ℚ) x.toRat) ↔
      (x.decimalValue = a.toInt → x.toRat = a.toInt) := by
    rw [hcompare, Option.some_inj]
    exact compare_decimalValue_iff hfinite hx a.toInt
  refine ⟨?_, hexact, fun hne => ?_, fun m k hm hk h => hexact.mpr fun hdecimal => ?_⟩
  · change (compare? (.integer a) (.float x) == some .eq) = true ↔ _
    rw [hcompare, beq_iff_eq, Option.some_inj, compare_eq_iff_eq, eq_comm]
  · rw [Ne, hexact, Classical.not_imp] at hne
    obtain ⟨hdecimal, -⟩ := hne
    rw [hcompare, ← hdecimal]
    exact ⟨congrArg some (compare_eq_iff_eq.mpr rfl), abs_decimalValue_sub_le hfinite hx⟩
  · rw [← hdecimal, decimalValue_eq hfinite hx hm hk h]

/-- Half a unit more than two to the fifty-first, a decimal of seventeen digits. -/
def tiedHalf : Binary64 := ⟨0x4320000000000001⟩

theorem toRat_tiedHalf : tiedHalf.toRat = 22517998136852485 / 10 := by
  have hsign : tiedHalf.isNegative = false := rfl
  have hsignificand : tiedHalf.significand = 4503599627370497 := rfl
  rw [toRat_eq, hsign, size_eq_owing (s := 1) rfl, hsignificand, Scaled.owing]
  norm_num

theorem abs_toRat_tiedHalf_lt : |tiedHalf.toRat| < 2 ^ 96 := by
  rw [toRat_tiedHalf, abs_of_nonneg] <;> norm_num

/-- Its decimal is the integer above it; it is still above the integer below it. -/
theorem compare?_integer_float_tiedHalf :
    tiedHalf.decimalValue = (2251799813685249 : Int64).toInt ∧
      compare? (.integer 2251799813685248) (.float tiedHalf) =
        some (compare ((2251799813685248 : Int64).toInt : ℚ) tiedHalf.toRat) := by
  have hdecimal : tiedHalf.decimalValue = (2251799813685249 : Int64).toInt :=
    (compare?_integer_float rfl abs_toRat_tiedHalf_lt).1.mp (by decide +kernel)
  refine ⟨hdecimal, (compare?_integer_float rfl abs_toRat_tiedHalf_lt).2.1.mpr fun h => ?_⟩
  rw [hdecimal] at h
  exact absurd (Int.cast_injective h) (by decide)

/-- An integer and a decimal half a unit below it are taken for equal. -/
theorem compare?_integer_float_inexact :
    tiedHalf.isFinite = true ∧ |tiedHalf.toRat| < 2 ^ 96 ∧
      compare? (.integer 2251799813685249) (.float tiedHalf) = some .eq ∧
      compare ((2251799813685249 : Int64).toInt : ℚ) tiedHalf.toRat = .gt := by
  refine ⟨rfl, abs_toRat_tiedHalf_lt, by decide +kernel, compare_gt_iff_gt.mpr ?_⟩
  have hinteger : (2251799813685249 : Int64).toInt = 2251799813685249 := rfl
  rw [toRat_tiedHalf, hinteger]
  norm_num

end Value

end RecordQuery
