import RecordQuery.Proofs.Number.NumberLine
import RecordQuery.Value.Comparison

/-! # The order of numbers of both kinds

A chain of numbers, each less than the next, is in order from end to end.  Two
binary numbers are compared exactly and an integer with a decimal; a chain that
passes from one to the other stays in order because decimals are.
-/

namespace RecordQuery

namespace Binary64

variable {m n : Int} {x y z : Binary64}

/-! ## Less, on the line -/

theorem compare?_eq_lt_iff :
    x.compare? y = some .lt ↔ x.isNaN = false ∧ y.isNaN = false ∧ x.place < y.place := by
  constructor
  · intro h
    obtain ⟨hx, hy⟩ := isNaN_of_compare? h
    rw [compare?_eq_place hx hy, Option.some_inj, compare_lt_iff_lt] at h
    exact ⟨hx, hy, h⟩
  · rintro ⟨hx, hy, h⟩
    rw [compare?_eq_place hx hy, compare_lt_iff_lt.mpr h]

theorem compareInt?_of_isNaN (hx : x.isNaN = true) : compareInt? n x = none := by
  have hfinite : x.isFinite ≠ true := by
    intro hfinite
    rw [isNaN_of_isFinite hfinite] at hx
    cases hx
  have hdecimal : x.decimal? = none := (decimal?_eq_none_iff x).mpr fun h => absurd h hfinite
  rw [compareInt?_of_decimal?_eq_none hdecimal]
  by_contra hsome
  obtain ⟨o, ho⟩ := Option.ne_none_iff_exists'.mp hsome
  rw [(isNaN_of_compare? ho).2] at hx
  cases hx

theorem compareInt?_eq_lt_iff (hn : n.natAbs < 2 ^ 64) :
    compareInt? n x = some .lt ↔ x.isNaN = false ∧ Line.ofRat n < x.decimalPlace := by
  cases hx : x.isNaN with
  | true => simp [compareInt?_of_isNaN hx]
  | false => simp [compareInt?_eq_decimalPlace hn hx, compare_lt_iff_lt]

theorem compareInt?_eq_gt_iff (hn : n.natAbs < 2 ^ 64) :
    compareInt? n x = some .gt ↔ x.isNaN = false ∧ x.decimalPlace < Line.ofRat n := by
  cases hx : x.isNaN with
  | true => simp [compareInt?_of_isNaN hx]
  | false => simp [compareInt?_eq_decimalPlace hn hx, compare_gt_iff_gt]

/-! ## Chains of three -/

theorem compare?_trans (h : x.compare? y = some .lt) (h' : y.compare? z = some .lt) :
    x.compare? z = some .lt := by
  rw [compare?_eq_lt_iff] at *
  exact ⟨h.1, h'.2.1, h.2.2.trans h'.2.2⟩

/-- What lies between two decimals keeps the numbers apart: if these were the other way round,
so were the decimals. -/
theorem compare?_of_compareInt? (hn : n.natAbs < 2 ^ 64) (h : compareInt? n x = some .gt)
    (h' : compareInt? n y = some .lt) : x.compare? y = some .lt := by
  rw [compareInt?_eq_gt_iff hn] at h
  rw [compareInt?_eq_lt_iff hn] at h'
  rw [compare?_eq_lt_iff]
  refine ⟨h.1, h'.1, ?_⟩
  by_contra hge
  have hdecimals := decimalPlace_mono (not_lt.mp hge)
  exact (h.2.trans h'.2).not_ge hdecimals

theorem compareInt?_lt_of_compare? (hn : n.natAbs < 2 ^ 64) (h : compareInt? n x = some .lt)
    (h' : x.compare? y = some .lt) : compareInt? n y = some .lt := by
  rw [compareInt?_eq_lt_iff hn] at *
  rw [compare?_eq_lt_iff] at h'
  exact ⟨h'.2.1, h.2.trans_le (decimalPlace_mono h'.2.2.le)⟩

theorem compareInt?_gt_of_compare? (hn : n.natAbs < 2 ^ 64) (h : x.compare? y = some .lt)
    (h' : compareInt? n y = some .gt) : compareInt? n x = some .gt := by
  rw [compareInt?_eq_gt_iff hn] at *
  rw [compare?_eq_lt_iff] at h
  exact ⟨h.1, (decimalPlace_mono h.2.2.le).trans_lt h'.2⟩

section

variable (hm : m.natAbs < 2 ^ 64) (hn : n.natAbs < 2 ^ 64)

include hm hn

theorem lt_of_compareInt? (h : compareInt? m x = some .lt) (h' : compareInt? n x = some .gt) :
    m < n := by
  rw [compareInt?_eq_lt_iff hm] at h
  rw [compareInt?_eq_gt_iff hn] at h'
  exact_mod_cast Line.ofRat_strictMono.lt_iff_lt.mp (h.2.trans h'.2)

theorem compareInt?_lt_of_lt (h : m < n) (h' : compareInt? n x = some .lt) :
    compareInt? m x = some .lt := by
  rw [compareInt?_eq_lt_iff hn] at h'
  rw [compareInt?_eq_lt_iff hm]
  exact ⟨h'.1, (Line.ofRat_strictMono (Int.cast_lt.mpr h)).trans h'.2⟩

theorem compareInt?_gt_of_lt (h : compareInt? m x = some .gt) (h' : m < n) :
    compareInt? n x = some .gt := by
  rw [compareInt?_eq_gt_iff hm] at h
  rw [compareInt?_eq_gt_iff hn]
  exact ⟨h.1, h.2.trans (Line.ofRat_strictMono (Int.cast_lt.mpr h'))⟩

end

end Binary64

namespace Value

open Binary64

def isNumber : Value → Bool
  | .integer _ | .float _ => true
  | _ => false

theorem compare?_integer_lt_iff {m n : Int64} :
    compare? (.integer m) (.integer n) = some .lt ↔ m.toInt < n.toInt := by
  rw [compare?, Option.some_inj, compare_lt_iff_lt]

theorem compare?_float_integer_lt_iff {x : Binary64} {n : Int64} :
    compare? (.float x) (.integer n) = some .lt ↔ compareInt? n.toInt x = some .gt := by
  rw [compare?]
  rcases compareInt? n.toInt x with _ | _ | _ | _ <;> simp

/-- Numbers that are each less than the next are in order, of whichever kinds they are. -/
theorem compare?_less_trans {a b c : Value} (ha : a.isNumber = true) (hb : b.isNumber = true)
    (hc : c.isNumber = true) (hab : compare? a b = some .lt) (hbc : compare? b c = some .lt) :
    compare? a c = some .lt := by
  match a, b, c with
  | .integer m, .integer n, .integer k =>
      rw [compare?_integer_lt_iff] at *
      exact hab.trans hbc
  | .integer m, .integer n, .float z =>
      rw [compare?_integer_lt_iff] at hab
      exact compareInt?_lt_of_lt (natAbs_toInt_lt m) (natAbs_toInt_lt n) hab hbc
  | .integer m, .float y, .integer k =>
      rw [compare?_float_integer_lt_iff] at hbc
      rw [compare?_integer_lt_iff]
      exact lt_of_compareInt? (natAbs_toInt_lt m) (natAbs_toInt_lt k) hab hbc
  | .integer m, .float y, .float z => exact compareInt?_lt_of_compare? (natAbs_toInt_lt m) hab hbc
  | .float x, .integer n, .integer k =>
      rw [compare?_float_integer_lt_iff] at *
      rw [compare?_integer_lt_iff] at hbc
      exact compareInt?_gt_of_lt (natAbs_toInt_lt n) (natAbs_toInt_lt k) hab hbc
  | .float x, .integer n, .float z =>
      rw [compare?_float_integer_lt_iff] at hab
      exact compare?_of_compareInt? (natAbs_toInt_lt n) hab hbc
  | .float x, .float y, .integer k =>
      rw [compare?_float_integer_lt_iff] at *
      exact compareInt?_gt_of_compare? (natAbs_toInt_lt k) hab hbc
  | .float x, .float y, .float z => exact compare?_trans hab hbc

/-- An integer, the number half a unit above it, whose decimal is the next integer, and that next
integer as a binary number. -/
theorem compare?_less_trans_of_tiedHalf :
    compare? (.integer 2251799813685248) (.float tiedHalf) = some .lt ∧
      compare? (.float tiedHalf) (.float ⟨0x4320000000000002⟩) = some .lt ∧
      compare? (.integer 2251799813685248) (.float ⟨0x4320000000000002⟩) = some .lt := by
  have hfirst : compare? (.integer 2251799813685248) (.float tiedHalf) = some .lt := by
    decide +kernel
  have hsecond : compare? (.float tiedHalf) (.float ⟨0x4320000000000002⟩) = some .lt := by
    decide +kernel
  exact ⟨hfirst, hsecond, compare?_less_trans rfl rfl rfl hfirst hsecond⟩

end Value

end RecordQuery
