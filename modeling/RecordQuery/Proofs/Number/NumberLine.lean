import RecordQuery.Proofs.Number.DecimalOrder

/-! # The line of numbers

Numbers stand on a line with an infinity at either end, and a NaN stands nowhere.
Among themselves binary numbers compare by their exact places; an integer is
compared with the place of the decimal.  Since decimals keep the order, chains of
comparisons agree whichever kinds of numbers they pass.
-/

namespace RecordQuery

-- powers are those of the core library, whichever others are in scope
attribute [local instance (high)] instPowNat

/-- The rational numbers with an end on either side. -/
abbrev Line : Type := WithBot (WithTop ℚ)

namespace Line

def ofRat (q : ℚ) : Line := ((q : WithTop ℚ) : WithBot (WithTop ℚ))

theorem ofRat_strictMono : StrictMono ofRat := fun _ _ h =>
  WithBot.coe_lt_coe.mpr (WithTop.coe_lt_coe.mpr h)

theorem bot_lt_ofRat (q : ℚ) : (⊥ : Line) < ofRat q := WithBot.bot_lt_coe _

theorem ofRat_lt_top (q : ℚ) : ofRat q < (⊤ : Line) :=
  WithBot.coe_lt_coe.mpr (WithTop.coe_lt_top q)

theorem compare_ofRat (p q : ℚ) : compare (ofRat p) (ofRat q) = compare p q := by
  rw [← cmp_eq_compare, ← cmp_eq_compare, ofRat_strictMono.cmp_map_eq]

end Line

namespace Binary64

/-! ## Places -/

/--
Where a number stands if the finite ones stand at the given values.  A NaN, which
compares with nothing, is put at the upper end.
-/
def placeBy (value : Binary64 → ℚ) (x : Binary64) : Line :=
  match x.position with
  | .below => ⊥
  | .at _ => .ofRat (value x)
  | .above | .nowhere => ⊤

def place (x : Binary64) : Line := x.placeBy toRat

/-- The place at which integers meet a number: that of its decimal, if it has one. -/
def decimalPlace (x : Binary64) : Line := x.placeBy decimalValue

theorem position_of_isFinite {x : Binary64} (hx : x.isFinite = true) : x.position = .at x.units :=
  if_pos hx

theorem placeBy_of_isFinite {x : Binary64} (hx : x.isFinite = true) (value : Binary64 → ℚ) :
    x.placeBy value = .ofRat (value x) := by
  unfold placeBy
  rw [position_of_isFinite hx]

theorem isFinite_of_position {x : Binary64} {u : Int} (hx : x.position = .at u) :
    x.isFinite = true ∧ x.units = u := by
  by_cases hfinite : x.isFinite = true
  · rw [position_of_isFinite hfinite] at hx
    cases hx
    exact ⟨hfinite, rfl⟩
  · rw [position, if_neg hfinite] at hx
    split_ifs at hx

theorem isNaN_of_isFinite {x : Binary64} (hx : x.isFinite = true) : x.isNaN = false := by
  unfold isFinite at hx
  unfold isNaN
  simp_all

theorem isNaN_eq_false_iff (x : Binary64) : x.isNaN = false ↔ x.position ≠ .nowhere := by
  unfold position
  by_cases hfinite : x.isFinite = true
  · simp [hfinite, isNaN_of_isFinite hfinite]
  · split_ifs <;> simp_all

theorem compare_units (x y : Binary64) : compare x.units y.units = compare x.toRat y.toRat := by
  have hscaled : StrictMono fun u : Int => (u : ℚ) / unitsPerOne := by
    intro m n hmn
    have hcast : (m : ℚ) < n := by exact_mod_cast hmn
    exact div_lt_div_of_pos_right hcast unitsPerOne_cast_pos
  rw [← cmp_eq_compare, ← cmp_eq_compare]
  exact (hscaled.cmp_map_eq x.units y.units).symm

/-- Binary numbers compare by their places. -/
theorem compare?_eq_place {x y : Binary64} (hx : x.isNaN = false) (hy : y.isNaN = false) :
    x.compare? y = some (compare x.place y.place) := by
  rw [isNaN_eq_false_iff] at hx hy
  unfold compare? place placeBy
  cases hx : x.position with
  | nowhere => contradiction
  | «at» m =>
      obtain ⟨-, hm⟩ := isFinite_of_position hx
      cases hy : y.position with
      | nowhere => contradiction
      | «at» n =>
          obtain ⟨-, hn⟩ := isFinite_of_position hy
          rw [← hm, ← hn]
          exact congrArg some ((compare_units x y).trans (Line.compare_ofRat _ _).symm)
      | below => exact congrArg some (compare_gt_iff_gt.mpr (Line.bot_lt_ofRat _)).symm
      | above => exact congrArg some (compare_lt_iff_lt.mpr (Line.ofRat_lt_top _)).symm
  | below =>
      cases hy : y.position with
      | nowhere => contradiction
      | «at» n => exact congrArg some (compare_lt_iff_lt.mpr (Line.bot_lt_ofRat _)).symm
      | below => exact congrArg some (compare_eq_iff_eq.mpr rfl).symm
      | above => exact congrArg some (compare_lt_iff_lt.mpr bot_lt_top).symm
  | above =>
      cases hy : y.position with
      | nowhere => contradiction
      | «at» n => exact congrArg some (compare_gt_iff_gt.mpr (Line.ofRat_lt_top _)).symm
      | below => exact congrArg some (compare_gt_iff_gt.mpr bot_lt_top).symm
      | above => exact congrArg some (compare_eq_iff_eq.mpr rfl).symm

theorem isNaN_of_compare? {x y : Binary64} {o : Ordering} (h : x.compare? y = some o) :
    x.isNaN = false ∧ y.isNaN = false := by
  rw [isNaN_eq_false_iff, isNaN_eq_false_iff]
  unfold compare? at h
  constructor
  · intro hx
    rw [hx] at h
    cases h
  · intro hy
    rw [hy] at h
    cases hx : x.position <;> rw [hx] at h <;> cases h

/-- Decimals keep the order of places. -/
theorem decimalPlace_mono {x y : Binary64} (h : x.place ≤ y.place) :
    x.decimalPlace ≤ y.decimalPlace := by
  unfold place decimalPlace placeBy at *
  cases hx : x.position with
  | below => exact bot_le
  | «at» m =>
      cases hy : y.position with
      | below =>
          rw [hx, hy] at h
          exact absurd h (Line.bot_lt_ofRat _).not_ge
      | «at» n =>
          rw [hx, hy] at h
          obtain ⟨hfinite, -⟩ := isFinite_of_position hx
          obtain ⟨hfinite', -⟩ := isFinite_of_position hy
          exact Line.ofRat_strictMono.monotone
            (decimalValue_mono hfinite hfinite' (Line.ofRat_strictMono.le_iff_le.mp h))
      | above | nowhere => exact le_top
  | above | nowhere =>
      cases hy : y.position with
      | below =>
          rw [hx, hy] at h
          exact absurd h bot_lt_top.not_ge
      | «at» n =>
          rw [hx, hy] at h
          exact absurd h (Line.ofRat_lt_top _).not_ge
      | above | nowhere => exact le_top

/-! ## Integers on the line -/

theorem toRat_ofInt {n : Int} (hn : n.natAbs < 2 ^ 64) :
    (ofInt n).toRat = (n.sign * roundedInteger n.natAbs : Int) := by
  rw [toRat, (ofInt_spec hn).2, Int.cast_mul _ (unitsPerOne : Int), Int.cast_natCast,
    mul_div_cancel_right₀ _ unitsPerOne_cast_pos.ne']

theorem abs_toRat_ofInt_lt {n : Int} (hn : n.natAbs < 2 ^ 64) : |(ofInt n).toRat| < 2 ^ 96 := by
  have hround := roundedInteger_le n.natAbs
  have hsign : (n.sign * roundedInteger n.natAbs).natAbs ≤ roundedInteger n.natAbs := by
    rw [Int.natAbs_mul, Int.natAbs_natCast, Int.natAbs_sign]
    split <;> omega
  have hsmall : |n.sign * roundedInteger n.natAbs| < 2 ^ 96 := by
    rw [Int.abs_eq_natAbs]
    omega
  rw [toRat_ofInt hn]
  exact_mod_cast hsmall

/-- A number without a decimal stands beyond all integers of sixty-four bits. -/
theorem place_of_decimal?_eq_none {x : Binary64} (hx : x.isNaN = false) (h : x.decimal? = none) :
    x.place ≤ .ofRat (-2 ^ 96) ∨ .ofRat (2 ^ 96) ≤ x.place := by
  rw [isNaN_eq_false_iff] at hx
  unfold place placeBy
  cases hposition : x.position with
  | nowhere => contradiction
  | below => exact .inl bot_le
  | above => exact .inr le_top
  | «at» u =>
      obtain ⟨hfinite, -⟩ := isFinite_of_position hposition
      have hlarge := (decimal?_eq_none_iff x).mp h hfinite
      rw [size_eq_abs, le_abs] at hlarge
      rcases hlarge with hpos | hneg
      · exact .inr (Line.ofRat_strictMono.monotone hpos)
      · exact .inl (Line.ofRat_strictMono.monotone (by linarith))

/-- Moderate numbers compare alike with what is far away. -/
theorem compare_far {p q : ℚ} (hp : |p| < 2 ^ 96) (hq : |q| < 2 ^ 96) {l : Line}
    (hl : l ≤ .ofRat (-2 ^ 96) ∨ .ofRat (2 ^ 96) ≤ l) :
    compare (Line.ofRat p) l = compare (Line.ofRat q) l := by
  rw [abs_lt] at hp hq
  rcases hl with hl | hl
  · have hbelow (v : ℚ) (hv : -2 ^ 96 < v) : compare (Line.ofRat v) l = .gt :=
      compare_gt_iff_gt.mpr (hl.trans_lt (Line.ofRat_strictMono hv))
    rw [hbelow p hp.1, hbelow q hq.1]
  · have habove (v : ℚ) (hv : v < 2 ^ 96) : compare (Line.ofRat v) l = .lt :=
      compare_lt_iff_lt.mpr ((Line.ofRat_strictMono hv).trans_le hl)
    rw [habove p hp.2, habove q hq.2]

theorem compareInt?_of_decimal?_eq_none {x : Binary64} (h : x.decimal? = none) (n : Int) :
    compareInt? n x = (ofInt n).compare? x := by
  unfold decimal? at h
  simp only [compareInt?, h]

/-- An integer is compared with the place of the decimal, and beyond decimals with the number. -/
theorem compareInt?_eq_decimalPlace {n : Int} (hn : n.natAbs < 2 ^ 64) {x : Binary64}
    (hx : x.isNaN = false) :
    compareInt? n x = some (compare (Line.ofRat n) x.decimalPlace) := by
  cases hdecimal : x.decimal? with
  | some d =>
      have hfits : x.isFinite = true ∧ x.size < 2 ^ 96 := by
        have hsome : x.decimal? ≠ none := hdecimal ▸ Option.some_ne_none d
        rwa [ne_eq, decimal?_eq_none_iff, Classical.not_imp, not_le] at hsome
      obtain ⟨c, r, hplaces, -⟩ := decimal?_spec hfits.1 hfits.2
      rw [compareInt?_eq_decimalValue hplaces, decimalPlace, placeBy_of_isFinite hfits.1,
        Line.compare_ofRat]
  | none =>
      have hsame : x.decimalPlace = x.place := by
        unfold decimalPlace place placeBy decimalValue
        rw [hdecimal]
      obtain ⟨hfinite, -⟩ := ofInt_spec hn
      have hinteger : (ofInt n).place = .ofRat (ofInt n).toRat :=
        placeBy_of_isFinite hfinite toRat
      have hsmall : |(n : ℚ)| < 2 ^ 96 := by
        have hbits : |n| < 2 ^ 96 := by
          rw [Int.abs_eq_natAbs]
          omega
        exact_mod_cast hbits
      rw [compareInt?_of_decimal?_eq_none hdecimal,
        compare?_eq_place (isNaN_of_isFinite hfinite) hx, hinteger, hsame,
        compare_far (abs_toRat_ofInt_lt hn) hsmall (place_of_decimal?_eq_none hx hdecimal)]

end Binary64

end RecordQuery
