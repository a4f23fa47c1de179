import RecordQuery.Proofs.Number.DecimalRounding

/-! # Rounding as a run of steps

The rounding of decimals is a run of steps, one for each place from the last one
on.  Each step keeps the order of values and leaves alone what has no digit
behind its place, so whole roundings keep the order, also of decimals with
different numbers of places.
-/

namespace RecordQuery

namespace Binary64

-- powers are those of the core library, whichever others are in scope
attribute [local instance (high)] instPowNat

namespace Scaled

/-! ## Rounding at a place -/

/-- The value rounded to `r` places, a half upwards. -/
def roundAt (r : Nat) (v : ℚ) : ℚ :=
  ⌊v * 10 ^ r + 1 / 2⌋ / 10 ^ r

theorem roundAt_mono (r : Nat) : Monotone (roundAt r) := by
  intro v w hvw
  have hunits : ⌊v * 10 ^ r + 1 / 2⌋ ≤ ⌊w * 10 ^ r + 1 / 2⌋ := by
    apply Int.floor_le_floor
    gcongr
  unfold roundAt
  gcongr

theorem roundAt_nonneg {r : Nat} {v : ℚ} (hv : 0 ≤ v) : 0 ≤ roundAt r v := by
  have hunits : 0 ≤ ⌊v * 10 ^ r + 1 / 2⌋ := by
    apply Int.floor_nonneg.mpr
    positivity
  unfold roundAt
  positivity

/-- In units of a place behind all its digits, a decimal is whole. -/
theorem toRat_places_mul (c s k : Nat) :
    (places c s).toRat * 10 ^ (s + k) = (c * 10 ^ k : Nat) := by
  rw [toRat_places, pow_add]
  push_cast
  field_simp

theorem toRat_places_succ_mul (c r : Nat) : (places c (r + 1)).toRat * 10 ^ r = c / 10 := by
  rw [toRat_places, pow_succ]
  field_simp

/-- What has at most `r` places is not rounded. -/
theorem roundAt_places {c s r : Nat} (h : s ≤ r) :
    roundAt r (places c s).toRat = (places c s).toRat := by
  obtain ⟨k, rfl⟩ := Nat.exists_eq_add_of_le h
  have hfloor : ⌊((c * 10 ^ k : Nat) : ℚ) + 1 / 2⌋ = ((c * 10 ^ k : Nat) : ℤ) := by
    rw [Int.floor_natCast_add]
    norm_num
  rw [roundAt, toRat_places_mul, hfloor, Int.cast_natCast, ← toRat_places_mul,
    mul_div_cancel_right₀ _ (by positivity)]

/-- Dropping the last digit rounds at the place before it. -/
theorem toRat_withoutLastDigit (c r : Nat) :
    (places c (r + 1)).withoutLastDigit.toRat = roundAt r (places c (r + 1)).toRat := by
  have hhalf : (c : ℚ) / 10 + 1 / 2 = ((c + 5 : Nat) : ℤ) / (10 : Nat) := by
    push_cast
    ring
  have hfloor : ⌊(c : ℚ) / 10 + 1 / 2⌋ =
      ((c / 10 + if 5 ≤ c % 10 then 1 else 0 : Nat) : ℤ) := by
    rw [hhalf, Rat.floor_intCast_div_natCast]
    split <;> omega
  rw [withoutLastDigit_places, toRat_places, roundAt, toRat_places_succ_mul, hfloor]
  rfl

/-! ## Steps from place to place -/

/-- A step at each place: it keeps the order, and what has no digit behind its place. -/
structure Rounds (step : Nat → ℚ → ℚ) : Prop where
  mono : ∀ r, Monotone (step r)
  fixes : ∀ c s r, s ≤ r → step r (places c s).toRat = (places c s).toRat

/-- The steps at the `n` places behind `stop`, the last place first. -/
def descend (step : Nat → ℚ → ℚ) (stop : Nat) : Nat → ℚ → ℚ
  | 0, v => v
  | n + 1, v => descend step stop n (step (stop + n) v)

section

variable {step : Nat → ℚ → ℚ} (hstep : Rounds step)

include hstep

theorem descend_mono (stop n : Nat) : Monotone (descend step stop n) := by
  induction n with
  | zero => exact monotone_id
  | succ n ih => exact ih.comp (hstep.mono (stop + n))

/-- Steps behind the last digit do nothing. -/
theorem descend_add (stop : Nat) {c s m : Nat} (h : s ≤ stop + m) (k : Nat) :
    descend step stop (m + k) (places c s).toRat = descend step stop m (places c s).toRat := by
  induction k with
  | zero => rfl
  | succ k ih =>
      have hnone : step (stop + (m + k)) (places c s).toRat = (places c s).toRat :=
        hstep.fixes c s _ (by omega)
      rw [← Nat.add_assoc, descend, hnone, ih]

theorem descend_zero (stop n : Nat) : descend step stop n 0 = 0 := by
  have hzero : (places 0 0).toRat = 0 := by simp [toRat_places]
  have hnone := descend_add hstep stop (c := 0) (s := 0) (m := 0) (Nat.zero_le _) n
  rwa [hzero, Nat.zero_add] at hnone

end

/-- Shortening at a place: what is less than one unit of it becomes zero. -/
def shortenStep (r : Nat) (v : ℚ) : ℚ :=
  if v * 10 ^ r < 1 then 0 else roundAt r v

/-- Trimming at a place: only what has fifty-two bits in digits up to the next is rounded. -/
def trimStep (r : Nat) (v : ℚ) : ℚ :=
  if v * 10 ^ (r + 1) < 2 ^ 52 then v else roundAt r v

/-- Two ways of rounding, the one below and the other from a bound on, keep the order together. -/
theorem monotone_ite {f g : ℚ → ℚ} {bound : ℚ} (k : Nat) (hf : Monotone f) (hg : Monotone g)
    (hfg : ∀ v w, v * 10 ^ k < bound → bound ≤ w * 10 ^ k → f v ≤ g w) :
    Monotone fun v => if v * 10 ^ k < bound then f v else g v := by
  intro v w hvw
  have hscaled : v * 10 ^ k ≤ w * 10 ^ k := by gcongr
  dsimp only
  by_cases hv : v * 10 ^ k < bound
  · rw [if_pos hv]
    by_cases hw : w * 10 ^ k < bound
    · rw [if_pos hw]
      exact hf hvw
    · rw [if_neg hw]
      exact hfg v w hv (not_lt.mp hw)
  · rw [if_neg hv, if_neg fun hw => hv (hscaled.trans_lt hw)]
    exact hg hvw

theorem rounds_shortenStep : Rounds shortenStep where
  mono r := by
    apply monotone_ite r monotone_const (roundAt_mono r)
    intro v w _ hw
    apply roundAt_nonneg
    exact nonneg_of_mul_nonneg_left (zero_le_one.trans hw) (by positivity)
  fixes c s r h := by
    unfold shortenStep
    by_cases hsmall : (places c s).toRat * 10 ^ r < 1
    · -- a whole number of units that is less than one
      obtain ⟨k, rfl⟩ := Nat.exists_eq_add_of_le h
      rw [if_pos hsmall]
      rw [toRat_places_mul, Nat.cast_lt_one, Nat.mul_eq_zero] at hsmall
      obtain rfl : c = 0 := hsmall.resolve_right (Nat.pow_pos (by decide)).ne'
      simp [toRat_places]
    · rw [if_neg hsmall, roundAt_places h]

/-- Fifty-two bits stay fifty-two: the last digit of two to the fifty-second is rounded up. -/
theorem le_roundAt {r : Nat} {w : ℚ} (h : 2 ^ 52 ≤ w * 10 ^ (r + 1)) :
    2 ^ 52 ≤ roundAt r w * 10 ^ (r + 1) := by
  rw [pow_succ 10 r, ← mul_assoc] at h ⊢
  have hfloor : 450359962737050 ≤ ⌊w * 10 ^ r + 1 / 2⌋ := by
    rw [Int.le_floor]
    push_cast
    linarith
  have hcast : (450359962737050 : ℚ) ≤ ⌊w * 10 ^ r + 1 / 2⌋ := by exact_mod_cast hfloor
  rw [roundAt, div_mul_cancel₀ _ (by positivity)]
  linarith

theorem rounds_trimStep : Rounds trimStep where
  mono r := by
    apply monotone_ite (r + 1) monotone_id (roundAt_mono r)
    intro v w hv hw
    exact le_of_mul_le_mul_right (hv.le.trans (le_roundAt hw)) (by positivity)
  fixes c s r h := by
    unfold trimStep
    by_cases hsmall : (places c s).toRat * 10 ^ (r + 1) < 2 ^ 52
    · rw [if_pos hsmall]
    · rw [if_neg hsmall, roundAt_places h]

/-! ## Rounding as a run of steps -/

theorem shorten_places_succ (n c r : Nat) :
    shorten (n + 1) (places c (r + 1)) =
      if c < 10 then places 0 0 else shorten n (places c (r + 1)).withoutLastDigit := rfl

theorem trim_places_succ (n c r : Nat) :
    trim (n + 1) (places c (r + 1)) =
      if c < 2 ^ 52 then places c (r + 1) else trim n (places c (r + 1)).withoutLastDigit := rfl

theorem toRat_shorten_places (stop n c : Nat) :
    (shorten n (places c (stop + n))).toRat =
      descend shortenStep stop n (places c (stop + n)).toRat := by
  induction n generalizing c with
  | zero => rfl
  | succ n ih =>
      have hdigit : (c : ℚ) / 10 < 1 ↔ c < 10 := by
        rw [div_lt_one (by norm_num)]
        exact_mod_cast Iff.rfl
      rw [← Nat.add_assoc, shorten_places_succ, descend, shortenStep, toRat_places_succ_mul]
      by_cases hc : c < 10
      · rw [if_pos hc, if_pos (hdigit.mpr hc), descend_zero rounds_shortenStep]
        simp [toRat_places]
      · rw [if_neg hc, if_neg (mt hdigit.mp hc), ← toRat_withoutLastDigit,
          withoutLastDigit_places, ih]

/-- What has fewer than fifty-two bits is trimmed no further. -/
theorem descend_trimStep_of_small {n : Nat} {v : ℚ} (hv : 0 ≤ v) (h : v * 10 ^ n < 2 ^ 52) :
    descend trimStep 0 n v = v := by
  induction n with
  | zero => rfl
  | succ n ih =>
      have hstep : trimStep (0 + n) v = v := by
        rw [Nat.zero_add]
        exact if_pos h
      rw [descend, hstep]
      apply ih
      rw [pow_succ] at h
      have hnonneg : 0 ≤ v * 10 ^ n := by positivity
      linarith

theorem toRat_trim_places (n c : Nat) :
    (trim n (places c n)).toRat = descend trimStep 0 n (places c n).toRat := by
  induction n generalizing c with
  | zero => rfl
  | succ n ih =>
      have hbits : (places c (n + 1)).toRat * 10 ^ (n + 1) < 2 ^ 52 ↔ c < 2 ^ 52 := by
        have hunits := toRat_places_mul c (n + 1) 0
        rw [Nat.add_zero, Nat.pow_zero, Nat.mul_one] at hunits
        rw [hunits]
        exact_mod_cast Iff.rfl
      rw [trim_places_succ]
      by_cases hc : c < 2 ^ 52
      · rw [if_pos hc, descend_trimStep_of_small (toRat_nonneg _) (hbits.mpr hc)]
      · rw [if_neg hc, descend, Nat.zero_add, trimStep, if_neg (mt hbits.mp hc),
          ← toRat_withoutLastDigit, withoutLastDigit_places, ih]

/-! ## Common places

Two decimals may have different numbers of places.  Steps from a place behind
both of them round the one like the other.
-/

theorem descend_shortenStep {c r n : Nat} (h : r ≤ 28 + n) :
    descend shortenStep 28 n (places c r).toRat = (shorten (r - 28) (places c r)).toRat := by
  by_cases hfew : r ≤ 28
  · have hnone := descend_add rounds_shortenStep 28 (c := c) (m := 0) hfew n
    rw [Nat.zero_add] at hnone
    rw [hnone, Nat.sub_eq_zero_of_le hfew]
    rfl
  · obtain ⟨m, rfl⟩ : ∃ m, r = 28 + m := ⟨r - 28, by omega⟩
    obtain ⟨k, rfl⟩ : ∃ k, n = m + k := ⟨n - m, by omega⟩
    rw [descend_add rounds_shortenStep 28 (Nat.le_refl _), Nat.add_sub_cancel_left,
      toRat_shorten_places]

theorem descend_trimStep {c r n : Nat} (h : r ≤ n) :
    descend trimStep 0 n (places c r).toRat = (trim r (places c r)).toRat := by
  obtain ⟨k, rfl⟩ := Nat.exists_eq_add_of_le h
  rw [descend_add rounds_trimStep 0 (Nat.zero_add r).ge, toRat_trim_places]

/-- All the rounding behind the powers of two, from a place far enough behind. -/
theorem exists_roundPlaces_eq {s : Nat} (hs : s ≤ 2 ^ 93) (c : Nat) :
    ∃ least, ∀ n, least ≤ n → (roundPlaces s c).toRat =
      descend trimStep 0 n (descend shortenStep 28 n (lower s (places c s)).toRat) := by
  obtain ⟨c₁, r₁, hlower, -⟩ := lower_places s c 0 hs
  obtain ⟨c₂, r₂, hshorten, -⟩ := @follows_shorten (r₁ - 28) c₁ r₁ (Nat.sub_le _ _)
  refine ⟨max r₁ r₂, fun n hn => ?_⟩
  rw [Nat.add_zero] at hlower
  rw [roundPlaces_eq hlower, hlower, descend_shortenStep (by omega), hshorten,
    places_exponent_toNat, descend_trimStep (by omega)]

theorem roundPlaces_mono {s s' c c' : Nat} (hs : s ≤ 2 ^ 93) (hs' : s' ≤ 2 ^ 93)
    (h : (lower s (places c s)).toRat ≤ (lower s' (places c' s')).toRat) :
    (roundPlaces s c).toRat ≤ (roundPlaces s' c').toRat := by
  obtain ⟨least, hleast⟩ := exists_roundPlaces_eq hs c
  obtain ⟨least', hleast'⟩ := exists_roundPlaces_eq hs' c'
  rw [hleast (max least least') (by omega), hleast' (max least least') (by omega)]
  exact descend_mono rounds_trimStep _ _ (descend_mono rounds_shortenStep _ _ h)

/-- What differs by the last of fifty-three bits still differs without powers of two. -/
theorem lower_le_lower {s s' c c' : Nat} (hs : s ≤ 1074) (hs' : s' ≤ 1074)
    (h : owing s c 0 * (1 + 1 / 2 ^ 53) ≤ owing s' c' 0) :
    (lower s (places c s)).toRat ≤ (lower s' (places c' s')).toRat := by
  obtain ⟨c₁, r₁, hlower, -, hle, -⟩ := lower_places s c 0 (by omega)
  obtain ⟨c₂, r₂, hlower', -, -, hge⟩ := lower_places s' c' 0 (by omega)
  rw [Nat.add_zero] at hlower hlower'
  rw [hlower, hlower']
  have hnonneg := owing_nonneg s c 0
  have hnonneg' := owing_nonneg s' c' 0
  have hsteps : (s' : ℚ) ≤ 1074 := by exact_mod_cast hs'
  calc (places c₁ r₁).toRat
      ≤ owing s c 0 := hle
    _ ≤ owing s c 0 * (1 + 1 / 2 ^ 53) * (1 - 1074 / 2 ^ 93) := by nlinarith
    _ ≤ owing s' c' 0 * (1 - s' / 2 ^ 93) := by gcongr
    _ ≤ (places c₂ r₂).toRat := hge

end Scaled

end Binary64

end RecordQuery
