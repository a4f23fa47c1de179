import RecordQuery.Number.Mixed
import RecordQuery.Proofs.Number.Integers

/-! # The decimals of binary numbers

A binary number becomes a decimal by taking powers of two off its scale and
rounding digits away.  How far the decimal is from the number, which numbers
are decimals to begin with, and that no integer is passed on the way.
-/

namespace RecordQuery

namespace Binary64

-- powers are those of the core library, whichever others are in scope
attribute [local instance (high)] instPowNat

namespace Scaled

def toRat (d : Scaled) : ℚ :=
  d.coefficient * (10 : ℚ) ^ d.exponent

def places (c r : Nat) : Scaled :=
  ⟨c, -(r : Int)⟩

theorem toRat_nonneg (d : Scaled) : 0 ≤ d.toRat :=
  mul_nonneg (Nat.cast_nonneg _) (zpow_nonneg (by norm_num) _)

theorem toRat_places (c r : Nat) : (places c r).toRat = c / 10 ^ r := by
  rw [toRat, places, zpow_neg, zpow_natCast, div_eq_mul_inv]

section

variable {n c r : Nat}

theorem le_toRat_places : (n : ℚ) ≤ (places c r).toRat ↔ n * 10 ^ r ≤ c := by
  rw [toRat_places, le_div_iff₀ (by positivity)]
  exact_mod_cast Iff.rfl

theorem toRat_places_le : (places c r).toRat ≤ n ↔ c ≤ n * 10 ^ r := by
  rw [toRat_places, div_le_iff₀ (by positivity)]
  exact_mod_cast Iff.rfl

theorem withoutLastDigit_places (c r : Nat) :
    (places c (r + 1)).withoutLastDigit =
      places (c / 10 + (if 5 ≤ c % 10 then 1 else 0)) r := by
  simp [withoutLastDigit, places]

end

/-! ## No integer is passed -/

/-- No natural number lies between the two: it is on the same side of both, or equal to `d`. -/
structure Follows (v : ℚ) (d : Scaled) : Prop where
  above : ∀ n : ℕ, (n : ℚ) ≤ v → (n : ℚ) ≤ d.toRat
  below : ∀ n : ℕ, v ≤ n → d.toRat ≤ n

theorem Follows.refl (d : Scaled) : Follows d.toRat d := ⟨fun _ => id, fun _ => id⟩

theorem Follows.trans {v : ℚ} {d d' : Scaled} (h : Follows v d) (h' : Follows d.toRat d') :
    Follows v d' where
  above n hn := h'.above n (h.above n hn)
  below n hn := h'.below n (h.below n hn)

/-- Rounding a digit away passes no integer, since integers have no such digit. -/
theorem follows_withoutLastDigit (c r : Nat) :
    Follows (places c (r + 1)).toRat (places c (r + 1)).withoutLastDigit := by
  rw [withoutLastDigit_places]
  constructor
  · intro n hn
    rw [le_toRat_places, Nat.pow_succ, ← Nat.mul_assoc] at hn
    rw [le_toRat_places]
    split <;> omega
  · intro n hn
    rw [toRat_places_le, Nat.pow_succ, ← Nat.mul_assoc] at hn
    rw [toRat_places_le]
    split <;> omega

/-- What is less than one unit of a dropped digit follows as zero. -/
theorem follows_zero {c r : Nat} (hc : c < 10) : Follows (places c (r + 1)).toRat (places 0 0) := by
  constructor
  · intro n hn
    rw [le_toRat_places, Nat.pow_succ, ← Nat.mul_assoc] at hn
    rw [le_toRat_places]
    have hpos : 0 < 10 ^ r := Nat.pow_pos (by decide)
    have hzero : n * 10 ^ r = 0 := by omega
    rcases Nat.mul_eq_zero.mp hzero with h | h
    · simp [h]
    · omega
  · intro n _
    rw [toRat_places_le]
    exact Nat.zero_le _

theorem follows_shorten {steps c r : Nat} (h : steps ≤ r) :
    ∃ c' r', shorten steps (places c r) = places c' r' ∧
      Follows (places c r).toRat (places c' r') := by
  induction steps generalizing c r with
  | zero => exact ⟨c, r, rfl, .refl _⟩
  | succ steps ih =>
      obtain ⟨r, rfl⟩ : ∃ n, r = n + 1 := ⟨r - 1, by omega⟩
      by_cases hc : c < 10
      · exact ⟨0, 0, if_pos hc, follows_zero hc⟩
      · obtain ⟨c', r', hshorten, hfollows⟩ := @ih _ r (Nat.le_of_succ_le_succ h)
        refine ⟨c', r', ?_, (follows_withoutLastDigit c r).trans ?_⟩
        · have hstep : shorten (steps + 1) (places c (r + 1)) =
              shorten steps (places c (r + 1)).withoutLastDigit := if_neg hc
          rw [hstep, withoutLastDigit_places, hshorten]
        · rw [withoutLastDigit_places]
          exact hfollows

theorem follows_trim {steps c r : Nat} (h : steps ≤ r) :
    ∃ c' r', trim steps (places c r) = places c' r' ∧
      Follows (places c r).toRat (places c' r') := by
  induction steps generalizing c r with
  | zero => exact ⟨c, r, rfl, .refl _⟩
  | succ steps ih =>
      obtain ⟨r, rfl⟩ : ∃ n, r = n + 1 := ⟨r - 1, by omega⟩
      rw [trim]
      split
      · exact ⟨c, r + 1, rfl, .refl _⟩
      · have hfirst := follows_withoutLastDigit c r
        rw [withoutLastDigit_places] at hfirst ⊢
        obtain ⟨c', r', htrim, hfollows⟩ := ih (Nat.le_of_succ_le_succ h)
        exact ⟨c', r', htrim, hfirst.trans hfollows⟩

/-! ## How far rounding goes -/

/-- Dropping a digit changes the value by less than the difference of the two units. -/
theorem abs_withoutLastDigit_sub_le (d : Scaled) :
    |d.withoutLastDigit.toRat - d.toRat| ≤ 10 ^ (d.exponent + 1) - (10 : ℚ) ^ d.exponent := by
  obtain ⟨c, q⟩ := d
  have hunit : (0 : ℚ) < 10 ^ q := zpow_pos (by norm_num) _
  have hdigits : (c : ℚ) = 10 * (c / 10 : Nat) + (c % 10 : Nat) := by
    exact_mod_cast (Nat.div_add_mod c 10).symm
  have hlast : ((c % 10 : Nat) : ℚ) ≤ 9 := by
    exact_mod_cast Nat.le_of_lt_succ (Nat.mod_lt c (by decide))
  have hnonneg : (0 : ℚ) ≤ (c % 10 : Nat) := Nat.cast_nonneg _
  simp only [withoutLastDigit, toRat, zpow_add_one₀ (by norm_num : (10 : ℚ) ≠ 0), hdigits, abs_le]
  push_cast
  split
  · rename_i hup
    have hup : (5 : ℚ) ≤ (c % 10 : Nat) := by exact_mod_cast hup
    constructor <;> nlinarith
  · constructor <;> nlinarith

theorem abs_shorten_sub_le (steps : Nat) (d : Scaled) :
    |(shorten steps d).toRat - d.toRat| ≤ 10 ^ (d.exponent + steps) - (10 : ℚ) ^ d.exponent := by
  induction steps generalizing d with
  | zero => simp [shorten]
  | succ steps ih =>
      have hmono : (10 : ℚ) ^ (d.exponent + 1) ≤ 10 ^ (d.exponent + (steps + 1 : Nat)) :=
        zpow_le_zpow_right₀ (by norm_num) (by omega)
      rw [shorten]
      split
      · rename_i hsmall
        -- a decimal of one digit is less than the unit of the next place
        have hunit : (0 : ℚ) < 10 ^ d.exponent := zpow_pos (by norm_num) _
        have hdigit : (d.coefficient : ℚ) ≤ 9 := by exact_mod_cast Nat.le_of_lt_succ hsmall
        have hzero : (⟨0, 0⟩ : Scaled).toRat = 0 := by simp [toRat]
        rw [zpow_add_one₀ (by norm_num)] at hmono
        rw [hzero, zero_sub, abs_neg, abs_of_nonneg d.toRat_nonneg, toRat]
        nlinarith
      · have hrest := ih d.withoutLastDigit
        have hexponent : d.withoutLastDigit.exponent + steps = d.exponent + (steps + 1 : Nat) := by
          simp only [withoutLastDigit]
          omega
        rw [hexponent] at hrest
        calc |(shorten steps d.withoutLastDigit).toRat - d.toRat|
            ≤ |(shorten steps d.withoutLastDigit).toRat - d.withoutLastDigit.toRat| +
                |d.withoutLastDigit.toRat - d.toRat| := abs_sub_le _ _ _
          _ ≤ _ := add_le_add hrest (abs_withoutLastDigit_sub_le d)
          _ = 10 ^ (d.exponent + (steps + 1 : Nat)) - 10 ^ d.exponent := by
              simp [withoutLastDigit]

/-- What is dropped beyond twenty-eight places is less than the unit of the last one that stays. -/
theorem abs_shorten_places_sub_le (c r : Nat) :
    |(shorten (r - 28) (places c r)).toRat - (places c r).toRat| ≤ 1 / 10 ^ 28 := by
  refine (abs_shorten_sub_le (r - 28) (places c r)).trans ?_
  by_cases hmany : 28 ≤ r
  · have hexponent : (places c r).exponent + (r - 28 : Nat) = -28 := by
      simp only [places]
      omega
    rw [hexponent]
    have hunit : (0 : ℚ) < 10 ^ (places c r).exponent := zpow_pos (by norm_num) _
    have hbottom : (10 : ℚ) ^ (-28 : Int) = 1 / 10 ^ 28 := by norm_num
    linarith
  · have hnone : r - 28 = 0 := by omega
    rw [hnone]
    simp

/-- Digits are dropped while fifty-two bits are left without them, so at least forty-eight stay. -/
theorem abs_trim_sub_le (steps : Nat) (d : Scaled) :
    |(trim steps d).toRat - d.toRat| ≤ (trim steps d).toRat / 2 ^ 48 := by
  have hloss : trim steps d = d ∨ 2 ^ 48 ≤ (trim steps d).coefficient ∧
      |(trim steps d).toRat - d.toRat| ≤ 10 ^ (trim steps d).exponent - (10 : ℚ) ^ d.exponent := by
    induction steps generalizing d with
    | zero => exact Or.inl rfl
    | succ steps ih =>
        rw [trim]
        split
        · exact Or.inl rfl
        · rename_i hlarge
          have hdropped := abs_withoutLastDigit_sub_le d
          rcases ih d.withoutLastDigit with hsame | ⟨hcoefficient, hrest⟩
          · rw [hsame]
            refine Or.inr ⟨?_, hdropped⟩
            simp only [withoutLastDigit]
            omega
          · refine Or.inr ⟨hcoefficient, (abs_sub_le _ d.withoutLastDigit.toRat _).trans ?_⟩
            refine (add_le_add hrest hdropped).trans_eq ?_
            simp [withoutLastDigit]
  rcases hloss with hsame | ⟨hcoefficient, hloss⟩
  · rw [hsame, sub_self, abs_zero]
    exact div_nonneg d.toRat_nonneg (by norm_num)
  · have hunit : (0 : ℚ) < 10 ^ (trim steps d).exponent := zpow_pos (by norm_num) _
    have hunit' : (0 : ℚ) < 10 ^ d.exponent := zpow_pos (by norm_num) _
    have hcoefficient : (2 : ℚ) ^ 48 ≤ (trim steps d).coefficient := by
      exact_mod_cast hcoefficient
    rw [le_div_iff₀ (by norm_num)]
    rw [toRat] at hloss ⊢
    nlinarith

/-! ## Powers of two -/

/-- What a coefficient stands for while `s` powers of two and `r` powers of ten are still owed. -/
def owing (s c r : Nat) : ℚ :=
  c / (2 ^ s * 10 ^ r)

theorem owing_zero (c r : Nat) : owing 0 c r = (places c r).toRat := by
  rw [owing, toRat_places, pow_zero, one_mul]

theorem owing_nonneg (s c r : Nat) : 0 ≤ owing s c r :=
  div_nonneg (Nat.cast_nonneg _) (by positivity)

theorem owing_halved {c : Nat} (hc : c % 2 = 0) (s r : Nat) :
    owing s (c / 2) r = owing (s + 1) c r := by
  have heven : (c : ℚ) = 2 * (c / 2 : Nat) := by
    exact_mod_cast (Nat.mul_div_cancel' (Nat.dvd_of_mod_eq_zero hc)).symm
  rw [owing, owing, heven, pow_succ]
  field_simp

theorem owing_times_five (s c r : Nat) : owing s (c * 5) (r + 1) = owing (s + 1) c r := by
  rw [owing, owing, pow_succ, pow_succ]
  push_cast
  field_simp
  ring

/-- The bit that is lost is the last of at least ninety-four. -/
theorem owing_truncated {c : Nat} (hodd : c % 2 ≠ 0) (hlarge : limit ≤ c * 5) (s r : Nat) :
    owing s (c / 2) r ≤ owing (s + 1) c r ∧
      owing (s + 1) c r * (1 - 1 / 2 ^ 93) ≤ owing s (c / 2) r := by
  have hhalf : (c : ℚ) = 2 * (c / 2 : Nat) + 1 := by exact_mod_cast (by omega : c = 2 * (c / 2) + 1)
  have hbits : (2 : ℚ) ^ 93 ≤ c := by
    rw [limit] at hlarge
    exact_mod_cast (by omega : 2 ^ 93 ≤ c)
  have hden : (0 : ℚ) < 2 ^ s * 10 ^ r := by positivity
  have hsplit : owing (s + 1) c r = c / 2 / (2 ^ s * 10 ^ r) := by
    rw [owing, pow_succ]
    field_simp
  rw [hsplit, owing, ← mul_div_right_comm]
  constructor
  · rw [div_le_div_iff_of_pos_right hden]
    linarith
  · rw [div_le_div_iff_of_pos_right hden]
    have hlost : (1 : ℚ) ≤ c * (1 / 2 ^ 93) := by
      rw [mul_one_div, le_div_iff₀ (by positivity), one_mul]
      exact hbits
    linarith

/-- What one lost bit leaves of the share that the other powers of two leave. -/
theorem owing_share {s c r : Nat} {v : ℚ} (hs : s ≤ 2 ^ 93)
    (hmost : owing (s + 1) c r * (1 - 1 / 2 ^ 93) ≤ owing s (c / 2) r)
    (h : owing s (c / 2) r * (1 - s / 2 ^ 93) ≤ v) :
    owing (s + 1) c r * (1 - ((s + 1 : Nat) : ℚ) / 2 ^ 93) ≤ v := by
  have hkept : 0 ≤ 1 - (s : ℚ) / 2 ^ 93 := by
    rw [sub_nonneg, div_le_one (by positivity)]
    exact_mod_cast hs
  have hproduct : 1 - ((s + 1 : Nat) : ℚ) / 2 ^ 93 ≤
      (1 - 1 / 2 ^ 93) * (1 - (s : ℚ) / 2 ^ 93) := by
    have hboth : 0 ≤ (1 : ℚ) / 2 ^ 93 * (s / 2 ^ 93) := by positivity
    push_cast
    linarith [hboth]
  calc owing (s + 1) c r * (1 - ((s + 1 : Nat) : ℚ) / 2 ^ 93)
      ≤ owing (s + 1) c r * ((1 - 1 / 2 ^ 93) * (1 - (s : ℚ) / 2 ^ 93)) :=
        mul_le_mul_of_nonneg_left hproduct (owing_nonneg _ _ _)
    _ = owing (s + 1) c r * (1 - 1 / 2 ^ 93) * (1 - (s : ℚ) / 2 ^ 93) := by ring
    _ ≤ owing s (c / 2) r * (1 - (s : ℚ) / 2 ^ 93) := mul_le_mul_of_nonneg_right hmost hkept
    _ ≤ v := h

/-- Truncation passes no integer: an odd coefficient that owes powers of two stands for none. -/
theorem le_owing_half {n s c r : Nat} (h : (n : ℚ) ≤ owing (s + 1) c r) :
    (n : ℚ) ≤ owing s (c / 2) r := by
  rw [owing, le_div_iff₀ (by positivity)] at h ⊢
  have h : n * (2 ^ (s + 1) * 10 ^ r) ≤ c := by exact_mod_cast h
  have hdouble : n * (2 ^ (s + 1) * 10 ^ r) = n * (2 ^ s * 10 ^ r) * 2 := by
    rw [Nat.pow_succ]
    ac_rfl
  rw [hdouble] at h
  exact_mod_cast (Nat.le_div_iff_mul_le Nat.two_pos).mpr h

/-- One power of two is taken off in one of two ways. -/
theorem lower_succ (s c r : Nat) :
    lower (s + 1) (places c (s + 1 + r)) =
      if c % 2 ≠ 0 ∧ c * 5 < limit then lower s (places (c * 5) (s + (r + 1)))
      else lower s (places (c / 2) (s + r)) := by
  have hhalf : -((s + 1 + r : Nat) : Int) + 1 = -((s + r : Nat) : Int) := by omega
  have hfive : s + 1 + r = s + (r + 1) := by omega
  simp only [lower, places, hhalf]
  split_ifs <;> first | rfl | omega | rw [hfive]

/-- Taking powers of two off passes no integer, and what is lost on the way is small. -/
theorem lower_places (s c r : Nat) (hs : s ≤ 2 ^ 93) :
    ∃ c' r', lower s (places c (s + r)) = places c' r' ∧ Follows (owing s c r) (places c' r') ∧
      (places c' r').toRat ≤ owing s c r ∧
        owing s c r * (1 - s / 2 ^ 93) ≤ (places c' r').toRat := by
  induction s generalizing c r with
  | zero =>
      rw [owing_zero]
      refine ⟨c, r, ?_, .refl _, le_refl _, by simp⟩
      rw [Nat.zero_add, lower]
  | succ s ih =>
      have hnonneg := owing_nonneg (s + 1) c r
      rw [lower_succ]
      split
      · -- times five: nothing is lost
        obtain ⟨c', r', heq, hfollows, hle, hge⟩ := ih (c * 5) (r + 1) (by omega)
        rw [owing_times_five] at hfollows hle hge
        refine ⟨c', r', heq, hfollows, hle, le_trans ?_ hge⟩
        push_cast
        nlinarith
      · rename_i hcase
        obtain ⟨c', r', heq, hfollows, hle, hge⟩ := ih (c / 2) r (by omega)
        by_cases heven : c % 2 = 0
        · rw [owing_halved heven] at hfollows hle hge
          refine ⟨c', r', heq, hfollows, hle, le_trans ?_ hge⟩
          push_cast
          nlinarith
        · obtain ⟨hless, hmost⟩ := owing_truncated heven (by omega) s r
          exact ⟨c', r', heq, ⟨fun n hn => hfollows.above n (le_owing_half hn),
            fun n hn => hfollows.below n (hless.trans hn)⟩, hle.trans hless,
            owing_share (by omega) hmost hge⟩

/-- An odd coefficient that still owes powers of two has places left, and is small. -/
theorem odd_owing {s c r k m : Nat} (hodd : c % 2 ≠ 0) (hr : r ≤ k)
    (h : c * 10 ^ k = m * 2 ^ (s + 1) * 10 ^ r) : r < k ∧ c * 5 ≤ m := by
  obtain ⟨t, rfl⟩ := Nat.exists_eq_add_of_le hr
  rw [Nat.pow_add, ← Nat.mul_assoc, Nat.mul_right_comm] at h
  have h : c * 10 ^ t = m * 2 ^ (s + 1) :=
    Nat.eq_of_mul_eq_mul_right (Nat.pow_pos (by decide)) h
  obtain ⟨t, rfl⟩ : ∃ n, t = n + 1 := by
    cases t with
    | succ t => exact ⟨t, rfl⟩
    | zero =>
        rw [Nat.pow_zero, Nat.mul_one, Nat.pow_succ, ← Nat.mul_assoc] at h
        omega
  refine ⟨by omega, ?_⟩
  have hcoprime : Nat.Coprime (c * 5) (2 ^ (s + 1)) :=
    Nat.Coprime.pow_right _ (Nat.coprime_two_right.mpr (by rw [Nat.odd_iff]; omega))
  have hdvd : c * 5 ∣ m * 2 ^ (s + 1) := by
    rw [← h, Nat.pow_succ]
    exact ⟨10 ^ t * 2, by ring⟩
  have hm : 0 < m := by
    rcases Nat.eq_zero_or_pos m with rfl | hm
    · rw [Nat.zero_mul] at h
      rcases Nat.mul_eq_zero.mp h with h | h
      · omega
      · exact absurd h (Nat.pow_pos (by decide)).ne'
    · exact hm
  exact Nat.le_of_dvd hm (hcoprime.dvd_of_dvd_mul_right hdvd)

/-- Nothing is lost of a number with few decimal digits. -/
theorem lower_exact {s c r k m : Nat} (hm : m < limit) (hr : r ≤ k)
    (h : c * 10 ^ k = m * 2 ^ s * 10 ^ r) :
    ∃ c' r', lower s (places c (s + r)) = places c' r' ∧ r' ≤ k ∧ c' * 10 ^ k = m * 10 ^ r' := by
  induction s generalizing c r with
  | zero =>
      refine ⟨c, r, ?_, hr, by simpa using h⟩
      rw [Nat.zero_add, lower]
  | succ s ih =>
      rw [lower_succ]
      by_cases heven : c % 2 = 0
      · rw [if_neg (fun hcase => hcase.1 heven)]
        refine ih hr ?_
        have hhalf : c = c / 2 * 2 := by omega
        rw [hhalf, Nat.pow_succ] at h
        refine Nat.eq_of_mul_eq_mul_right Nat.two_pos ?_
        calc c / 2 * 10 ^ k * 2 = c / 2 * 2 * 10 ^ k := by ac_rfl
          _ = m * (2 ^ s * 2) * 10 ^ r := h
          _ = m * 2 ^ s * 10 ^ r * 2 := by ac_rfl
      · obtain ⟨hplaces, hsmall⟩ := odd_owing heven hr h
        rw [if_pos ⟨heven, by omega⟩]
        refine ih hplaces ?_
        calc c * 5 * 10 ^ k = c * 10 ^ k * 5 := by ac_rfl
          _ = m * 2 ^ (s + 1) * 10 ^ r * 5 := by rw [h]
          _ = m * 2 ^ s * 10 ^ (r + 1) := by ring

/-! ## The decimal of a number -/

/-- What the decimal `d` of a number of size `v` keeps of it. -/
structure Approximates (v : ℚ) (d : Scaled) : Prop where
  follows : Follows v d
  close : |d.toRat - v| ≤ v / 2 ^ 47 + 2 / 10 ^ 28
  exact : ∀ m k : ℕ, m < 2 ^ 52 → k ≤ 28 → v = m / 10 ^ k → d.toRat = v

theorem Approximates.refl (d : Scaled) : Approximates d.toRat d where
  follows := .refl d
  close := by
    rw [sub_self, abs_zero]
    have := d.toRat_nonneg
    positivity
  exact _ _ _ _ _ := rfl

/-- What is done to a number below two to the fifty-third with `s` powers of two in its scale. -/
def roundPlaces (s c : Nat) : Scaled :=
  let d := lower s (places c s)
  let d := shorten (-28 - d.exponent).toNat d
  trim (-d.exponent).toNat d

theorem roundPlaces_eq {s c c₁ r₁ : Nat} (h : lower s (places c s) = places c₁ r₁) :
    roundPlaces s c =
      trim (-(shorten (r₁ - 28) (places c₁ r₁)).exponent).toNat
        (shorten (r₁ - 28) (places c₁ r₁)) := by
  have hsteps : (-28 - (places c₁ r₁).exponent).toNat = r₁ - 28 := by
    simp only [places]
    omega
  rw [roundPlaces, h, hsteps]

theorem places_exponent_toNat (c r : Nat) : (-(places c r).exponent).toNat = r := by
  simp [places]

theorem roundPlaces_exact {s c k m : Nat} (hm : m < 2 ^ 52) (hk : k ≤ 28)
    (h : owing s c 0 = m / 10 ^ k) : (roundPlaces s c).toRat = owing s c 0 := by
  have hscaled : c * 10 ^ k = m * 2 ^ s * 10 ^ 0 := by
    rw [owing, div_eq_div_iff (by positivity) (by positivity)] at h
    have hcast : c * 10 ^ k = m * (2 ^ s * 10 ^ 0) := by exact_mod_cast h
    rw [hcast, Nat.mul_assoc]
  obtain ⟨c', r', hlower, hr, hsame⟩ :=
    lower_exact (Nat.lt_trans hm (by decide)) (Nat.zero_le k) hscaled
  have hsmall : c' < 2 ^ 52 := by
    have hle : c' * 10 ^ k ≤ m * 10 ^ k := by
      rw [hsame]
      exact Nat.mul_le_mul_left m (Nat.pow_le_pow_right (by decide) hr)
    exact Nat.lt_of_le_of_lt (Nat.le_of_mul_le_mul_right hle (Nat.pow_pos (by decide))) hm
  have hnone : r' - 28 = 0 := by omega
  have htrim : ∀ steps, trim steps (places c' r') = places c' r' := by
    intro steps
    cases steps with
    | zero => rfl
    | succ steps => exact if_pos hsmall
  rw [roundPlaces_eq hlower, hnone]
  change (trim _ (places c' r')).toRat = _
  rw [htrim, h, toRat_places, div_eq_div_iff (by positivity) (by positivity)]
  exact_mod_cast hsame

theorem roundPlaces_spec {s : Nat} (c : Nat) (hs : s ≤ 1074) :
    ∃ c' r', roundPlaces s c = places c' r' ∧ Approximates (owing s c 0) (places c' r') := by
  have hrange : s ≤ 2 ^ 93 := Nat.le_trans hs (by decide)
  obtain ⟨c₁, r₁, hlower, hfollows₁, hle, hge⟩ := lower_places s c 0 hrange
  obtain ⟨c₂, r₂, hshorten, hfollows₂⟩ :=
    @follows_shorten (r₁ - 28) c₁ r₁ (Nat.sub_le _ _)
  obtain ⟨c₃, r₃, htrim, hfollows₃⟩ := @follows_trim r₂ c₂ r₂ (Nat.le_refl _)
  have hround : roundPlaces s c = places c₃ r₃ := by
    rw [roundPlaces_eq hlower, hshorten, places_exponent_toNat, htrim]
  refine ⟨c₃, r₃, hround, (hfollows₁.trans hfollows₂).trans hfollows₃, ?_, ?_⟩
  · -- the three roundings, one after the other
    have hnonneg := owing_nonneg s c 0
    have hlowered : |(places c₁ r₁).toRat - owing s c 0| ≤ owing s c 0 / 2 ^ 82 := by
      have hs' : (s : ℚ) ≤ 1074 := by exact_mod_cast hs
      rw [abs_le]
      constructor <;> nlinarith
    have hshortened : |(places c₂ r₂).toRat - (places c₁ r₁).toRat| ≤ 1 / 10 ^ 28 := by
      have hbound := abs_shorten_places_sub_le c₁ r₁
      rwa [hshorten] at hbound
    have htrimmed : |(places c₃ r₃).toRat - (places c₂ r₂).toRat| ≤
        (places c₃ r₃).toRat / 2 ^ 48 := by
      have hbound := abs_trim_sub_le r₂ (places c₂ r₂)
      rwa [htrim] at hbound
    rw [abs_le] at hlowered hshortened htrimmed ⊢
    constructor <;> linarith
  · intro m k hm hk h
    rw [← hround]
    exact roundPlaces_exact hm hk h

end Scaled

end Binary64

end RecordQuery
