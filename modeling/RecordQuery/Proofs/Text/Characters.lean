import Mathlib
import RecordQuery.Text.Characters

/-! # Characters at the front of a text

What a test takes off the front of a text does not change when another text is put
behind it whose first character fails the test.  Digits and the other visible characters
of ASCII are no white space, and numbers are written in digits.
-/

namespace RecordQuery

/-! ## Runs of characters -/

section

variable {p : Char → Bool} {cs rest : List Char} (hrest : ∀ c ∈ rest.head?, p c = false)

include hrest

theorem takeWhile_append_of_head (cs : List Char) :
    (cs ++ rest).takeWhile p = cs.takeWhile p := by
  induction cs with
  | nil =>
      cases rest with
      | nil => rfl
      | cons c rest => simp [hrest c rfl]
  | cons c cs ih => simp only [List.cons_append, List.takeWhile_cons, ih]

theorem dropWhile_append_of_head (cs : List Char) :
    (cs ++ rest).dropWhile p = cs.dropWhile p ++ rest := by
  induction cs with
  | nil =>
      cases rest with
      | nil => rfl
      | cons c rest => simp [hrest c rfl]
  | cons c cs ih =>
      simp only [List.cons_append, List.dropWhile_cons, ih]
      split <;> rfl

theorem takeWhile_append_eq (hcs : ∀ c ∈ cs, p c = true) : (cs ++ rest).takeWhile p = cs := by
  rw [takeWhile_append_of_head hrest, List.takeWhile_eq_self_iff.mpr hcs]

theorem dropWhile_append_eq (hcs : ∀ c ∈ cs, p c = true) : (cs ++ rest).dropWhile p = rest := by
  rw [dropWhile_append_of_head hrest, List.dropWhile_eq_nil_iff.mpr hcs, List.nil_append]

end

/-! ## Kinds of characters -/

/-- The visible characters of ASCII are no white space. -/
theorem isWhiteSpace_eq_false {c : Char} (hlow : 0x21 ≤ c.toNat) (hhigh : c.toNat ≤ 0x7E) :
    Text.isWhiteSpace c = false := by
  simp only [Text.isWhiteSpace, Text.inRuns, Text.whiteSpaceRuns, List.any_cons, List.any_nil,
    Text.CodeRun.holds, Bool.or_eq_false_iff, Bool.and_eq_false_iff, decide_eq_false_iff_not]
  refine ⟨?_, ?_, ?_, ?_, ?_, ?_, ?_, ?_, ?_, ?_, trivial⟩ <;> omega

theorem isDigit_iff {c : Char} : isDigit c = true ↔ 48 ≤ c.toNat ∧ c.toNat ≤ 57 := by
  simp only [isDigit, Bool.and_eq_true, decide_eq_true_eq, Char.le_def, UInt32.le_iff_toNat_le]
  exact Iff.rfl

theorem isWhiteSpace_of_isDigit {c : Char} (h : isDigit c = true) :
    Text.isWhiteSpace c = false := by
  have hrange := isDigit_iff.mp h
  exact isWhiteSpace_eq_false (by omega) (by omega)

/-! ## Numbers in digits -/

theorem digitsValue_eq (digits : List Char) : digitsValue digits = Nat.ofDigitChars 10 digits 0 :=
  Nat.ofDigitChars_eq_foldl.symm

theorem isDigit_of_mem_toDigits {c : Char} {n : Nat} (hc : c ∈ Nat.toDigits 10 n) :
    isDigit c = true := by
  have hdigit : c.isDigit = true := Nat.isDigit_of_mem_toDigits (by decide) (by decide) hc
  simpa [Char.isDigit, isDigit, Char.le_def] using hdigit

/-- The notation of a positive number does not start with a zero. -/
theorem head_toDigits_ne_zero {n : Nat} (hn : n ≠ 0) : (Nat.toDigits 10 n).head? ≠ some '0' := by
  induction n using Nat.strongRecOn with
  | ind n ih =>
      by_cases hlt : n < 10
      · rw [Nat.toDigits_of_lt_base hlt]
        intro hzero
        have hchar : n.digitChar = '0' := Option.some.inj hzero
        have hvalue := Nat.toNat_digitChar_sub_48_of_lt_ten hlt
        rw [hchar] at hvalue
        exact hn hvalue.symm
      · obtain ⟨first, others, hdigits⟩ :=
          List.exists_cons_of_ne_nil (Nat.toDigits_ne_nil (n := n / 10) (b := 10))
        have hfirst := ih (n / 10) (by omega) (by omega)
        rw [hdigits] at hfirst
        rw [Nat.toDigits_of_base_le (by decide) (Nat.le_of_not_lt hlt), hdigits]
        exact hfirst

end RecordQuery
