import RecordQuery.Proofs.Syntax.Recognisers
import RecordQuery.Text.LetterCase

/-! # Lower case of parts of a text

Lower-casing goes character by character, and only a capital sigma looks at the
text around it.  So a part without one is lower-cased the same in any text, and
characters of a single byte are lower-cased one for one.
-/

namespace RecordQuery

namespace Text

/-- Lower case of `part`, with the reversed text before it and the text after it. -/
def lowerWithin (before : List Char) : List Char → List Char → List Char
  | [], _ => []
  | c :: cs, after => lowerChar before c (cs ++ after) ++ lowerWithin (c :: before) cs after

theorem lowerFrom_append (before part after : List Char) :
    lowerFrom before (part ++ after) =
      lowerWithin before part after ++ lowerFrom (part.reverse ++ before) after := by
  induction part generalizing before with
  | nil => rfl
  | cons c cs ih =>
      rw [List.cons_append, lowerFrom, ih, lowerWithin, List.append_assoc, List.reverse_cons,
        List.append_assoc, List.singleton_append]

theorem lowerFrom_eq (before part : List Char) :
    lowerFrom before part = lowerWithin before part [] := by
  have h := lowerFrom_append before part []
  rwa [List.append_nil, lowerFrom, List.append_nil] at h

theorem lowerChar_eq {c : Char} (hc : c ≠ 'Σ') (before after before' after' : List Char) :
    lowerChar before c after = lowerChar before' c after' := by
  rw [lowerChar, lowerChar, if_neg hc, if_neg hc]

/-- A part without a capital sigma is lower-cased everywhere as on its own. -/
theorem lowerWithin_eq {part : List Char} (h : 'Σ' ∉ part) (before after : List Char) :
    lowerWithin before part after = lowerFrom [] part := by
  suffices ∀ before before' after after', lowerWithin before part after =
      lowerWithin before' part after' by
    rw [lowerFrom_eq]
    exact this _ _ _ _
  induction part with
  | nil => intros; rfl
  | cons c cs ih =>
      rw [List.mem_cons, not_or] at h
      obtain ⟨hc, hcs⟩ := h
      intro before before' after after'
      rw [lowerWithin, lowerWithin, lowerChar_eq (Ne.symm hc) _ _ before' (cs ++ after'),
        ih hcs _ (c :: before') after after']

/-- A part that is lower-cased in its place as on its own is still a part in lower case. -/
theorem isInfix_lowerFrom {text part before after : List Char} (h : text = before ++ part ++ after)
    (hsame : lowerWithin before.reverse part after = lowerFrom [] part) :
    lowerFrom [] part <:+: lowerFrom [] text := by
  rw [h, List.append_assoc, lowerFrom_append, lowerFrom_append, List.append_nil, hsame]
  exact ⟨_, _, by rw [List.append_assoc]⟩

/-! ## Characters of a single byte -/

theorem shift_ascii {c : Char} (hc : c.toNat < 128) :
    (shift lowerRows c).toNat = if 65 ≤ c.toNat ∧ c.toNat ≤ 90 then c.toNat + 32 else c.toNat := by
  have hall : ∀ n : Fin 128, (shift lowerRows (Char.ofNat n)).toNat =
      if 65 ≤ (Char.ofNat n).toNat ∧ (Char.ofNat n).toNat ≤ 90 then (Char.ofNat n).toNat + 32
      else (Char.ofNat n).toNat := by
    decide +kernel
  have h := hall ⟨c.toNat, hc⟩
  rwa [Char.ofNat_toNat] at h

theorem isDigit_shift {c : Char} (hc : c.toNat < 128) :
    isDigit (shift lowerRows c) = isDigit c := by
  rw [Bool.eq_iff_iff, isDigit_iff, isDigit_iff, shift_ascii hc]
  split <;> omega

theorem shift_eq_point_iff {c : Char} (hc : c.toNat < 128) :
    shift lowerRows c = '.' ↔ c = '.' := by
  have hpoint : '.'.toNat = 46 := rfl
  rw [← Char.toNat_inj, ← Char.toNat_inj, shift_ascii hc, hpoint]
  split <;> omega

/-- The characters `ds` are `cs` in lower case, behind some text or other. -/
def Lowered (cs ds : List Char) : Prop :=
  ∃ before, ds = lowerFrom before cs

namespace Lowered

variable {c : Char} {cs ds : List Char}

theorem eq_nil (h : Lowered [] ds) : ds = [] := by
  obtain ⟨before, rfl⟩ := h
  rfl

theorem cons (h : Lowered (c :: cs) ds) (hc : c.toNat < 128) :
    ∃ es, ds = shift lowerRows c :: es ∧ Lowered cs es := by
  obtain ⟨before, rfl⟩ := h
  have hsigma : c ≠ 'Σ' := by
    rintro rfl
    exact absurd hc (by decide)
  have hdotted : c ≠ 'İ' := by
    rintro rfl
    exact absurd hc (by decide)
  refine ⟨lowerFrom (c :: before) cs, ?_, c :: before, rfl⟩
  rw [lowerFrom, lowerChar, if_neg hsigma, if_neg hdotted, List.singleton_append]

/-- Digits and the marks between them have no case. -/
theorem cons_same (h : Lowered (c :: cs) ds) (hc : c.toNat < 65) :
    ∃ es, ds = c :: es ∧ Lowered cs es := by
  obtain ⟨es, rfl, hes⟩ := h.cons (by omega)
  have hshift : (shift lowerRows c).toNat = c.toNat := by
    rw [shift_ascii (by omega), if_neg (by omega)]
  exact ⟨es, by rw [Char.toNat_inj.mp hshift], hes⟩

theorem head?_eq (h : Lowered cs ds) (hcs : ∀ c ∈ cs.head?, c.toNat < 128) :
    ds.head? = cs.head?.map (shift lowerRows) := by
  cases cs with
  | nil => rw [h.eq_nil]; rfl
  | cons c cs =>
      obtain ⟨es, rfl, -⟩ := h.cons (hcs c rfl)
      rfl

theorem digits {digits : List Char} (h : Lowered (digits ++ cs) ds)
    (hdigits : ∀ c ∈ digits, isDigit c = true) : ∃ es, ds = digits ++ es ∧ Lowered cs es := by
  induction digits generalizing ds with
  | nil => exact ⟨ds, rfl, h⟩
  | cons d digits ih =>
      rw [List.forall_mem_cons] at hdigits
      have hrange := isDigit_iff.mp hdigits.1
      obtain ⟨es, rfl, hes⟩ := h.cons_same (by omega)
      obtain ⟨rest, rfl, hrest⟩ := ih hes hdigits.2
      exact ⟨rest, rfl, hrest⟩

end Lowered

end Text

end RecordQuery
