import RecordQuery.Number.Numeral
import RecordQuery.Proofs.Number.Reading
import RecordQuery.Proofs.Text.Characters

/-! # Numerals and positional text

A well-formed numeral is split off the front of a text that does not continue
it.  The positional text of a finite number is such a numeral, and it reads back
as the number.
-/

namespace RecordQuery

/-! ## Digits -/

/-- At least one character, and digits only. -/
def IsDigits (cs : List Char) : Prop :=
  cs ≠ [] ∧ ∀ c ∈ cs, isDigit c = true

namespace ExponentPart

/-- A mark, a sign or none, and digits. -/
structure WellFormed (part : ExponentPart) : Prop where
  mark : part.mark = 'e' ∨ part.mark = 'E'
  sign : part.sign = none ∨ part.sign = some '+' ∨ part.sign = some '-'
  digits : IsDigits part.digits

theorem split?_text {part : ExponentPart} (hpart : part.WellFormed) {rest : List Char}
    (hrest : ∀ c ∈ rest.head?, isDigit c = false) :
    split? (part.text ++ rest) = some (part, rest) := by
  obtain ⟨mark, sign, digits⟩ := part
  obtain ⟨hmark, hsign, hne, hdigits⟩ := hpart
  obtain ⟨first, others, rfl⟩ := List.exists_cons_of_ne_nil hne
  have htake := takeWhile_append_eq hrest hdigits
  have hdrop := dropWhile_append_eq hrest hdigits
  have hfirst : first ≠ '+' ∧ first ≠ '-' := by
    have hdigit := hdigits first (List.mem_cons_self ..)
    constructor <;> rintro rfl <;> exact absurd hdigit (by decide)
  rw [List.cons_append] at htake hdrop
  rcases hsign with hsign | hsign | hsign <;> dsimp only at hsign <;> subst hsign
  · have hplus (cs : List Char) : first :: (others ++ rest) = '+' :: cs → False :=
      fun h => hfirst.1 (List.cons.inj h).1
    have hminus (cs : List Char) : first :: (others ++ rest) = '-' :: cs → False :=
      fun h => hfirst.2 (List.cons.inj h).1
    simp only [text, Option.toList_none, List.nil_append, List.cons_append]
    rw [split?.eq_4 _ _ hplus hminus, if_pos hmark, htake, hdrop]
  · simp only [text, Option.toList_some, List.cons_append, List.nil_append, split?, if_pos hmark,
      htake, hdrop]
  · simp only [text, Option.toList_some, List.cons_append, List.nil_append, split?, if_pos hmark,
      htake, hdrop]

theorem split?_eq_none {rest : List Char} (hrest : ∀ c ∈ rest.head?, c ≠ 'e' ∧ c ≠ 'E') :
    split? rest = none := by
  cases rest with
  | nil => rfl
  | cons c rest =>
      have hmark : ¬ (c = 'e' ∨ c = 'E') := not_or.mpr (hrest c rfl)
      unfold split?
      exact if_neg hmark

theorem split?_sound {part : ExponentPart} {cs rest : List Char}
    (h : split? cs = some (part, rest)) : part.WellFormed ∧ cs = part.text ++ rest := by
  revert h
  fun_cases split? cs with
  | case1 => intro h; cases h
  | case2 => intro h; cases h
  | case4 => intro h; cases h
  | case3 mark cs hmark sign behind hsplit hne =>
      intro h
      cases h
      have hsign : (sign = none ∨ sign = some '+' ∨ sign = some '-') ∧
          cs = sign.toList ++ behind := by
        split at hsplit <;> cases hsplit <;> simp
      refine ⟨⟨hmark, hsign.1, hne, fun c hc => List.mem_takeWhile_imp hc⟩, ?_⟩
      simp [text, hsign.2]

end ExponentPart

namespace Numeral

/-! ## Splitting off a numeral -/

/-- A lone zero or digits not led by zero, then at least one digit in each further part. -/
structure WellFormed (n : Numeral) : Prop where
  whole : n.whole = ['0'] ∨ IsDigits n.whole ∧ n.whole.head? ≠ some '0'
  fraction : ∀ digits ∈ n.fraction, IsDigits digits
  exponent : ∀ part ∈ n.exponent, part.WellFormed

/-- No character that continues a numeral stands in front. -/
def Ends (rest : List Char) : Prop :=
  ∀ c ∈ rest.head?, isDigit c = false ∧ c ≠ '.' ∧ c ≠ 'e' ∧ c ≠ 'E'

theorem splitWhole?_append {whole rest : List Char}
    (hwhole : whole = ['0'] ∨ IsDigits whole ∧ whole.head? ≠ some '0')
    (hrest : ∀ c ∈ rest.head?, isDigit c = false) :
    splitWhole? (whole ++ rest) = some (whole, rest) := by
  rcases hwhole with rfl | ⟨⟨hne, hdigits⟩, hzero⟩
  · rfl
  obtain ⟨first, others, rfl⟩ := List.exists_cons_of_ne_nil hne
  have hfirst : first ≠ '0' := by simpa using hzero
  have hdigit := hdigits first (List.mem_cons_self ..)
  have hothers : ∀ c ∈ others, isDigit c = true := fun c hc => hdigits c (List.mem_cons_of_mem _ hc)
  rw [List.cons_append, splitWhole?, if_neg hfirst, if_pos hdigit,
    takeWhile_append_eq hrest hothers, dropWhile_append_eq hrest hothers]

theorem splitFraction?_append {digits rest : List Char} (hdigits : IsDigits digits)
    (hrest : ∀ c ∈ rest.head?, isDigit c = false) :
    splitFraction? ('.' :: digits ++ rest) = some (digits, rest) := by
  obtain ⟨hne, hall⟩ := hdigits
  obtain ⟨first, others, rfl⟩ := List.exists_cons_of_ne_nil hne
  rw [List.cons_append, splitFraction?]
  simp only [takeWhile_append_eq hrest hall, dropWhile_append_eq hrest hall]

theorem splitFraction?_eq_none {rest : List Char} (hrest : ∀ c ∈ rest.head?, c ≠ '.') :
    splitFraction? rest = none := by
  unfold splitFraction?
  split
  · exact absurd rfl (hrest '.' rfl)
  · rfl

def exponentText (n : Numeral) : List Char :=
  match n.exponent with
  | some part => part.text
  | none => []

def fractionText (n : Numeral) : List Char :=
  match n.fraction with
  | some digits => '.' :: digits
  | none => []

theorem text_eq (n : Numeral) :
    n.text = (if n.negative then ['-'] else []) ++ n.whole ++ n.fractionText ++ n.exponentText :=
  rfl

theorem split?_exponentText {n : Numeral} (hn : n.WellFormed) {rest : List Char}
    (hrest : Ends rest) :
    ExponentPart.split? (n.exponentText ++ rest) = n.exponent.map (·, rest) ∧
      ∀ c ∈ (n.exponentText ++ rest).head?, isDigit c = false ∧ c ≠ '.' := by
  cases hexponent : n.exponent with
  | none =>
      simp only [exponentText, hexponent, List.nil_append, Option.map_none]
      exact ⟨ExponentPart.split?_eq_none fun c hc => (hrest c hc).2.2,
        fun c hc => ⟨(hrest c hc).1, (hrest c hc).2.1⟩⟩
  | some part =>
      have hpart := hn.exponent part hexponent
      simp only [exponentText, hexponent, Option.map_some]
      refine ⟨ExponentPart.split?_text hpart fun c hc => (hrest c hc).1, ?_⟩
      intro c hc
      have hmark : part.mark = c := Option.some.inj hc
      subst hmark
      rcases hpart.mark with hmark | hmark <;> rw [hmark] <;> decide

theorem split?_fractionText {n : Numeral} (hn : n.WellFormed) {rest : List Char}
    (hrest : ∀ c ∈ rest.head?, isDigit c = false ∧ c ≠ '.') :
    splitFraction? (n.fractionText ++ rest) = n.fraction.map (·, rest) ∧
      ∀ c ∈ (n.fractionText ++ rest).head?, isDigit c = false := by
  cases hfraction : n.fraction with
  | none =>
      simp only [fractionText, hfraction, List.nil_append, Option.map_none]
      exact ⟨splitFraction?_eq_none fun c hc => (hrest c hc).2, fun c hc => (hrest c hc).1⟩
  | some digits =>
      simp only [fractionText, hfraction, Option.map_some]
      refine ⟨splitFraction?_append (hn.fraction digits hfraction) fun c hc => (hrest c hc).1, ?_⟩
      intro c hc
      have hpoint : '.' = c := Option.some.inj hc
      subst hpoint
      decide

theorem head_whole_ne_minus {n : Numeral} (hn : n.WellFormed) (rest cs : List Char) :
    n.whole ++ rest = '-' :: cs → False := by
  rcases hn.whole with hwhole | ⟨⟨hne, hdigits⟩, -⟩
  · rw [hwhole]
    simp
  · obtain ⟨first, others, hwhole⟩ := List.exists_cons_of_ne_nil hne
    rw [hwhole] at hdigits ⊢
    intro h
    have hfirst := hdigits first (List.mem_cons_self ..)
    rw [(List.cons.inj h).1] at hfirst
    exact absurd hfirst (by decide)

/-- A well-formed numeral is split off whole where nothing continues it. -/
theorem split?_text {n : Numeral} (hn : n.WellFormed) {rest : List Char} (hrest : Ends rest) :
    split? (n.text ++ rest) = some (n, rest) := by
  obtain ⟨hexponent, hpoint⟩ := split?_exponentText hn hrest
  obtain ⟨hfraction, hdigit⟩ := split?_fractionText hn hpoint
  have hwhole := splitWhole?_append hn.whole hdigit
  have hminus := head_whole_ne_minus hn (n.fractionText ++ (n.exponentText ++ rest))
  rw [text_eq]
  simp only [List.append_assoc]
  obtain ⟨negative, whole, fraction, exponent⟩ := n
  dsimp only at hexponent hfraction hwhole hminus ⊢
  cases negative with
  | false =>
      simp only [Bool.false_eq_true, if_false, List.nil_append]
      rw [split?.eq_2 _ hminus, hwhole]
      cases fraction <;> cases exponent <;>
        simp only [fractionText, exponentText, List.nil_append, Option.map_none,
          Option.map_some] at hfraction hexponent ⊢ <;>
        simp only [hfraction, hexponent]
  | true =>
      simp only [if_true, List.cons_append, List.nil_append]
      rw [split?.eq_1, hwhole]
      cases fraction <;> cases exponent <;>
        simp only [fractionText, exponentText, List.nil_append, Option.map_none,
          Option.map_some] at hfraction hexponent ⊢ <;>
        simp only [hfraction, hexponent]

theorem splitWhole?_sound {whole cs rest : List Char}
    (h : splitWhole? cs = some (whole, rest)) :
    (whole = ['0'] ∨ IsDigits whole ∧ whole.head? ≠ some '0') ∧ cs = whole ++ rest := by
  cases cs with
  | nil => cases h
  | cons c cs =>
      rw [splitWhole?] at h
      by_cases hzero : c = '0'
      · rw [if_pos hzero] at h
        cases h
        exact ⟨Or.inl rfl, by rw [hzero]; rfl⟩
      rw [if_neg hzero] at h
      by_cases hdigit : isDigit c = true
      · rw [if_pos hdigit] at h
        cases h
        refine ⟨Or.inr ⟨⟨List.cons_ne_nil _ _, ?_⟩, by simpa using hzero⟩, by simp⟩
        intro d hd
        rcases List.mem_cons.mp hd with rfl | hd
        · exact hdigit
        · exact List.mem_takeWhile_imp hd
      · rw [if_neg hdigit] at h
        cases h

theorem splitFraction?_sound {digits cs rest : List Char}
    (h : splitFraction? cs = some (digits, rest)) :
    IsDigits digits ∧ cs = '.' :: digits ++ rest := by
  unfold splitFraction? at h
  split at h
  · split at h
    · cases h
    · rename_i hne
      cases h
      exact ⟨⟨hne, fun c hc => List.mem_takeWhile_imp hc⟩, by simp⟩
  · cases h

/-- What is split off is a well-formed numeral, and the text goes on behind it. -/
theorem split?_sound {n : Numeral} {cs rest : List Char} (h : split? cs = some (n, rest)) :
    n.WellFormed ∧ cs = n.text ++ rest := by
  revert h
  fun_cases split? cs with
  | case1 => intro h; cases h
  | case2 negative unsigned hsign whole behind hwhole fraction behindFraction hfraction
      exponent behindExponent hexponent =>
      intro h
      cases h
      obtain ⟨hwhole, hunsigned⟩ := splitWhole?_sound hwhole
      have hcs : cs = (if negative then ['-'] else []) ++ unsigned := by
        split at hsign <;> cases hsign <;> rfl
      have hfraction : (∀ digits ∈ fraction, IsDigits digits) ∧
          behind = fraction.elim [] ('.' :: ·) ++ behindFraction := by
        split at hfraction <;> cases hfraction
        · rename_i hsome
          obtain ⟨hdigits, hbehind⟩ := splitFraction?_sound hsome
          exact ⟨by simpa using hdigits, hbehind⟩
        · exact ⟨by simp, rfl⟩
      have hexponent : (∀ part ∈ exponent, part.WellFormed) ∧
          behindFraction = exponent.elim [] ExponentPart.text ++ rest := by
        split at hexponent <;> cases hexponent
        · rename_i hsome
          obtain ⟨hpart, hbehind⟩ := ExponentPart.split?_sound hsome
          exact ⟨by simpa using hpart, hbehind⟩
        · exact ⟨by simp, rfl⟩
      refine ⟨⟨hwhole, hfraction.1, hexponent.1⟩, ?_⟩
      rw [hcs, hunsigned, hfraction.2, hexponent.2]
      cases fraction <;> cases exponent <;> simp [text]

end Numeral

/-! ## Positional text -/

namespace Decimal

def numeral (negative : Bool) (d : Decimal) : Numeral :=
  let digits := d.digitChars
  let places := (-d.exponent).toNat
  if places = 0 then
    ⟨negative, digits ++ List.replicate d.exponent.toNat '0', none, none⟩
  else if places < digits.length then
    ⟨negative, digits.take (digits.length - places), some (digits.drop (digits.length - places)),
      none⟩
  else ⟨negative, ['0'], some (List.replicate (places - digits.length) '0' ++ digits), none⟩

theorem text_numeral (negative : Bool) (d : Decimal) :
    (d.numeral negative).text = (if negative then ['-'] else []) ++ d.positional := by
  simp only [numeral, positional]
  split
  · simp [Numeral.text]
  split <;> simp [Numeral.text]

theorem isDigits_digitChars (d : Decimal) : IsDigits d.digitChars :=
  ⟨Nat.toDigits_ne_nil, fun _ => isDigit_of_mem_toDigits⟩

theorem wellFormed_numeral (negative : Bool) {d : Decimal} (hd : d.digits ≠ 0) :
    (d.numeral negative).WellFormed := by
  obtain ⟨hne, hdigits⟩ := isDigits_digitChars d
  have hzero : d.digitChars.head? ≠ some '0' := head_toDigits_ne_zero hd
  obtain ⟨first, others, hcons⟩ := List.exists_cons_of_ne_nil hne
  have hzeros (k : Nat) : ∀ c ∈ List.replicate k '0', isDigit c = true := by
    intro c hc
    rw [List.eq_of_mem_replicate hc]
    decide
  simp only [numeral]
  split
  · refine ⟨Or.inr ⟨⟨by simp [hne], ?_⟩, by simpa [hcons] using hzero⟩, by simp, by simp⟩
    intro c hc
    exact (List.mem_append.mp hc).elim (hdigits c) (hzeros _ c)
  split
  · rename_i hplaces hshort
    obtain ⟨k, hk⟩ : ∃ k, d.digitChars.length - (-d.exponent).toNat = k + 1 :=
      ⟨d.digitChars.length - (-d.exponent).toNat - 1, by omega⟩
    refine ⟨Or.inr ⟨⟨?_, fun c hc => hdigits c (List.mem_of_mem_take hc)⟩, ?_⟩, ?_, by simp⟩
    · rw [hk, hcons]
      simp
    · rw [hcons] at hzero
      rw [hk, hcons]
      exact hzero
    · rintro _ ⟨⟩
      refine ⟨?_, fun c hc => hdigits c (List.mem_of_mem_drop hc)⟩
      rw [ne_eq, List.drop_eq_nil_iff]
      omega
  · refine ⟨Or.inl rfl, ?_, by simp⟩
    rintro _ ⟨⟩
    refine ⟨by simp [hne], fun c hc => ?_⟩
    exact (List.mem_append.mp hc).elim (hzeros _ c) (hdigits c)

theorem digitsValue_digitChars (d : Decimal) : digitsValue d.digitChars = d.digits := by
  rw [digitsValue_eq, digitChars, Nat.ofDigitChars_ten_toDigits]

theorem toBinary64_numeral (negative : Bool) (d : Decimal) :
    (d.numeral negative).toBinary64 = d.toBinary64 negative := by
  have hvalue := digitsValue_digitChars d
  simp only [numeral]
  by_cases hplaces : (-d.exponent).toNat = 0
  · -- the zeros behind the digits are a power of ten
    rw [if_pos hplaces]
    have hzeros : digitsValue (d.digitChars ++ List.replicate d.exponent.toNat '0') =
        d.digits * 10 ^ d.exponent.toNat := by
      rw [digitsValue_eq, Nat.ofDigitChars_append, Nat.ofDigitChars_replicate_zero,
        ← digitsValue_eq, hvalue, Nat.mul_comm]
    have hexponent : (0 : Int) + d.exponent.toNat = d.exponent := by omega
    have hmove := toBinary64_mul_pow negative d.digits d.exponent.toNat 0
    rw [hexponent] at hmove
    simpa [Numeral.toBinary64, Numeral.magnitude, hzeros] using hmove
  rw [if_neg hplaces]
  by_cases hshort : (-d.exponent).toNat < d.digitChars.length
  · rw [if_pos hshort]
    have hexponent : (0 : Int) -
        (d.digitChars.drop (d.digitChars.length - (-d.exponent).toNat)).length = d.exponent := by
      rw [List.length_drop]
      omega
    simp only [Numeral.toBinary64, Numeral.magnitude, Option.getD_some, List.take_append_drop,
      hvalue, hexponent]
  · rw [if_neg hshort]
    have hzeros (k : Nat) : digitsValue (['0'] ++ (List.replicate k '0' ++ d.digitChars)) =
        d.digits := by
      rw [digitsValue_eq, List.cons_append, List.nil_append, Nat.ofDigitChars_cons,
        Nat.ofDigitChars_append, Nat.ofDigitChars_replicate_zero]
      exact (digitsValue_eq _).symm.trans hvalue
    have hexponent : (0 : Int) - (List.replicate ((-d.exponent).toNat - d.digitChars.length) '0' ++
        d.digitChars).length = d.exponent := by
      rw [List.length_append, List.length_replicate]
      omega
    simp only [Numeral.toBinary64, Numeral.magnitude, Option.getD_some, hzeros, hexponent]

end Decimal

namespace Binary64

/-- The positional text of a finite number is a numeral that reads back as the number. -/
theorem exists_numeral {x : Binary64} (hx : x.isFinite = true) :
    ∃ n : Numeral, n.WellFormed ∧ n.text = x.positional ∧ n.toBinary64 = x := by
  have hnan : x.isNaN = false := by
    simp only [isFinite, bne_iff_ne, ne_eq] at hx
    simp [isNaN, hx]
  cases hzero : x.isZero with
  | true =>
      refine ⟨⟨x.isNegative, ['0'], none, none⟩, ⟨Or.inl rfl, by simp, by simp⟩, ?_, ?_⟩
      · simp [Numeral.text, positional, hnan, hx, hzero]
      · have hword : x.word % 2 ^ 63 = 0 := by simpa [isZero] using hzero
        have hself := ofWord_magnitudeWord hx
        rw [hword] at hself
        simpa [Numeral.toBinary64, Numeral.magnitude, Decimal.toBinary64, digitsValue] using hself
  | false =>
      have habs : (x.withSign false).isZero = false := (isZero_withSign hx).trans hzero
      have hread := Decimal.toBinary64_shortest .up (isFinite_withSign hx) (withSign_withSign hx)
        habs
      have hdigits := Decimal.digits_ne_zero hread habs
      refine ⟨(Decimal.shortest .up (x.withSign false)).numeral x.isNegative,
        Decimal.wellFormed_numeral _ hdigits, ?_, ?_⟩
      · rw [Decimal.text_numeral, positional]
        simp [hnan, hx, hzero]
      · rw [Decimal.toBinary64_numeral]
        exact Decimal.toBinary64_of_withSign hx hread

end Binary64

end RecordQuery
