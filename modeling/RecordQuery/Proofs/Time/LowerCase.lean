import RecordQuery.Proofs.Text.LowerCase
import RecordQuery.Time.Timestamp

/-! # Points in time in lower case

The text of a point in time consists of characters of a single byte, and its
letters may be small.  So it denotes the same in lower case.
-/

namespace RecordQuery

namespace Timestamp

open Text (Lowered)

variable {cs es rest : List Char}

/-! ## Digits and marks -/

theorem digits?_eq_some {count n : Nat} :
    digits? count cs = some (n, rest) ↔
      ((cs.take count).length = count ∧ (cs.take count).all isDigit = true) ∧
        digitsValue (cs.take count) = n ∧ cs.drop count = rest := by
  simp only [digits?, Option.ite_none_right_eq_some, Option.some.injEq, Prod.mk.injEq]

theorem lowered_digits? {count n : Nat} (h : Lowered cs es)
    (hread : digits? count cs = some (n, rest)) :
    ∃ rest', digits? count es = some (n, rest') ∧ Lowered rest rest' := by
  obtain ⟨hdigits, rfl, rfl⟩ := digits?_eq_some.mp hread
  rw [← List.take_append_drop count cs] at h
  obtain ⟨rest', rfl, hrest⟩ := h.digits (List.all_eq_true.mp hdigits.2)
  have htake : (cs.take count ++ rest').take count = cs.take count := List.take_left' hdigits.1
  refine ⟨rest', digits?_eq_some.mpr ?_, hrest⟩
  rw [htake, List.drop_left' hdigits.1]
  exact ⟨hdigits, rfl, rfl⟩

theorem mark?_eq_some {c : Char} : mark? c cs = some rest ↔ cs = c :: rest := by
  cases cs with
  | nil => simp [mark?]
  | cons d cs =>
      rw [mark?]
      split
      · rename_i hd
        simp [hd]
      · rename_i hd
        simp [hd]

theorem lowered_mark? {c : Char} (hc : c.toNat < 65) (h : Lowered cs es)
    (hread : mark? c cs = some rest) : ∃ rest', mark? c es = some rest' ∧ Lowered rest rest' := by
  obtain rfl := mark?_eq_some.mp hread
  obtain ⟨rest', rfl, hrest⟩ := h.cons_same hc
  exact ⟨rest', mark?_eq_some.mpr rfl, hrest⟩

theorem utf8Size_eq_one_iff (c : Char) : c.utf8Size = 1 ↔ c.toNat < 128 := by
  have hone : c.utf8Size = 1 ↔ c.val ≤ 127 := Char.utf8Size_eq_one_iff
  rw [hone, UInt32.le_iff_toNat_le, Nat.lt_succ_iff.symm]
  rfl

theorem separator?_eq_some :
    separator? cs = some rest ↔ ∃ c, cs = c :: rest ∧ c.toNat < 128 := by
  cases cs with
  | nil => simp [separator?]
  | cons c cs =>
      rw [separator?]
      split
      · rename_i hc
        rw [utf8Size_eq_one_iff] at hc
        simp [hc]
      · rename_i hc
        rw [utf8Size_eq_one_iff] at hc
        simp [hc]

theorem lowered_separator? (h : Lowered cs es) (hread : separator? cs = some rest) :
    ∃ rest', separator? es = some rest' ∧ Lowered rest rest' := by
  obtain ⟨c, rfl, hc⟩ := separator?_eq_some.mp hread
  obtain ⟨rest', rfl, hrest⟩ := h.cons hc
  refine ⟨rest', separator?_eq_some.mpr ⟨_, rfl, ?_⟩, hrest⟩
  rw [Text.shift_ascii hc]
  split <;> omega

/-! ## Offsets -/

/-- An offset of hours and minutes, `sign` being what it begins with. -/
theorem offset?_signed {sign : Char} (hsign : sign = '+' ∨ sign = '-') {offset : Int} :
    offset? (sign :: cs) = some offset ↔
      ∃ hours cs₁, digits? 2 cs = some (hours, cs₁) ∧
        ∃ cs₂, mark? ':' cs₁ = some cs₂ ∧ ∃ minutes, digits? 2 cs₂ = some (minutes, []) ∧
          (hours ≤ 23 ∧ minutes ≤ 59) ∧
            (if sign = '+' then ((hours : Int) * 60 + minutes) * 60
              else -(((hours : Int) * 60 + minutes) * 60)) = offset := by
  rcases hsign with rfl | rfl <;> simp [offset?, Option.bind_eq_some_iff]

/-- The characters with which the text of an offset begins. -/
theorem offset?_cases {offset : Int} (h : offset? cs = some offset) :
    (cs = ['Z'] ∨ cs = ['z']) ∧ offset = 0 ∨
      ∃ sign cs', cs = sign :: cs' ∧ (sign = '+' ∨ sign = '-') := by
  unfold offset? at h
  split at h
  · cases h
    exact .inl ⟨.inl rfl, rfl⟩
  · cases h
    exact .inl ⟨.inr rfl, rfl⟩
  · rename_i sign cs _ _
    refine .inr ⟨sign, cs, rfl, ?_⟩
    simp only [Option.bind_eq_bind, Option.bind_eq_some_iff] at h
    obtain ⟨_, -, _, -, _, -, h⟩ := h
    split at h
    · split at h
      · exact .inl rfl
      · exact .inr rfl
      · cases h
    · cases h
  · cases h

theorem head_of_offset? {offset : Int} (h : offset? cs = some offset) :
    ∀ c ∈ cs.head?, c.toNat < 128 := by
  rcases offset?_cases h with ⟨rfl | rfl, -⟩ | ⟨sign, cs, rfl, rfl | rfl⟩ <;> simp

theorem lowered_offset? {offset : Int} (h : Lowered cs es) (hread : offset? cs = some offset) :
    offset? es = some offset := by
  rcases offset?_cases hread with ⟨rfl | rfl, rfl⟩ | ⟨sign, cs, rfl, hsign⟩
  · obtain ⟨es, rfl, hes⟩ := h.cons (by decide)
    rw [hes.eq_nil]
    rfl
  · obtain ⟨es, rfl, hes⟩ := h.cons (by decide)
    rw [hes.eq_nil]
    rfl
  · obtain ⟨es, rfl, hes⟩ := h.cons_same (by rcases hsign with rfl | rfl <;> decide)
    obtain ⟨hours, cs₁, hhours, cs₂, hmark, minutes, hminutes, hrest⟩ :=
      (offset?_signed hsign).mp hread
    obtain ⟨es₁, hhours', h₁⟩ := lowered_digits? hes hhours
    obtain ⟨es₂, hmark', h₂⟩ := lowered_mark? (by decide) h₁ hmark
    obtain ⟨es₃, hminutes', h₃⟩ := lowered_digits? h₂ hminutes
    rw [h₃.eq_nil] at hminutes'
    exact (offset?_signed hsign).mpr
      ⟨hours, es₁, hhours', es₂, hmark', minutes, hminutes', hrest⟩

/-! ## Fractions -/

theorem fraction?_point {ds : List Char} (hds : ∀ c ∈ ds, isDigit c = true) (hne : ds ≠ [])
    (hrest : ∀ c ∈ rest.head?, isDigit c = false) :
    fraction? ('.' :: (ds ++ rest)) =
      some (digitsValue (ds.take 9) * 10 ^ (9 - (ds.take 9).length), rest) := by
  rw [fraction?, takeWhile_append_eq hrest hds, dropWhile_append_eq hrest hds]
  split
  · exact absurd rfl hne
  · rfl

theorem fraction?_of_ne (h : cs.head? ≠ some '.') : fraction? cs = some (0, cs) := by
  unfold fraction?
  split
  · exact absurd rfl h
  · rfl

/-- The text of a fraction is empty, or it is a point with digits. -/
theorem fraction?_cases {n : Nat} (h : fraction? cs = some (n, rest)) :
    (∃ ds, cs = '.' :: (ds ++ rest) ∧ (∀ c ∈ ds, isDigit c = true) ∧ ds ≠ [] ∧
      ∀ c ∈ rest.head?, isDigit c = false) ∨
    cs.head? ≠ some '.' ∧ rest = cs := by
  by_cases hpoint : cs.head? = some '.'
  · obtain ⟨cs, rfl⟩ : ∃ others, cs = '.' :: others := by
      cases cs with
      | nil => cases hpoint
      | cons c cs => exact ⟨cs, by simp_all⟩
    rw [fraction?] at h
    split at h
    · cases h
    · rename_i hne
      cases h
      refine .inl ⟨cs.takeWhile isDigit, ?_, fun c hc => List.mem_takeWhile_imp hc, hne, ?_⟩
      · rw [List.takeWhile_append_dropWhile]
      · intro c hc
        have hhead := List.head?_dropWhile_not isDigit cs
        rw [hc] at hhead
        exact hhead
  · rw [fraction?_of_ne hpoint] at h
    cases h
    exact .inr ⟨hpoint, rfl⟩

/-- A fraction is read the same if what is behind it begins with a single byte. -/
theorem lowered_fraction? {n : Nat} (h : Lowered cs es)
    (hread : fraction? cs = some (n, rest)) (hrest : ∀ c ∈ rest.head?, c.toNat < 128) :
    ∃ rest', fraction? es = some (n, rest') ∧ Lowered rest rest' := by
  rcases fraction?_cases hread with ⟨ds, rfl, hds, hne, hend⟩ | ⟨hpoint, rfl⟩
  · obtain ⟨es, rfl, hes⟩ := h.cons_same (by decide)
    obtain ⟨rest', rfl, hlowered⟩ := hes.digits hds
    refine ⟨rest', ?_, hlowered⟩
    have hend' : ∀ c ∈ rest'.head?, isDigit c = false := by
      intro c hc
      rw [hlowered.head?_eq hrest] at hc
      obtain ⟨d, hd, rfl⟩ := Option.map_eq_some_iff.mp hc
      rw [Text.isDigit_shift (hrest d hd)]
      exact hend d hd
    rw [fraction?_point hds hne hend, Option.some_inj] at hread
    cases hread
    exact fraction?_point hds hne hend'
  · cases Option.some_inj.mp ((fraction?_of_ne hpoint).symm.trans hread)
    refine ⟨es, fraction?_of_ne fun hes => ?_, h⟩
    rw [h.head?_eq hrest] at hes
    obtain ⟨c, hc, hshift⟩ := Option.map_eq_some_iff.mp hes
    exact hpoint (hc.trans (congrArg some ((Text.shift_eq_point_iff (hrest c hc)).mp hshift)))

/-! ## Whole texts -/

section

variable {α β : Type} {b : β}

/-- A result carries over to other steps if each of the first steps does. -/
theorem bind_transfer {x x' : Option α} {f f' : α → Option β} (h : (x >>= f) = some b)
    (hx : ∀ a, x = some a → f a = some b → ∃ a', x' = some a' ∧ f' a' = some b) :
    (x' >>= f') = some b := by
  obtain ⟨a, ha, hf⟩ := Option.bind_eq_some_iff.mp h
  obtain ⟨a', ha', hf'⟩ := hx a ha hf
  exact Option.bind_eq_some_iff.mpr ⟨a', ha', hf'⟩

theorem lowered_bind_digits? {count : Nat} {k k' : Nat × List Char → Option β} (h : Lowered cs es)
    (hread : (digits? count cs >>= k) = some b)
    (hk : ∀ n rest rest', Lowered rest rest' → k (n, rest) = some b → k' (n, rest') = some b) :
    (digits? count es >>= k') = some b := by
  refine bind_transfer hread fun (n, rest) hdigits hrest => ?_
  obtain ⟨rest', hdigits', hlowered⟩ := lowered_digits? h hdigits
  exact ⟨(n, rest'), hdigits', hk n rest rest' hlowered hrest⟩

theorem lowered_bind_mark? {c : Char} {k k' : List Char → Option β} (hc : c.toNat < 65)
    (h : Lowered cs es) (hread : (mark? c cs >>= k) = some b)
    (hk : ∀ rest rest', Lowered rest rest' → k rest = some b → k' rest' = some b) :
    (mark? c es >>= k') = some b := by
  refine bind_transfer hread fun rest hmark hrest => ?_
  obtain ⟨rest', hmark', hlowered⟩ := lowered_mark? hc h hmark
  exact ⟨rest', hmark', hk rest rest' hlowered hrest⟩

end

/-- A text that denotes a point in time denotes it in lower case, too. -/
theorem ofText?_toLower {text : String} {t : Timestamp} (h : ofText? text = some t) :
    ofText? (Text.toLower text) = some t := by
  have hlowered : Lowered text.toList (Text.toLower text).toList := ⟨[], by simp [Text.toLower]⟩
  unfold ofText? at h ⊢
  refine lowered_bind_digits? hlowered h fun year cs₁ es₁ h₁ h => ?_
  refine lowered_bind_mark? (by decide) h₁ h fun cs₂ es₂ h₂ h => ?_
  refine lowered_bind_digits? h₂ h fun month cs₃ es₃ h₃ h => ?_
  refine lowered_bind_mark? (by decide) h₃ h fun cs₄ es₄ h₄ h => ?_
  refine lowered_bind_digits? h₄ h fun day cs₅ es₅ h₅ h => ?_
  refine bind_transfer h fun cs₆ hseparator h => ?_
  obtain ⟨es₆, hseparator', h₆⟩ := lowered_separator? h₅ hseparator
  refine ⟨es₆, hseparator', ?_⟩
  refine lowered_bind_digits? h₆ h fun hour cs₇ es₇ h₇ h => ?_
  refine lowered_bind_mark? (by decide) h₇ h fun cs₈ es₈ h₈ h => ?_
  refine lowered_bind_digits? h₈ h fun minute cs₉ es₉ h₉ h => ?_
  refine lowered_bind_mark? (by decide) h₉ h fun cs₁₀ es₁₀ h₁₀ h => ?_
  refine lowered_bind_digits? h₁₀ h fun second cs₁₁ es₁₁ h₁₁ h => ?_
  refine bind_transfer h fun (fraction, cs₁₂) hfraction h => ?_
  -- the offset behind the fraction tells that no digit follows it in lower case either
  obtain ⟨offset, hoffset, -⟩ := Option.bind_eq_some_iff.mp h
  obtain ⟨es₁₂, hfraction', h₁₂⟩ := lowered_fraction? h₁₁ hfraction (head_of_offset? hoffset)
  refine ⟨(fraction, es₁₂), hfraction', ?_⟩
  refine bind_transfer h fun offset hoffset h => ?_
  exact ⟨offset, lowered_offset? h₁₂ hoffset, h⟩

end Timestamp

end RecordQuery
