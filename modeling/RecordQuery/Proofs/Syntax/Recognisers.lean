import RecordQuery.Proofs.Number.PositionalText
import RecordQuery.Syntax.Lexer

/-! # What the recognisers take

Every rule takes at least one character, not more than there are, and never
starts at white space.  A quoted literal is recognised by its own characters,
whatever stands behind it; a regular expression reaches on to a later slash of
its line.
-/

namespace RecordQuery

namespace Recognise

/-- The recogniser takes a beginning of the text, whose first character is one of `first`. -/
def StartsWith (first : Char → Prop) (recognise : List Char → Option Nat) : Prop :=
  ∀ cs n, recognise cs = some n → 0 < n ∧ n ≤ cs.length ∧ ∃ c rest, cs = c :: rest ∧ first c

theorem StartsWith.mono {first first' : Char → Prop} {recognise : List Char → Option Nat}
    (h : StartsWith first recognise) (himp : ∀ c, first c → first' c) :
    StartsWith first' recognise := by
  intro cs n hn
  obtain ⟨hpos, hle, c, rest, hcs, hc⟩ := h cs n hn
  exact ⟨hpos, hle, c, rest, hcs, himp c hc⟩

theorem StartsWith.eq_none {first : Char → Prop} {recognise : List Char → Option Nat}
    (h : StartsWith first recognise) {c : Char} (hc : ¬ first c) (rest : List Char) :
    recognise (c :: rest) = none := by
  refine Option.eq_none_iff_forall_ne_some.mpr fun n hn => ?_
  obtain ⟨-, -, d, others, hcons, hd⟩ := h _ n hn
  cases hcons
  exact hc hd

/-! ## Fixed texts and words -/

theorem exactly_eq_some {word cs : List Char} {n : Nat} (h : exactly word cs = some n) :
    n = word.length ∧ ∃ rest, cs = word ++ rest := by
  unfold exactly at h
  split at h
  · rename_i hprefix
    cases h
    obtain ⟨rest, hrest⟩ := List.isPrefixOf_iff_prefix.mp hprefix
    exact ⟨rfl, rest, hrest.symm⟩
  · cases h

theorem exactly_startsWith (first : Char) (others : List Char) :
    StartsWith (· = first) (exactly (first :: others)) := by
  intro cs n h
  obtain ⟨rfl, rest, rfl⟩ := exactly_eq_some h
  exact ⟨Nat.succ_pos _, by simp, first, _, rfl, rfl⟩

theorem word_eq_some {letters cs : List Char} {n : Nat} (h : word letters cs = some n) :
    n = letters.length ∧ n ≤ cs.length ∧ ∀ letter ∈ letters.head?, ∃ c rest, cs = c :: rest ∧
      spells letter c = true := by
  induction letters generalizing cs n with
  | nil =>
      cases h
      simp
  | cons letter letters ih =>
      cases cs with
      | nil => cases h
      | cons c cs =>
          rw [word] at h
          split at h
          · rename_i hspells
            obtain ⟨m, hm, rfl⟩ := Option.map_eq_some_iff.mp h
            obtain ⟨rfl, hle, -⟩ := ih hm
            refine ⟨rfl, by simpa using hle, fun letter' hletter => ⟨c, cs, rfl, ?_⟩⟩
            cases hletter
            exact hspells
          · cases h

theorem spells_cases {letter c : Char} (h : spells letter c = true) :
    c = letter ∨ c = letter.toLower ∨ c = '\u212A' ∨ c = '\u017F' := by
  simp only [spells, Bool.or_eq_true, beq_iff_eq, Bool.and_eq_true] at h
  obtain ((h | h) | ⟨-, h⟩) | ⟨-, h⟩ := h
  · exact Or.inl h
  · exact Or.inr (Or.inl h)
  · exact Or.inr (Or.inr (Or.inl h))
  · exact Or.inr (Or.inr (Or.inr h))

/-- The first letters of words in capitals, in either case and in their third forms. -/
def IsInitial (words : List String) (c : Char) : Prop :=
  ∃ w ∈ words, ∃ letter ∈ w.toList.head?, spells letter c = true

theorem anyWord_startsWith {words : List String} (hwords : ∀ w ∈ words, w.toList ≠ []) :
    StartsWith (IsInitial words) (anyWord words) := by
  intro cs n h
  obtain ⟨w, hw, hword⟩ := List.exists_of_findSome?_eq_some h
  obtain ⟨letter, letters, hletters⟩ := List.exists_cons_of_ne_nil (hwords w hw)
  obtain ⟨rfl, hle, hhead⟩ := word_eq_some hword
  obtain ⟨c, rest, hcs, hspells⟩ := hhead letter (by rw [hletters]; rfl)
  exact ⟨List.length_pos_iff.mpr (hwords w hw), hle, c, rest, hcs, w, hw, letter,
    by rw [hletters]; rfl, hspells⟩

/-! ## Numerals and identifiers -/

theorem head_text {m : Numeral} (hm : m.WellFormed) :
    ∃ c others, m.text = c :: others ∧ (c = '-' ∨ isDigit c = true) := by
  obtain ⟨first, others, hwhole, hfirst⟩ : ∃ first others, m.whole = first :: others ∧
      isDigit first = true := by
    rcases hm.whole with hwhole | ⟨⟨hne, hdigits⟩, -⟩
    · exact ⟨_, _, hwhole, by decide⟩
    · obtain ⟨first, others, hwhole⟩ := List.exists_cons_of_ne_nil hne
      exact ⟨first, others, hwhole, hdigits first (by rw [hwhole]; exact List.mem_cons_self ..)⟩
  rw [Numeral.text_eq, hwhole]
  cases m.negative with
  | true => exact ⟨'-', _, rfl, Or.inl rfl⟩
  | false => exact ⟨first, _, rfl, Or.inr hfirst⟩

theorem numeral_startsWith : StartsWith (fun c => c = '-' ∨ isDigit c = true) numeral := by
  intro cs n h
  obtain ⟨⟨m, rest⟩, hsplit, rfl⟩ := Option.map_eq_some_iff.mp h
  obtain ⟨hm, rfl⟩ := Numeral.split?_sound hsplit
  obtain ⟨c, others, htext, hc⟩ := head_text hm
  simp only [htext, List.cons_append, List.length_cons, List.length_append]
  exact ⟨by omega, by omega, c, _, rfl, hc⟩

theorem isIdentifierStart_iff {c : Char} : isIdentifierStart c = true ↔
    (65 ≤ c.toNat ∧ c.toNat ≤ 90 ∨ 97 ≤ c.toNat ∧ c.toNat ≤ 122) ∨ c = '_' := by
  simp only [isIdentifierStart, Char.isAlpha, Char.isUpper, Char.isLower, Bool.or_eq_true,
    Bool.and_eq_true, decide_eq_true_eq, beq_iff_eq, ge_iff_le, UInt32.le_iff_toNat_le]
  exact Iff.rfl

theorem isWhiteSpace_of_isIdentifierStart {c : Char} (h : isIdentifierStart c = true) :
    Text.isWhiteSpace c = false := by
  rcases isIdentifierStart_iff.mp h with hletter | rfl
  · exact isWhiteSpace_eq_false (by omega) (by omega)
  · decide

theorem identifier_startsWith : StartsWith (isIdentifierStart · = true) identifier := by
  intro cs n h
  cases cs with
  | nil => cases h
  | cons c cs =>
      rw [identifier] at h
      split at h
      · rename_i hstart
        cases h
        have hle : (cs.takeWhile isIdentifierChar).length ≤ cs.length :=
          (List.takeWhile_prefix isIdentifierChar).length_le
        exact ⟨Nat.succ_pos _, Nat.succ_le_succ hle, c, cs, rfl, hstart⟩
      · cases h

/-! ## Quoted literals -/

section

variable {delimiter : Char} {escapable cs : List Char} {n : Nat}

theorem quotedRest_bounds (h : quotedRest delimiter escapable cs = some n) :
    0 < n ∧ n ≤ cs.length := by
  revert h
  fun_induction quotedRest delimiter escapable cs generalizing n with
  | case1 | case4 | case6 | case7 => intro h; cases h
  | case2 => intro h; cases h; simp
  | case3 _ _ _ _ _ _ _ ih | case5 _ _ _ _ _ ih | case8 _ _ _ _ ih =>
      intro h
      obtain ⟨m, hm, rfl⟩ := Option.map_eq_some_iff.mp h
      have hbounds := ih hm
      simp only [List.length_cons]
      omega

theorem quotedRest_delimiter : quotedRest delimiter escapable (delimiter :: cs) = some 1 := by
  unfold quotedRest
  rw [if_pos rfl]

theorem quotedRest_plain {c : Char} (hdelimiter : c ≠ delimiter) (hbackslash : c ≠ '\\') :
    quotedRest delimiter escapable (c :: cs) =
      (quotedRest delimiter escapable cs).map (· + 1) := by
  conv => lhs; unfold quotedRest
  rw [if_neg hdelimiter, if_neg hbackslash]

theorem quotedRest_escape {e : Char} (hdelimiter : '\\' ≠ delimiter) (hu : e ≠ 'u')
    (he : e ∈ escapable) : quotedRest delimiter escapable ('\\' :: e :: cs) =
      (quotedRest delimiter escapable cs).map (· + 2) := by
  conv => lhs; unfold quotedRest
  rw [if_neg hdelimiter, if_pos rfl]
  split
  · rename_i heq
    cases heq
    exact absurd rfl hu
  · rename_i heq
    cases heq
    exact if_pos (by simpa using he)
  · rename_i heq
    cases heq

theorem quotedRest_unit {a b c d : Char} (hdelimiter : '\\' ≠ delimiter)
    (hunit : (Text.hexUnit? a b c d).isSome = true) :
    quotedRest delimiter escapable ('\\' :: 'u' :: a :: b :: c :: d :: cs) =
      (quotedRest delimiter escapable cs).map (· + 6) := by
  conv => lhs; unfold quotedRest
  rw [if_neg hdelimiter, if_pos rfl]
  exact if_pos hunit

/-- The rest of a literal is found again in front of any other text. -/
theorem quotedRest_take_append (hu : 'u' ∉ escapable)
    (h : quotedRest delimiter escapable cs = some n) (after : List Char) :
    quotedRest delimiter escapable (cs.take n ++ after) = some n := by
  revert h
  fun_induction quotedRest delimiter escapable cs generalizing n with
  | case1 => intro h; cases h
  | case2 =>
      intro h
      cases h
      exact quotedRest_delimiter
  | case3 a b c d cs hunit hdelimiter ih =>
      intro h
      obtain ⟨m, hm, rfl⟩ := Option.map_eq_some_iff.mp h
      simp only [List.take_succ_cons, List.cons_append]
      rw [quotedRest_unit hdelimiter hunit, ih hm]
      rfl
  | case4 => intro h; cases h
  | case5 e cs hshape hescape hdelimiter ih =>
      intro h
      obtain ⟨m, hm, rfl⟩ := Option.map_eq_some_iff.mp h
      have hmem : e ∈ escapable := by simpa using hescape
      have hne : e ≠ 'u' := fun heq => hu (heq ▸ hmem)
      simp only [List.take_succ_cons, List.cons_append]
      rw [quotedRest_escape hdelimiter hne hmem, ih hm]
      rfl
  | case6 => intro h; cases h
  | case7 => intro h; cases h
  | case8 c cs hdelimiter hbackslash ih =>
      intro h
      obtain ⟨m, hm, rfl⟩ := Option.map_eq_some_iff.mp h
      simp only [List.take_succ_cons, List.cons_append]
      rw [quotedRest_plain hdelimiter hbackslash, ih hm]
      rfl

theorem quoted_eq_some (h : quoted delimiter escapable cs = some n) :
    ∃ rest m, cs = delimiter :: rest ∧ quotedRest delimiter escapable rest = some m ∧
      n = m + 1 := by
  cases cs with
  | nil => cases h
  | cons c rest =>
      rw [quoted] at h
      split at h
      · rename_i hc
        obtain ⟨m, hm, rfl⟩ := Option.map_eq_some_iff.mp h
        exact ⟨rest, m, by rw [hc], hm, rfl⟩
      · cases h

theorem quoted_startsWith : StartsWith (· = delimiter) (quoted delimiter escapable) := by
  intro cs n h
  obtain ⟨rest, m, rfl, hm, rfl⟩ := quoted_eq_some h
  exact ⟨Nat.succ_pos _, Nat.succ_le_succ (quotedRest_bounds hm).2, delimiter, rest, rfl, rfl⟩

theorem quoted_take_append (hu : 'u' ∉ escapable) (h : quoted delimiter escapable cs = some n)
    (after : List Char) : quoted delimiter escapable (cs.take n ++ after) = some n := by
  obtain ⟨rest, m, rfl, hm, rfl⟩ := quoted_eq_some h
  simp [quoted, quotedRest_take_append hu hm after]

end

theorem string_eq_some {cs : List Char} {n : Nat} (h : string cs = some n) :
    quoted '"' stringEscapes cs = some n ∨
      quoted '"' stringEscapes cs = none ∧ quoted '\'' stringEscapes cs = some n := by
  unfold string at h
  cases hdouble : quoted '"' stringEscapes cs with
  | none =>
      rw [hdouble] at h
      exact Or.inr ⟨rfl, h⟩
  | some m =>
      rw [hdouble] at h
      exact Or.inl h

theorem string_startsWith : StartsWith (fun c => c = '"' ∨ c = '\'') string := by
  intro cs n h
  rcases string_eq_some h with h | ⟨-, h⟩
  · exact quoted_startsWith.mono (fun _ => Or.inl) cs n h
  · exact quoted_startsWith.mono (fun _ => Or.inr) cs n h

theorem string_take_append {cs : List Char} {n : Nat} (h : string cs = some n)
    (after : List Char) : string (cs.take n ++ after) = some n := by
  unfold string
  rcases string_eq_some h with h | ⟨-, h⟩
  · rw [quoted_take_append (by decide) h after]
    rfl
  · obtain ⟨rest, m, rfl, hm, rfl⟩ := quoted_eq_some h
    have hnone : quoted '"' stringEscapes (('\'' :: rest).take (m + 1) ++ after) = none := rfl
    rw [hnone]
    exact quoted_take_append (by decide) h after

theorem key_startsWith : StartsWith (· = '\x60') key := quoted_startsWith

/-! ## Regular expressions -/

section

variable {before : Char} {cs : List Char} {n : Nat}

theorem lastSlash_bounds (h : lastSlash before cs = some n) : 0 < n ∧ n ≤ cs.length := by
  induction cs generalizing before n with
  | nil => cases h
  | cons c cs ih =>
      rw [lastSlash] at h
      split at h
      · cases h
      split at h
      · rename_i m hm
        cases h
        exact ⟨Nat.succ_pos _, Nat.succ_le_succ (ih hm).2⟩
      · split at h
        · cases h
          simp
        · cases h

/-- Behind its last slash a line is searched for a further one. -/
theorem lastSlash_take_append (h : lastSlash before cs = some n) (after : List Char) :
    lastSlash before (cs.take n ++ after) = some (n + (lastSlash '/' after).getD 0) := by
  induction cs generalizing before n with
  | nil => cases h
  | cons c cs ih =>
      rw [lastSlash] at h
      split at h
      · cases h
      rename_i hline
      split at h
      · rename_i m hm
        cases h
        rw [List.take_succ_cons, List.cons_append, lastSlash, if_neg hline, ih hm]
        simp only [Option.some.injEq]
        omega
      · split at h
        · rename_i hslash
          cases h
          obtain ⟨rfl, hbefore⟩ := hslash
          rw [List.take_succ_cons, List.take_zero, List.cons_append, List.nil_append, lastSlash,
            if_neg hline]
          cases lastSlash '/' after with
          | none => simp [hbefore]
          | some m =>
              simp only [Option.getD_some, Option.some.injEq]
              omega
        · cases h

/-- A slash of the line, with `before` in front of it, that does not stand behind a backslash. -/
def SlashAhead (before : Char) (cs : List Char) : Prop :=
  ∃ line rest, cs = line ++ '/' :: rest ∧ '\n' ∉ line ∧ (before :: line).getLast? ≠ some '\\'

theorem slashAhead_cons {c : Char} : SlashAhead before (c :: cs) ↔
    c = '/' ∧ before ≠ '\\' ∨ c ≠ '\n' ∧ SlashAhead c cs := by
  constructor
  · rintro ⟨line, rest, hcs, hline, hlast⟩
    cases line with
    | nil =>
        cases hcs
        exact Or.inl ⟨rfl, by simpa using hlast⟩
    | cons d line =>
        cases hcs
        rw [List.mem_cons, not_or] at hline
        exact Or.inr ⟨Ne.symm hline.1, line, rest, rfl, hline.2, by simpa using hlast⟩
  · rintro (⟨rfl, hbefore⟩ | ⟨hc, line, rest, rfl, hline, hlast⟩)
    · exact ⟨[], cs, rfl, List.not_mem_nil, by simpa using hbefore⟩
    · refine ⟨c :: line, rest, rfl, ?_, by simpa using hlast⟩
      rw [List.mem_cons, not_or]
      exact ⟨Ne.symm hc, hline⟩

theorem lastSlash_isSome_iff : (lastSlash before cs).isSome = true ↔ SlashAhead before cs := by
  induction cs generalizing before with
  | nil => simp [lastSlash, SlashAhead]
  | cons c cs ih =>
      rw [lastSlash, slashAhead_cons, ← ih]
      split
      · rename_i hline
        simp [hline]
      · rename_i hline
        cases lastSlash c cs with
        | some m => simp [hline]
        | none => simp

theorem regexp_eq_some (h : regexp cs = some n) : ∃ c rest, cs = '/' :: c :: rest ∧ c ≠ '\n' ∧
    (lastSlash c rest = none ∧ c = '/' ∧ n = 2 ∨
      ∃ m, lastSlash c rest = some m ∧ n = m + 2) := by
  unfold regexp at h
  split at h
  · rename_i c rest
    split at h
    · cases h
    rename_i hline
    refine ⟨c, rest, rfl, hline, ?_⟩
    split at h
    · rename_i m hm
      cases h
      exact Or.inr ⟨m, hm, rfl⟩
    · rename_i hnone
      split at h
      · rename_i hslash
        cases h
        exact Or.inl ⟨hnone, hslash, rfl⟩
      · cases h
  · cases h

theorem regexp_startsWith : StartsWith (· = '/') regexp := by
  intro cs n h
  obtain ⟨c, rest, rfl, -, ⟨-, -, rfl⟩ | ⟨m, hm, rfl⟩⟩ := regexp_eq_some h
  · exact ⟨by decide, by simp, _, _, rfl, rfl⟩
  · have hbounds := lastSlash_bounds hm
    simp only [List.length_cons]
    exact ⟨by omega, by omega, _, _, rfl, rfl⟩

/-- A regular expression in front of another text reaches on to its last slash, if it has one. -/
theorem regexp_take_append (h : regexp cs = some n) (after : List Char) :
    regexp (cs.take n ++ after) = some (n + (lastSlash '/' after).getD 0) := by
  obtain ⟨c, rest, rfl, hline, ⟨hnone, rfl, rfl⟩ | ⟨m, hm, rfl⟩⟩ := regexp_eq_some h
  · rw [List.take_succ_cons, List.take_succ_cons, List.take_zero]
    simp only [List.cons_append, List.nil_append, regexp, if_neg hline]
    cases lastSlash '/' after with
    | none => rfl
    | some m =>
        simp only [Option.getD_some, Option.some.injEq]
        omega
  · rw [List.take_succ_cons, List.take_succ_cons]
    simp only [List.cons_append, regexp, if_neg hline, lastSlash_take_append hm after,
      Option.some.injEq]
    omega

end

end Recognise

end RecordQuery
