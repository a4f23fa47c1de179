import RecordQuery.Proofs.Syntax.ClosingSlash
import RecordQuery.Proofs.Syntax.Escaping

/-! # Escapes in any text

Also a text that the lexer would refuse is decoded.  Each escape is replaced by its
character and the rest is kept, except behind a `\u` without four digits: there the
digits are lost, and so is the character that stands in the place of the next one.
-/

namespace RecordQuery

namespace Recognise

section

variable {c d : Char} {cs : List Char}

theorem backslashes_le (cs : List Char) : backslashes cs ≤ cs.length :=
  (List.takeWhile_sublist _).length_le.trans_eq List.length_reverse

theorem backslashes_cons : backslashes (c :: cs) =
    if backslashes cs = cs.length ∧ c = '\\' then cs.length + 1 else backslashes cs := by
  rw [backslashes, backslashes, List.reverse_cons, List.takeWhile_append, List.length_reverse]
  by_cases hall : (cs.reverse.takeWhile (· = '\\')).length = cs.length
  · by_cases hc : c = '\\' <;> simp [hall, hc]
  · rw [if_neg hall, if_neg fun h => hall h.1]

theorem unescaped_cons (hc : c ≠ '\\') : Unescaped (c :: cs) ↔ Unescaped cs := by
  rw [Unescaped, Unescaped, backslashes_cons, if_neg fun h => hc h.2]

/-- A backslash and the character that it escapes make no difference to what stands behind. -/
theorem unescaped_cons_cons : Unescaped ('\\' :: d :: cs) ↔ Unescaped cs := by
  have hle := backslashes_le cs
  rw [Unescaped, Unescaped, backslashes_cons, backslashes_cons, List.length_cons]
  split_ifs with hboth hlonger hlonger
  · rw [hboth.1, Nat.even_add_one, Nat.even_add_one, not_not]
  · exact absurd ⟨rfl, rfl⟩ hlonger
  · omega
  · rfl

end

end Recognise

namespace Literal

/-! ## Items of a text -/

def escapeMarks : List (Char × Char) :=
  ('\x60', '\x60') :: stringMarks

def IsHex (c : Char) : Prop :=
  ∃ n < 16, IsHexDigit c n

/-- The text starts with the four digits of a UTF-16 unit. -/
def UnitAhead (cs : List Char) : Prop :=
  ∃ digits unit rest, IsHexUnit digits unit ∧ cs = digits ++ rest

/-- The text starts with an escape for the second half of a surrogate pair. -/
def LowAhead (cs : List Char) : Prop :=
  ∃ digits unit rest, IsHexUnit digits unit ∧ Text.isLowSurrogate unit = true ∧
    cs = '\\' :: 'u' :: (digits ++ rest)

/-- A backslash in front of the text begins an escape. -/
def Escapes (cs : List Char) : Prop :=
  (∃ entry ∈ escapeMarks, cs.head? = some entry.1) ∨ ∃ rest, cs = 'u' :: rest ∧ UnitAhead rest

/-- A piece of a text, the character that it stands for, and the text behind. -/
inductive Item : List Char → Char → List Char → Prop
  /-- A character as it is, unless it is a backslash, or written by an escape. -/
  | spelled {piece rest : List Char} {c : Char} (h : Spelling '\\' escapeMarks c piece) :
      Item piece c rest
  /-- Half of a surrogate pair without the other half. -/
  | half {digits rest : List Char} {unit : Nat} (hdigits : IsHexUnit digits unit)
      (hhalf : Text.isLowSurrogate unit = true ∨
        Text.isHighSurrogate unit = true ∧ ¬ LowAhead rest) :
      Item ('\\' :: 'u' :: digits) replacement rest
  /-- A backslash that begins no escape. -/
  | backslash {rest : List Char} (h : ¬ Escapes rest) : Item ['\\'] '\\' rest

/-- The second text is the first one with each item replaced by its character. -/
inductive Replaced : List Char → List Char → Prop
  | nil : Replaced [] []
  | cons {piece rest text : List Char} {c : Char} (h : Item piece c rest)
      (hrest : Replaced rest text) : Replaced (piece ++ rest) (c :: text)

/-- What `\u` loses in front of the rest of a text. -/
inductive Swallowed : List Char → List Char → Prop
  /-- Fewer than four digits, and the character behind them. -/
  | stopped {digits rest : List Char} {stop : Char} (hcount : digits.length < 4)
      (hdigits : ∀ d ∈ digits, IsHex d) (hstop : ¬ IsHex stop) :
      Swallowed (digits ++ [stop]) rest
  /-- Fewer than four digits, with nothing behind them. -/
  | ended {digits : List Char} (hcount : digits.length < 4) (hdigits : ∀ d ∈ digits, IsHex d) :
      Swallowed digits []

/-- What the items of a text are decoded to, and the characters that are lost on the way. -/
inductive Decoded : List Char → List Char → List Char → Prop
  | nil : Decoded [] [] []
  /-- Any item but the backslash of a `\u` that is no escape. -/
  | item {piece rest text lost : List Char} {c : Char} (h : Item piece c rest)
      (hunit : piece = ['\\'] → rest.head? ≠ some 'u') (hrest : Decoded rest text lost) :
      Decoded (piece ++ rest) (c :: text) lost
  | unit {dropped rest text lost : List Char} (h : Swallowed dropped rest)
      (hrest : Decoded rest text lost) :
      Decoded ('\\' :: 'u' :: (dropped ++ rest)) ('\\' :: 'u' :: text) (dropped ++ lost)

/-- Behind each `\u` that is not escaped stand four digits, or nothing. -/
def UnitsWhole (cs : List Char) : Prop :=
  ∀ before rest, cs = before ++ '\\' :: 'u' :: rest → Recognise.Unescaped before →
    rest = [] ∨ UnitAhead rest

/-! ## Digits -/

theorem isHexDigit_of_hexValue? {c : Char} {n : Nat} (h : Text.hexValue? c = some n) :
    n < 16 ∧ IsHexDigit c n := by
  have hsmall : c.toNat < 0x80 := by
    rw [Text.hexValue?] at h
    simp only [Char.le_def, UInt32.le_iff_toNat_le] at h
    have hval : c.val.toNat = c.toNat := rfl
    split_ifs at h with hdigit hlower hupper
    · have := hdigit.2.trans_lt (by decide : '9'.val.toNat < 0x80)
      omega
    · have := hlower.2.trans_lt (by decide : 'f'.val.toNat < 0x80)
      omega
    · have := hupper.2.trans_lt (by decide : 'F'.val.toNat < 0x80)
      omega
  have hall : ∀ m < 0x80, ∀ n ∈ Text.hexValue? (Char.ofNat m),
      n < 16 ∧ IsHexDigit (Char.ofNat m) n := by decide
  have hdigit := hall _ hsmall n (by rw [Char.ofNat_toNat]; exact h)
  rwa [Char.ofNat_toNat] at hdigit

theorem hexValue?_eq_none {c : Char} (h : ¬ IsHex c) : Text.hexValue? c = none := by
  rw [Option.eq_none_iff_forall_ne_some]
  exact fun n hn => h ⟨n, isHexDigit_of_hexValue? hn⟩

/-- Four digits make a unit. -/
theorem exists_isHexUnit {digits : List Char} (hcount : digits.length = 4)
    (hdigits : ∀ d ∈ digits, IsHex d) : ∃ unit, IsHexUnit digits unit := by
  obtain ⟨a, b, c, d, rfl⟩ : ∃ a b c d, digits = [a, b, c, d] := by
    match digits, hcount with
    | [a, b, c, d], _ => exact ⟨a, b, c, d, rfl⟩
  simp only [List.forall_mem_cons] at hdigits
  obtain ⟨⟨i, hi, ha⟩, ⟨j, hj, hb⟩, ⟨k, hk, hc⟩, ⟨l, hl, hd⟩, -⟩ := hdigits
  refine ⟨((i * 16 + j) * 16 + k) * 16 + l, by omega, ?_⟩
  have hfirst : (((i * 16 + j) * 16 + k) * 16 + l) / 0x1000 = i := by omega
  have hsecond : (((i * 16 + j) * 16 + k) * 16 + l) / 0x100 % 0x10 = j := by omega
  have hthird : (((i * 16 + j) * 16 + k) * 16 + l) / 0x10 % 0x10 = k := by omega
  have hfourth : (((i * 16 + j) * 16 + k) * 16 + l) % 0x10 = l := by omega
  rw [hfirst, hsecond, hthird, hfourth]
  exact .cons ha (.cons hb (.cons hc (.cons hd .nil)))

theorem digits_or_stop (count : Nat) (cs : List Char) :
    (∃ digits rest, cs = digits ++ rest ∧ digits.length = count ∧ ∀ d ∈ digits, IsHex d) ∨
      ∃ digits rest, cs = digits ++ rest ∧ digits.length < count ∧ (∀ d ∈ digits, IsHex d) ∧
        ∀ stop ∈ rest.head?, ¬ IsHex stop := by
  induction count generalizing cs with
  | zero => exact .inl ⟨[], cs, rfl, rfl, by simp⟩
  | succ count ih =>
      cases cs with
      | nil => exact .inr ⟨[], [], rfl, Nat.succ_pos _, by simp, by simp⟩
      | cons c cs =>
          by_cases hc : IsHex c
          · rcases ih cs with ⟨digits, rest, rfl, hcount, hdigits⟩ |
              ⟨digits, rest, rfl, hcount, hdigits, hstop⟩
            · exact .inl ⟨c :: digits, rest, rfl, by simp [hcount], by simpa using ⟨hc, hdigits⟩⟩
            · exact .inr ⟨c :: digits, rest, rfl, by simpa using hcount,
                by simpa using ⟨hc, hdigits⟩, hstop⟩
          · exact .inr ⟨[], c :: cs, rfl, Nat.succ_pos _, by simp, by simpa using hc⟩

theorem unitAhead_or_swallowed (cs : List Char) :
    UnitAhead cs ∨ ∃ dropped rest, cs = dropped ++ rest ∧ Swallowed dropped rest := by
  rcases digits_or_stop 4 cs with ⟨digits, rest, rfl, hcount, hdigits⟩ |
    ⟨digits, rest, rfl, hcount, hdigits, hstop⟩
  · obtain ⟨unit, hunit⟩ := exists_isHexUnit hcount hdigits
    exact .inl ⟨digits, unit, rest, hunit, rfl⟩
  · cases rest with
    | nil => exact .inr ⟨digits, [], rfl, .ended hcount hdigits⟩
    | cons stop rest =>
        refine .inr ⟨digits ++ [stop], rest, by simp, .stopped hcount hdigits ?_⟩
        exact hstop stop rfl

theorem hexDigits_of_stop {digits rest : List Char} {count : Nat}
    (hcount : digits.length < count) (hdigits : ∀ d ∈ digits, IsHex d)
    (hstop : ∀ stop ∈ rest.head?, ¬ IsHex stop) (value : Nat) :
    hexDigits count value (digits ++ rest) = (none, (digits ++ rest.take 1).length) := by
  induction digits generalizing count value with
  | nil =>
      obtain ⟨count, rfl⟩ : ∃ k, count = k + 1 := ⟨count - 1, by omega⟩
      cases rest with
      | nil => rfl
      | cons stop rest =>
          rw [List.nil_append, hexDigits, hexValue?_eq_none (hstop stop rfl)]
          rfl
  | cons d digits ih =>
      obtain ⟨count, rfl⟩ : ∃ k, count = k + 1 := ⟨count - 1, by omega⟩
      obtain ⟨⟨n, hn, hd⟩, hdigits⟩ := List.forall_mem_cons.mp hdigits
      rw [List.cons_append, hexDigits, hd.hexValue? hn]
      dsimp only
      rw [ih (Nat.lt_of_succ_lt_succ hcount) hdigits]
      rfl

section

variable {dropped rest : List Char}

theorem Swallowed.hexDigits (h : Swallowed dropped rest) :
    Literal.hexDigits 4 0 (dropped ++ rest) = (none, dropped.length) := by
  cases h with
  | @stopped digits _ stop hcount hdigits hstop =>
      have hhead : ∀ c ∈ (stop :: rest).head?, ¬ IsHex c := by simpa using hstop
      simpa using hexDigits_of_stop hcount hdigits hhead 0
  | ended hcount hdigits =>
      have hhead : ∀ c ∈ ([] : List Char).head?, ¬ IsHex c := by simp
      simpa using hexDigits_of_stop hcount hdigits hhead 0

theorem Swallowed.not_unitAhead (h : Swallowed dropped rest) : ¬ UnitAhead (dropped ++ rest) := by
  rintro ⟨digits, unit, behind, hunit, heq⟩
  have hread := h.hexDigits
  rw [heq, hunit.hexDigits] at hread
  cases hread

theorem Swallowed.unique {dropped' rest' : List Char} (h : Swallowed dropped rest)
    (h' : Swallowed dropped' rest') (heq : dropped ++ rest = dropped' ++ rest') :
    dropped = dropped' ∧ rest = rest' := by
  have hread := h.hexDigits
  rw [heq, h'.hexDigits, Prod.mk.injEq] at hread
  exact List.append_inj heq hread.2.symm

/-- A unit without its digits loses none of them only at the end of the text. -/
theorem Swallowed.rest_eq_nil (h : Swallowed dropped rest) (hnone : dropped = []) : rest = [] := by
  cases h with
  | stopped => exact absurd hnone (by simp)
  | ended => rfl

end

/-! ## Escapes -/

theorem shortEscape?_of_mem : ∀ entry ∈ escapeMarks,
    entry.1 ≠ 'u' ∧ shortEscape? entry.1 = some entry.2 := by
  decide

theorem Swallowed.not_escapes {dropped rest : List Char} (h : Swallowed dropped rest) :
    ¬ Escapes ('u' :: (dropped ++ rest)) := by
  rintro (⟨entry, hentry, hhead⟩ | ⟨behind, heq, hahead⟩)
  · exact (shortEscape?_of_mem entry hentry).1 (Option.some.inj hhead).symm
  · cases heq
    exact h.not_unitAhead hahead

/-- Only the marks of short escapes stand for a character. -/
theorem mem_of_shortEscape? {mark c : Char} (h : shortEscape? mark = some c) :
    (mark, c) ∈ escapeMarks := by
  unfold shortEscape? at h
  split at h <;> cases h <;> decide

theorem ne_backslash_of_not_escapes {c : Char} {cs : List Char} (h : ¬ Escapes (c :: cs)) :
    c ≠ '\\' := by
  rintro rfl
  exact h (.inl ⟨('\\', '\\'), by decide, rfl⟩)

/-- What is neither `u` nor a mark stands for itself, and so does its backslash. -/
theorem escape_unknown {c : Char} {cs : List Char} (hu : c ≠ 'u') (h : ¬ Escapes (c :: cs)) :
    escape (c :: cs) = (['\\', c], 1) := by
  have hshort : shortEscape? c = none := by
    rw [Option.eq_none_iff_forall_ne_some]
    exact fun d hd => h (.inl ⟨(c, d), mem_of_shortEscape? hd, rfl⟩)
  unfold escape
  split <;> rename_i heq <;> cases heq
  · exact absurd rfl hu
  · rw [hshort]

theorem lowAhead_of_lowSurrogate? {cs : List Char} {low : Nat} (h : lowSurrogate? cs = some low) :
    LowAhead cs := by
  unfold lowSurrogate? at h
  split at h
  · rename_i behind
    obtain ⟨hread, hlow⟩ := Option.filter_eq_some_iff.mp h
    rcases unitAhead_or_swallowed behind with ⟨digits, unit, rest, hunit, rfl⟩ |
      ⟨dropped, rest, rfl, hdropped⟩
    · rw [hunit.hexDigits] at hread
      cases hread
      exact ⟨digits, _, rest, hunit, hlow, rfl⟩
    · rw [hdropped.hexDigits] at hread
      cases hread
  · cases h

section

variable {digits piece rest : List Char} {n : Nat} {c : Char}

theorem escape_half (hdigits : IsHexUnit digits n)
    (hhalf : Text.isLowSurrogate n = true ∨ Text.isHighSurrogate n = true ∧ ¬ LowAhead rest) :
    escape ('u' :: (digits ++ rest)) = ([replacement], 5) := by
  have hdrop : (digits ++ rest).drop 4 = rest := List.drop_left' hdigits.length_eq
  have hnumeric : numericEscape (digits ++ rest) = ([replacement], 4) := by
    rw [numericEscape, hdigits.hexDigits]
    dsimp only
    rw [hdrop]
    rcases hhalf with hlow | ⟨hhigh, hahead⟩
    · have hhigh : Text.isHighSurrogate n = false := by
        simp only [Text.isLowSurrogate, Text.isHighSurrogate, Bool.and_eq_true,
          decide_eq_true_eq, Bool.and_eq_false_iff, decide_eq_false_iff_not] at hlow ⊢
        omega
      simp only [hhigh, hlow, if_true, Bool.false_eq_true, if_false]
    · rw [if_pos hhigh]
      cases hfound : lowSurrogate? rest with
      | none => rfl
      | some low => exact absurd (lowAhead_of_lowSurrogate? hfound) hahead
  rw [escape, hnumeric]

/-- An item is a plain character, an escape that is decoded as a whole, or a lone backslash. -/
theorem Item.shape (h : Item piece c rest) : (piece = [c] ∧ c ≠ '\\') ∨
    (∃ body, piece = '\\' :: body ∧ Escapes (body ++ rest) ∧
      escape (body ++ rest) = ([c], body.length)) ∨
    piece = ['\\'] ∧ c = '\\' ∧ ¬ Escapes rest := by
  cases h with
  | spelled h =>
      cases h with
      | raw hplain => exact .inl ⟨rfl, hplain⟩
      | @short mark hmark =>
          obtain ⟨hu, hshort⟩ := shortEscape?_of_mem _ hmark
          exact .inr (.inl ⟨[mark], rfl, .inl ⟨_, hmark, rfl⟩, escape_short hu hshort rest⟩)
      | @unit digits hdigits =>
          refine .inr (.inl ⟨'u' :: digits, rfl, .inr ⟨_, rfl, _, _, _, hdigits, rfl⟩, ?_⟩)
          rw [List.length_cons, hdigits.length_eq]
          exact escape_unit hdigits rest
      | @pair high low hlarge hhigh hlow =>
          refine .inr (.inl ⟨'u' :: (high ++ '\\' :: 'u' :: low), rfl,
            .inr ⟨_, rfl, _, _, _, hhigh, List.append_assoc _ _ _⟩, ?_⟩)
          simp only [List.length_cons, List.length_append, hhigh.length_eq, hlow.length_eq,
            List.cons_append, List.append_assoc]
          exact escape_pair hlarge hhigh hlow rest
  | @half digits _ _ hdigits hhalf =>
      refine .inr (.inl ⟨'u' :: digits, rfl, .inr ⟨_, rfl, _, _, _, hdigits, rfl⟩, ?_⟩)
      rw [List.length_cons, hdigits.length_eq]
      exact escape_half hdigits hhalf
  | backslash h => exact .inr (.inr ⟨rfl, rfl, h⟩)

theorem Item.not_escapes (h : Item ['\\'] c rest) : ¬ Escapes rest := by
  cases h with
  | spelled h =>
      cases h with
      | raw hplain => exact absurd rfl hplain
  | backslash h => exact h

/-- A text starts with one item only. -/
theorem Item.unique {piece' rest' : List Char} {c' : Char} (h : Item piece c rest)
    (h' : Item piece' c' rest') (heq : piece ++ rest = piece' ++ rest') :
    c = c' ∧ rest = rest' := by
  rcases h.shape with ⟨rfl, hplain⟩ | ⟨body, rfl, hescapes, hescape⟩ | ⟨rfl, rfl, hnone⟩
  · rcases h'.shape with ⟨rfl, -⟩ | ⟨body', rfl, -⟩ | ⟨rfl, rfl, -⟩
    · exact List.cons.inj heq
    · exact absurd (List.cons.inj heq).1 hplain
    · exact absurd (List.cons.inj heq).1 hplain
  · rcases h'.shape with ⟨rfl, hplain⟩ | ⟨body', rfl, -, hescape'⟩ | ⟨rfl, rfl, hnone⟩
    · exact absurd (List.cons.inj heq).1.symm hplain
    · have hsame : body ++ rest = body' ++ rest' := (List.cons.inj heq).2
      rw [hsame, hescape', Prod.mk.injEq, List.singleton_inj] at hescape
      exact ⟨hescape.1.symm, (List.append_inj hsame hescape.2.symm).2⟩
    · have hsame : body ++ rest = rest' := (List.cons.inj heq).2
      exact absurd (hsame ▸ hescapes) hnone
  · rcases h'.shape with ⟨rfl, hplain⟩ | ⟨body', rfl, hescapes, -⟩ | ⟨rfl, rfl, -⟩
    · exact absurd (List.cons.inj heq).1.symm hplain
    · have hsame : rest = body' ++ rest' := (List.cons.inj heq).2
      exact absurd (hsame ▸ hescapes) hnone
    · exact ⟨rfl, (List.cons.inj heq).2⟩

/-- An item other than the backslash of a `\u` starts no text whose `\u` loses something. -/
theorem Item.ne_swallowed {dropped behind : List Char} (h : Item piece c rest)
    (hunit : piece = ['\\'] → rest.head? ≠ some 'u') (hdropped : Swallowed dropped behind) :
    piece ++ rest ≠ '\\' :: 'u' :: (dropped ++ behind) := by
  intro heq
  rcases h.shape with ⟨rfl, hplain⟩ | ⟨body, rfl, hescapes, -⟩ | ⟨rfl, rfl, -⟩
  · exact hplain (List.cons.inj heq).1
  · have hbehind : body ++ rest = 'u' :: (dropped ++ behind) := (List.cons.inj heq).2
    exact hdropped.not_escapes (hbehind ▸ hescapes)
  · have hbehind : rest = 'u' :: (dropped ++ behind) := (List.cons.inj heq).2
    exact hunit rfl (congrArg List.head? hbehind)

end

/-! ## Every text has items -/

theorem isValidChar_of_not_surrogate {n : Nat} (hn : n < 0x10000)
    (hhigh : ¬ Text.isHighSurrogate n = true) (hlow : ¬ Text.isLowSurrogate n = true) :
    n.isValidChar := by
  simp only [Text.isHighSurrogate, Text.isLowSurrogate, Bool.and_eq_true, decide_eq_true_eq,
    not_and] at hhigh hlow
  rw [Nat.isValidChar]
  omega

/-- Two halves are the units of one character. -/
theorem exists_pair {high low : Nat} (hhigh : Text.isHighSurrogate high = true)
    (hlow : Text.isLowSurrogate low = true) :
    ∃ c : Char, 0x10000 ≤ c.toNat ∧ high = 0xD800 + (c.toNat - 0x10000) / 0x400 ∧
      low = 0xDC00 + (c.toNat - 0x10000) % 0x400 := by
  simp only [Text.isHighSurrogate, Text.isLowSurrogate, Bool.and_eq_true,
    decide_eq_true_eq] at hhigh hlow
  have hvalid : (0x10000 + (high - 0xD800) * 0x400 + (low - 0xDC00)).isValidChar := by
    rw [Nat.isValidChar]
    omega
  refine ⟨Char.ofNat (0x10000 + (high - 0xD800) * 0x400 + (low - 0xDC00)), ?_⟩
  rw [Char.toNat_ofNat, if_pos hvalid]
  omega

theorem exists_item_of_unit {digits : List Char} {unit : Nat} (hdigits : IsHexUnit digits unit)
    (cs : List Char) :
    ∃ piece c rest, Item piece c rest ∧ '\\' :: 'u' :: (digits ++ cs) = piece ++ rest := by
  by_cases hlow : Text.isLowSurrogate unit = true
  · exact ⟨_, _, cs, .half hdigits (.inl hlow), rfl⟩
  by_cases hhigh : Text.isHighSurrogate unit = true
  · by_cases hahead : LowAhead cs
    · obtain ⟨digits', low, rest, hdigits', hlow', rfl⟩ := hahead
      obtain ⟨c, hlarge, hfirst, hsecond⟩ := exists_pair hhigh hlow'
      rw [hfirst] at hdigits
      rw [hsecond] at hdigits'
      refine ⟨_, c, rest, .spelled (.pair hlarge hdigits hdigits'), ?_⟩
      simp only [List.cons_append, List.append_assoc]
    · exact ⟨_, _, cs, .half hdigits (.inr ⟨hhigh, hahead⟩), rfl⟩
  · have hvalid := isValidChar_of_not_surrogate hdigits.1 hhigh hlow
    have hunit : (Char.ofNat unit).toNat = unit := by rw [Char.toNat_ofNat, if_pos hvalid]
    exact ⟨_, Char.ofNat unit, cs, .spelled (.unit (hunit.symm ▸ hdigits)), rfl⟩

theorem exists_item (c : Char) (cs : List Char) :
    ∃ piece d rest, Item piece d rest ∧ c :: cs = piece ++ rest := by
  by_cases hplain : c = '\\'
  · subst hplain
    by_cases hescapes : Escapes cs
    · rcases hescapes with ⟨⟨mark, d⟩, hmark, hhead⟩ | ⟨behind, rfl, hunit⟩
      · obtain ⟨rest, rfl⟩ := List.head?_eq_some_iff.mp hhead
        exact ⟨['\\', mark], d, rest, .spelled (.short hmark), rfl⟩
      · obtain ⟨digits, unit, rest, hdigits, rfl⟩ := hunit
        exact exists_item_of_unit hdigits rest
    · exact ⟨['\\'], '\\', cs, .backslash hescapes, rfl⟩
  · exact ⟨[c], c, cs, .spelled (.raw hplain hplain), rfl⟩

theorem Item.length_lt {piece rest : List Char} {c : Char} (h : Item piece c rest) :
    rest.length < (piece ++ rest).length := by
  rw [List.length_append]
  rcases h.shape with ⟨rfl, -⟩ | ⟨body, rfl, -⟩ | ⟨rfl, -⟩
  all_goals
    rw [List.length_cons]
    omega

theorem Item.append_ne_nil {piece rest : List Char} {c : Char} (h : Item piece c rest) :
    piece ++ rest ≠ [] :=
  List.ne_nil_of_length_pos (Nat.zero_lt_of_lt h.length_lt)

theorem exists_decoded (cs : List Char) : ∃ text lost, Decoded cs text lost := by
  induction hlength : cs.length using Nat.strong_induction_on generalizing cs with
  | _ length ih =>
    subst hlength
    cases cs with
    | nil => exact ⟨[], [], .nil⟩
    | cons c cs =>
        obtain ⟨piece, d, rest, hitem, heq⟩ := exists_item c cs
        rw [heq] at ih ⊢
        by_cases hunit : piece = ['\\'] ∧ rest.head? = some 'u'
        · -- the item is only a backslash, so the digits behind the `u` are too few
          obtain ⟨rfl, hhead⟩ := hunit
          obtain ⟨behind, rfl⟩ := List.head?_eq_some_iff.mp hhead
          have hnone : ¬ UnitAhead behind := fun hahead =>
            hitem.not_escapes (.inr ⟨behind, rfl, hahead⟩)
          obtain ⟨dropped, rest, rfl, hdropped⟩ :=
            (unitAhead_or_swallowed behind).resolve_left hnone
          have hlt : rest.length < (['\\'] ++ 'u' :: (dropped ++ rest)).length := by
            simp only [List.length_append, List.length_cons]
            omega
          obtain ⟨text, lost, hrest⟩ := ih rest.length hlt rest rfl
          exact ⟨_, _, .unit hdropped hrest⟩
        · obtain ⟨text, lost, hrest⟩ := ih rest.length hitem.length_lt rest rfl
          exact ⟨_, _, .item hitem (not_and.mp hunit) hrest⟩

/-! ## What the decoder does -/

section

variable {piece rest cs text lost : List Char} {c : Char}

theorem decodeFrom_plain (hplain : c ≠ '\\') :
    Literal.decodeFrom 0 (c :: cs) = c :: Literal.decodeFrom 0 cs := by
  rw [Literal.decodeFrom]
  exact if_neg hplain

theorem Item.decodeFrom (h : Item piece c rest) (hunit : piece = ['\\'] → rest.head? ≠ some 'u') :
    Literal.decodeFrom 0 (piece ++ rest) = c :: Literal.decodeFrom 0 rest := by
  rcases h.shape with ⟨rfl, hplain⟩ | ⟨body, rfl, -, hescape⟩ | ⟨rfl, rfl, hnone⟩
  · exact decodeFrom_plain hplain
  · rw [List.cons_append, decodeFrom_escape hescape, decodeFrom_append]
    rfl
  · -- the decoder takes the next character along, which is the next item
    cases rest with
    | nil => rfl
    | cons d rest =>
        have hd : d ≠ 'u' := fun hd => hunit rfl (congrArg some hd)
        rw [List.singleton_append, decodeFrom_escape (escape_unknown hd hnone),
          decodeFrom_plain (ne_backslash_of_not_escapes hnone)]
        rfl

theorem Swallowed.decodeFrom (h : Swallowed piece rest) :
    Literal.decodeFrom 0 ('\\' :: 'u' :: (piece ++ rest)) =
      '\\' :: 'u' :: Literal.decodeFrom 0 rest := by
  have hescape : escape ('u' :: (piece ++ rest)) = (['\\', 'u'], ('u' :: piece).length) := by
    rw [escape, numericEscape, h.hexDigits]
    rfl
  have hused := decodeFrom_append ('u' :: piece) rest
  rw [List.cons_append] at hused
  rw [decodeFrom_escape hescape, hused]
  rfl

theorem Decoded.decodeFrom (h : Decoded cs text lost) : Literal.decodeFrom 0 cs = text := by
  induction h with
  | nil => rfl
  | item h hunit _ ih => rw [h.decodeFrom hunit, ih]
  | unit h _ ih => rw [h.decodeFrom, ih]

theorem Replaced.unique {other : List Char} (h : Replaced cs text) (h' : Replaced cs other) :
    text = other := by
  induction h generalizing other with
  | nil =>
      generalize hcs : ([] : List Char) = cs at h'
      cases h' with
      | nil => rfl
      | cons hitem => exact absurd hcs.symm hitem.append_ne_nil
  | @cons piece rest text c hitem hrest ih =>
      generalize hcs : piece ++ rest = cs at h'
      cases h' with
      | nil => exact absurd hcs hitem.append_ne_nil
      | cons hitem' hrest' =>
          obtain ⟨rfl, rfl⟩ := hitem.unique hitem' hcs
          rw [ih hrest']

theorem Decoded.lost_unique {text' lost' : List Char} (h : Decoded cs text lost)
    (h' : Decoded cs text' lost') : lost = lost' := by
  induction h generalizing text' lost' with
  | nil =>
      generalize hcs : ([] : List Char) = cs at h'
      cases h' with
      | nil => rfl
      | item hitem => exact absurd hcs.symm hitem.append_ne_nil
      | unit => cases hcs
  | @item piece rest text lost c hitem hunit _ ih =>
      generalize hcs : piece ++ rest = cs at h'
      cases h' with
      | nil => exact absurd hcs hitem.append_ne_nil
      | item hitem' _ hrest' =>
          obtain ⟨-, rfl⟩ := hitem.unique hitem' hcs
          exact ih hrest'
      | unit hdropped => exact absurd hcs (hitem.ne_swallowed hunit hdropped)
  | @unit dropped rest text lost hdropped _ ih =>
      generalize hcs : '\\' :: 'u' :: (dropped ++ rest) = cs at h'
      cases h' with
      | nil => cases hcs
      | item hitem hunit => exact absurd hcs.symm (hitem.ne_swallowed hunit hdropped)
      | unit hdropped' hrest' =>
          obtain ⟨rfl, rfl⟩ := hdropped.unique hdropped' (List.cons.inj (List.cons.inj hcs).2).2
          rw [ih hrest']

end

/-! ## Where nothing is lost -/

section

variable {c d : Char} {cs front piece rest text lost : List Char} {n : Nat}

theorem unitsWhole_of_short (h : cs.length < 2) : UnitsWhole cs := by
  rintro before rest rfl -
  simp only [List.length_append, List.length_cons] at h
  omega

theorem unitsWhole_cons (hc : c ≠ '\\') : UnitsWhole (c :: cs) ↔ UnitsWhole cs := by
  constructor
  · rintro h before rest rfl hunescaped
    exact h (c :: before) rest rfl ((Recognise.unescaped_cons hc).mpr hunescaped)
  · intro h before rest heq hunescaped
    cases before with
    | nil => exact absurd (List.cons.inj heq).1 hc
    | cons d before =>
        obtain ⟨rfl, hcs⟩ := List.cons.inj heq
        exact h before rest hcs ((Recognise.unescaped_cons hc).mp hunescaped)

/-- The character behind a backslash is escaped, and the next one is not. -/
theorem unitsWhole_cons_cons : UnitsWhole ('\\' :: d :: cs) ↔
    (d = 'u' → cs = [] ∨ UnitAhead cs) ∧ UnitsWhole cs := by
  have hnone : Recognise.Unescaped [] := by
    rw [Recognise.Unescaped]
    decide
  have hone : ¬ Recognise.Unescaped ['\\'] := by
    rw [Recognise.Unescaped]
    decide
  constructor
  · intro h
    refine ⟨?_, ?_⟩
    · rintro rfl
      exact h [] cs rfl hnone
    · rintro before rest rfl hunescaped
      exact h ('\\' :: d :: before) rest rfl (Recognise.unescaped_cons_cons.mpr hunescaped)
  · -- a `\u` starts at the backslash, at the character that it escapes, or behind both
    rintro ⟨hunit, h⟩ before rest heq hunescaped
    rcases before with - | ⟨a, - | ⟨b, before⟩⟩
    · cases heq
      exact hunit rfl
    · cases heq
      exact absurd hunescaped hone
    · cases heq
      exact h before rest rfl (Recognise.unescaped_cons_cons.mp hunescaped)

theorem unitsWhole_append (hplain : ∀ c ∈ front, c ≠ '\\') :
    UnitsWhole (front ++ cs) ↔ UnitsWhole cs := by
  induction front with
  | nil => rfl
  | cons c front ih =>
      obtain ⟨hc, hplain⟩ := List.forall_mem_cons.mp hplain
      rw [List.cons_append, unitsWhole_cons hc, ih hplain]

theorem IsHexUnit.ne_backslash (h : IsHexUnit front n) : ∀ c ∈ front, c ≠ '\\' := by
  have hdigit {c : Char} {n : Nat} (h : Text.hexValue? c = some n) : c ≠ '\\' := by
    rintro rfl
    cases h
  obtain ⟨a, b, c, d, rfl, ha, hb, hc, hd⟩ := h.exists_digits
  simp only [List.forall_mem_cons]
  exact ⟨hdigit ha, hdigit hb, hdigit hc, hdigit hd, by simp⟩

theorem IsHexUnit.unitsWhole (h : IsHexUnit front n) :
    UnitsWhole ('\\' :: 'u' :: (front ++ cs)) ↔ UnitsWhole cs := by
  rw [unitsWhole_cons_cons, unitsWhole_append h.ne_backslash]
  exact and_iff_right fun _ => .inr ⟨front, n, cs, h, rfl⟩

theorem Item.unitsWhole (h : Item piece c rest) (hunit : piece = ['\\'] → rest.head? ≠ some 'u') :
    UnitsWhole (piece ++ rest) ↔ UnitsWhole rest := by
  cases h with
  | spelled h =>
      cases h with
      | raw hplain => exact unitsWhole_cons hplain
      | short hmark =>
          have hu := (shortEscape?_of_mem _ hmark).1
          exact unitsWhole_cons_cons.trans (and_iff_right fun hd => absurd hd hu)
      | unit hdigits => exact hdigits.unitsWhole
      | pair _ hhigh hlow =>
          simp only [List.cons_append, List.append_assoc]
          rw [hhigh.unitsWhole, hlow.unitsWhole]
  | half hdigits => exact hdigits.unitsWhole
  | backslash hnone =>
      cases rest with
      | nil => exact iff_of_true (unitsWhole_of_short (by simp)) (unitsWhole_of_short (by simp))
      | cons d rest =>
          have hu : d ≠ 'u' := fun hd => hunit rfl (congrArg some hd)
          rw [List.singleton_append, unitsWhole_cons_cons,
            unitsWhole_cons (ne_backslash_of_not_escapes hnone)]
          exact and_iff_right fun hd => absurd hd hu

theorem Decoded.lost_eq_nil_iff (h : Decoded cs text lost) : lost = [] ↔ UnitsWhole cs := by
  induction h with
  | nil => exact iff_of_true rfl (unitsWhole_of_short (by simp))
  | item h hunit _ ih => rw [h.unitsWhole hunit, ih]
  | @unit dropped rest text lost h _ ih =>
      rw [unitsWhole_cons_cons, List.append_eq_nil_iff]
      constructor
      · rintro ⟨rfl, rfl⟩
        obtain rfl := h.rest_eq_nil rfl
        exact ⟨fun _ => .inl rfl, ih.mp rfl⟩
      · rintro ⟨hahead, -⟩
        obtain ⟨rfl, rfl⟩ :=
          List.append_eq_nil_iff.mp ((hahead rfl).resolve_right h.not_unitAhead)
        exact ⟨rfl, ih.mpr (unitsWhole_of_short (by simp))⟩

theorem Decoded.replaced (h : Decoded cs text lost) (hlost : lost = []) : Replaced cs text := by
  induction h with
  | nil => exact .nil
  | item h _ _ ih => exact .cons h (ih hlost)
  | unit h _ ih =>
      obtain ⟨rfl, hlost⟩ := List.append_eq_nil_iff.mp hlost
      exact .cons (.backslash h.not_escapes)
        (.cons (.spelled (.raw (by decide) (by decide))) (ih hlost))

end

/--
Whatever the text, what is between its delimiters is decoded in one way.  No character is
lost exactly if behind each `\u`, unless that is escaped, stand four digits or nothing.
Then the result is the text with each escape replaced by its character and the rest kept,
and no other text is.
-/
theorem unquote_lossless_iff (raw : String) :
    ∃ lost, (∀ text other, Decoded (stripDelimiters raw.toList) text other ↔
        text = (unquote raw).toList ∧ other = lost) ∧
      (lost = [] ↔ UnitsWhole (stripDelimiters raw.toList)) ∧
      (lost = [] → ∀ text, Replaced (stripDelimiters raw.toList) text ↔
        text = (unquote raw).toList) := by
  obtain ⟨text, lost, h⟩ := exists_decoded (stripDelimiters raw.toList)
  have htext : (unquote raw).toList = text := by
    rw [unquote, String.toList_ofList, h.decodeFrom]
  rw [htext]
  refine ⟨lost, fun text' other => ⟨fun h' => ?_, ?_⟩, h.lost_eq_nil_iff, fun hlost other => ?_⟩
  · exact ⟨h'.decodeFrom.symm.trans h.decodeFrom, h'.lost_unique h⟩
  · rintro ⟨rfl, rfl⟩
    exact h
  · have hreplaced := h.replaced hlost
    exact ⟨fun hother => hother.unique hreplaced, fun hother => hother ▸ hreplaced⟩

/-- Two digits and the letter behind them are lost, where all of the text is to be kept. -/
theorem unquote_loses_digits :
    Replaced (stripDelimiters "\"\\u12G4\"".toList) "\\u12G4".toList ∧
      unquote "\"\\u12G4\"" = "\\u4" ∧
      ¬ Replaced (stripDelimiters "\"\\u12G4\"".toList) (unquote "\"\\u12G4\"").toList := by
  have hdigits : ∀ d ∈ ['1', '2'], IsHex d := by
    simp only [List.forall_mem_cons]
    exact ⟨⟨1, by decide, .inl rfl⟩, ⟨2, by decide, .inl rfl⟩, by simp⟩
  have hstop : ¬ IsHex 'G' := by
    rintro ⟨n, hn, hdigit⟩
    cases hdigit.hexValue? hn
  have hswallowed : Swallowed (['1', '2'] ++ ['G']) ['4'] := .stopped (by decide) hdigits hstop
  have hplain (c : Char) (rest text : List Char) (hc : c ≠ '\\') (hrest : Replaced rest text) :
      Replaced (c :: rest) (c :: text) := .cons (.spelled (.raw hc hc)) hrest
  have hreplaced : Replaced (stripDelimiters "\"\\u12G4\"".toList) "\\u12G4".toList := by
    refine .cons (.backslash hswallowed.not_escapes) ?_
    repeat refine hplain _ _ _ (by decide) ?_
    exact .nil
  have htext : unquote "\"\\u12G4\"" = "\\u4" := by cbv
  refine ⟨hreplaced, htext, fun h => ?_⟩
  rw [htext] at h
  exact absurd (hreplaced.unique h) (by decide)

end Literal

end RecordQuery
