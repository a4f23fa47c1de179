import RecordQuery.Proofs.Syntax.CanonicalTokens

/-! # The slash that closes a regular expression

A slash behind an even number of backslashes is not escaped, for these escape each
other.  A regular expression ends with the last such slash of its line only if that
number is zero; else it ends with the last slash that stands behind no backslash, and
without one it is no token.
-/

namespace RecordQuery

namespace Recognise

/-- The number of backslashes that a text ends with. -/
def backslashes (cs : List Char) : Nat :=
  (cs.reverse.takeWhile (· = '\\')).length

/-- The text goes on with a slash behind `line`, which has no end of line in it. -/
def SlashBehind (line cs : List Char) : Prop :=
  line ++ ['/'] <+: cs ∧ '\n' ∉ line

/-- The slash behind `line` is not escaped. -/
def Unescaped (line : List Char) : Prop :=
  Even (backslashes line)

/-- Of the slashes whose line in front has the property the one behind `line` is the last. -/
structure LastBehind (property : List Char → Prop) (line cs : List Char) : Prop where
  slash : SlashBehind line cs
  holds : property line
  last : ∀ other, SlashBehind other cs → property other → other.length ≤ line.length

section

variable {property : List Char → Prop} {before : Char} {line cs : List Char} {n : Nat}

theorem SlashBehind.length_lt (h : SlashBehind line cs) : line.length < cs.length := by
  have hle := h.1.length_le
  rwa [List.length_append] at hle

theorem LastBehind.unique {other : List Char} (h : LastBehind property line cs)
    (h' : LastBehind property other cs) : line = other := by
  have hlength : line.length = other.length :=
    Nat.le_antisymm (h'.last _ h.slash h.holds) (h.last _ h'.slash h'.holds)
  have hsame := List.prefix_of_prefix_length_le h.slash.1 h'.slash.1 (by simp [hlength])
  exact (List.append_inj (hsame.eq_of_length (by simp [hlength])) hlength).1

/-- If a slash with the property is there, one of them is the last. -/
theorem exists_lastBehind (h : SlashBehind line cs) (hproperty : property line) :
    ∃ line, LastBehind property line cs := by
  classical
  let found (length : Nat) : Prop :=
    ∃ line, SlashBehind line cs ∧ property line ∧ line.length = length
  have hfound : found line.length := ⟨line, h, hproperty, rfl⟩
  obtain ⟨longest, hslash, hlongest, hlength⟩ :=
    Nat.findGreatest_spec (P := found) h.length_lt.le hfound
  refine ⟨longest, hslash, hlongest, fun other hother hholds => ?_⟩
  rw [hlength]
  exact Nat.le_findGreatest hother.length_lt.le ⟨other, hother, hholds, rfl⟩

/-! ## The slash that the rule finds -/

theorem backslashes_eq_zero_iff :
    backslashes line = 0 ↔ ('/' :: line).getLast? ≠ some '\\' := by
  rcases List.eq_nil_or_concat line with rfl | ⟨front, c, rfl⟩
  · simp [backslashes]
  · rw [List.concat_eq_append, ← List.cons_append, List.getLast?_concat, backslashes,
      List.reverse_concat]
    by_cases hc : c = '\\' <;> simp [hc]

/-- The rule stops at a slash behind no backslash, with none such on the rest of the line. -/
theorem lastSlash_eq_some (h : lastSlash before cs = some n) :
    ∃ line rest, cs = line ++ '/' :: rest ∧ '\n' ∉ line ∧ (before :: line).getLast? ≠ some '\\' ∧
      n = line.length + 1 ∧ ¬ SlashAhead '/' rest := by
  induction cs generalizing before n with
  | nil => cases h
  | cons c cs ih =>
      rw [lastSlash] at h
      split at h
      · cases h
      rename_i hc
      split at h
      · rename_i m hm
        cases h
        obtain ⟨line, rest, rfl, hline, hlast, rfl, hrest⟩ := ih hm
        refine ⟨c :: line, rest, rfl, ?_, by simpa using hlast, rfl, hrest⟩
        rw [List.mem_cons, not_or]
        exact ⟨Ne.symm hc, hline⟩
      · rename_i hnone
        split at h
        · rename_i hslash
          cases h
          obtain ⟨rfl, hbefore⟩ := hslash
          refine ⟨[], cs, rfl, List.not_mem_nil, by simpa using hbefore, rfl, ?_⟩
          rw [← lastSlash_isSome_iff, hnone]
          exact Bool.false_ne_true
        · cases h

theorem slashAhead_iff :
    SlashAhead '/' cs ↔ ∃ line, SlashBehind line cs ∧ backslashes line = 0 := by
  constructor
  · rintro ⟨line, rest, rfl, hline, hlast⟩
    exact ⟨line, ⟨⟨rest, by simp⟩, hline⟩, backslashes_eq_zero_iff.mpr hlast⟩
  · rintro ⟨line, ⟨⟨rest, rfl⟩, hline⟩, hzero⟩
    exact ⟨line, rest, by simp, hline, backslashes_eq_zero_iff.mp hzero⟩

/-- The rule takes a text up to its last slash behind no backslash. -/
theorem exists_lastBehind_of_lastSlash (h : lastSlash '/' cs = some n) :
    ∃ line, LastBehind (backslashes · = 0) line cs ∧ n = line.length + 1 := by
  obtain ⟨line, rest, rfl, hline, hlast, hn, hrest⟩ := lastSlash_eq_some h
  have hslash : SlashBehind line (line ++ '/' :: rest) := ⟨⟨rest, by simp⟩, hline⟩
  refine ⟨line, ⟨hslash, backslashes_eq_zero_iff.mpr hlast, fun other hother hzero => ?_⟩, hn⟩
  by_contra hlonger
  -- a later slash would stand on the rest of the line
  obtain ⟨⟨after, hafter⟩, hotherLine⟩ := hother
  have hprefix : line ++ ['/'] <+: other := by
    refine List.prefix_of_prefix_length_le hslash.1 ⟨'/' :: after, by simpa using hafter⟩ ?_
    rw [List.length_append, List.length_singleton]
    omega
  obtain ⟨between, rfl⟩ := hprefix
  refine hrest ⟨between, after, ?_, ?_, ?_⟩
  · simpa using hafter.symm
  · exact fun hmem => hotherLine (List.mem_append_right _ hmem)
  · have hend := backslashes_eq_zero_iff.mp hzero
    rw [List.append_assoc, ← List.cons_append, List.getLast?_append_of_ne_nil _ (by simp)] at hend
    simpa using hend

theorem regexp_slash : regexp ('/' :: cs) = (lastSlash '/' cs).map (· + 1) := by
  cases cs with
  | nil => rfl
  | cons c cs =>
      rw [regexp, lastSlash]
      by_cases hline : c = '\n'
      · rw [if_pos hline, if_pos hline]
        rfl
      · rw [if_neg hline, if_neg hline]
        cases lastSlash c cs with
        | some m => rfl
        | none => by_cases hc : c = '/' <;> simp [hc]

end

end Recognise

/-! ## The first token -/

/-- A regular expression at the front of a text, with `line` between its slashes. -/
def regexpToken (line : List Char) : Token :=
  ⟨.regexp, String.ofList ('/' :: (line ++ ['/'])), 0⟩

/-- The first token of a text, or the error in its place. -/
def firstToken (dialect : Dialect) (text : String) : Except LexError Token :=
  (Lexer.ofText dialect text).nextToken.1

section

open Recognise

variable {dialect : Dialect} {line cs : List Char}

theorem regexpToken_inj {other : List Char} (h : regexpToken line = regexpToken other) :
    line = other := by
  have hchars := congrArg (·.lexeme.toList) h
  simpa [regexpToken] using hchars

/-- A regular expression ends with the last slash of the line that is behind no backslash. -/
theorem firstToken_of_lastBehind (h : LastBehind (backslashes · = 0) line cs) :
    firstToken dialect (String.ofList ('/' :: cs)) = .ok (regexpToken line) := by
  have hahead : SlashAhead '/' cs := slashAhead_iff.mpr ⟨line, h.slash, h.holds⟩
  obtain ⟨n, hn⟩ := Option.isSome_iff_exists.mp (lastSlash_isSome_iff.mpr hahead)
  obtain ⟨found, hfound, rfl⟩ := exists_lastBehind_of_lastSlash hn
  obtain rfl := h.unique hfound
  have hat : tokenAt? dialect ('/' :: cs) = some (.regexp, line.length + 1 + 1) :=
    tokenAt?_regexp (by rw [regexp_slash, hn]; rfl)
  have htake : cs.take (line.length + 1) = line ++ ['/'] := by
    obtain ⟨rest, rfl⟩ := h.slash.1
    exact List.take_left' (by simp)
  rw [firstToken, Lexer.ofText, String.toList_ofList, Lexer.nextToken_token hat,
    List.take_succ_cons, htake]
  rfl

/-- Without such a slash no token starts at the front. -/
theorem firstToken_of_backslashes (h : ∀ line, SlashBehind line cs → backslashes line ≠ 0) :
    firstToken dialect (String.ofList ('/' :: cs)) = .error ⟨0, '/'⟩ := by
  have hnone : lastSlash '/' cs = none := by
    rw [← Option.not_isSome_iff_eq_none, lastSlash_isSome_iff, slashAhead_iff]
    exact fun ⟨line, hslash, hzero⟩ => h line hslash hzero
  have hregexp : regexp ('/' :: cs) = none := by rw [regexp_slash, hnone, Option.map_none]
  have hslash : initial? '/' = some .slash := by decide
  have hat : tokenAt? dialect ('/' :: cs) = none := by
    rw [tokenAt?_of_initial? hslash, rulesFor_slash, List.findSome?_singleton, Rule.length?]
    simp only [hregexp, Option.filter_none, Option.map_none]
  rw [firstToken, Lexer.ofText, String.toList_ofList, Lexer.nextToken_failed (by decide) hat]

/--
Where a text starts with a slash and a later one of its line is not escaped, the first
token ends with the last of these exactly if that slash stands behind no backslash.
If it stands behind some, a regular expression ends with the last slash that stands
behind none, and without such a slash there is an error.
-/
theorem firstToken_closes_iff (h : ∃ line, SlashBehind line cs ∧ Unescaped line) :
    ∃ line, LastBehind Unescaped line cs ∧
      (firstToken dialect (String.ofList ('/' :: cs)) = .ok (regexpToken line) ↔
        backslashes line = 0) ∧
      (∀ shorter, LastBehind (backslashes · = 0) shorter cs →
        firstToken dialect (String.ofList ('/' :: cs)) = .ok (regexpToken shorter)) ∧
      ((∀ other, SlashBehind other cs → backslashes other ≠ 0) →
        firstToken dialect (String.ofList ('/' :: cs)) = .error ⟨0, '/'⟩) := by
  obtain ⟨found, hslash, hunescaped⟩ := h
  obtain ⟨line, hline⟩ := exists_lastBehind hslash hunescaped
  refine ⟨line, hline, ⟨fun htoken => ?_, fun hzero => ?_⟩,
    fun _ => firstToken_of_lastBehind, firstToken_of_backslashes⟩
  · by_cases hplain : ∃ other, SlashBehind other cs ∧ backslashes other = 0
    · obtain ⟨other, hother, hzero⟩ := hplain
      obtain ⟨last, hlast⟩ : ∃ last, LastBehind (backslashes · = 0) last cs :=
        exists_lastBehind hother hzero
      rw [firstToken_of_lastBehind hlast, Except.ok.injEq] at htoken
      rw [← regexpToken_inj htoken]
      exact hlast.holds
    · rw [firstToken_of_backslashes fun other hother hzero => hplain ⟨other, hother, hzero⟩]
        at htoken
      cases htoken
  · refine firstToken_of_lastBehind ⟨hline.slash, hzero, fun other hother hother' => ?_⟩
    exact hline.last other hother (by simp [Unescaped, hother'])

/-- Two backslashes escape each other, but no slash behind them closes a regular expression. -/
theorem firstToken_of_escaped_backslash :
    LastBehind Unescaped ['\\', '\\'] ['\\', '\\', '/'] ∧
      firstToken .extended "/\\\\/" = .error ⟨0, '/'⟩ := by
  refine ⟨⟨⟨⟨[], rfl⟩, by decide⟩, ?_, fun other hother _ => ?_⟩, by cbv⟩
  · rw [Unescaped]
    decide
  · exact Nat.le_of_lt_succ hother.length_lt

/-- Behind an escaped slash and two that close, the last one does not, for its backslashes. -/
theorem firstToken_closes_iff_of_backslashes :
    (∃ line, SlashBehind line "a\\/b/c/\\\\/".toList ∧ Unescaped line) ∧
      ∃ line, LastBehind Unescaped line "a\\/b/c/\\\\/".toList ∧
        (firstToken .strict "/a\\/b/c/\\\\/" = .ok (regexpToken line) ↔ backslashes line = 0) := by
  have h : ∃ line, SlashBehind line "a\\/b/c/\\\\/".toList ∧ Unescaped line := by
    refine ⟨"a\\/b".toList, ⟨⟨"c/\\\\/".toList, rfl⟩, by decide⟩, ?_⟩
    rw [Unescaped]
    decide
  obtain ⟨line, hline, hcloses, -⟩ := firstToken_closes_iff h
  exact ⟨h, line, hline, hcloses⟩

end

end RecordQuery
