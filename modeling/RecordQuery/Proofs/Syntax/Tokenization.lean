import RecordQuery.Proofs.Syntax.Initials

/-! # Tokenization

Each token comes from a rule of the table, so it has at least one character and
the stream of a text does not depend on the fuel.  The stream is unfolded token
by token.
-/

namespace RecordQuery

/-! ## The rule behind a token -/

theorem tokenRules_visible :
    ∀ rule ∈ tokenRules, Recognise.StartsWith (Text.isWhiteSpace · = false) rule.recognise :=
  fun _ hrule => (rule_startsWith hrule).mono fun _ => isWhiteSpace_of_initial?

theorem tokenRules_kind_ne_end : ∀ rule ∈ tokenRules, rule.kind ≠ .endOfInput := by
  simp [tokenRules, Rule.keyword, Rule.symbol]

section

variable {dialect : Dialect} {cs : List Char} {kind : TokenKind} {n : Nat}

theorem exists_rule_of_tokenAt? (h : tokenAt? dialect cs = some (kind, n)) :
    ∃ rule ∈ tokenRules, rule.kind = kind ∧ rule.recognise cs = some n ∧
      rule.admits dialect (cs.drop n) = true := by
  obtain ⟨rule, hrule, hsome⟩ := List.exists_of_findSome?_eq_some h
  obtain ⟨m, hm, hpair⟩ := Option.map_eq_some_iff.mp hsome
  cases hpair
  obtain ⟨hrecognise, hadmits⟩ := Option.filter_eq_some_iff.mp hm
  exact ⟨rule, hrule, rfl, hrecognise, hadmits⟩

theorem tokenAt?_bounds (h : tokenAt? dialect cs = some (kind, n)) : 0 < n ∧ n ≤ cs.length := by
  obtain ⟨rule, hrule, -, hrecognise, -⟩ := exists_rule_of_tokenAt? h
  obtain ⟨hpos, hle, -⟩ := tokenRules_visible rule hrule cs n hrecognise
  exact ⟨hpos, hle⟩

theorem tokenAt?_head (h : tokenAt? dialect cs = some (kind, n)) :
    ∃ c rest, cs = c :: rest ∧ Text.isWhiteSpace c = false := by
  obtain ⟨rule, hrule, -, hrecognise, -⟩ := exists_rule_of_tokenAt? h
  obtain ⟨-, -, hhead⟩ := tokenRules_visible rule hrule cs n hrecognise
  exact hhead

theorem tokenAt?_kind_ne_end (h : tokenAt? dialect cs = some (kind, n)) : kind ≠ .endOfInput := by
  obtain ⟨rule, hrule, rfl, -⟩ := exists_rule_of_tokenAt? h
  exact tokenRules_kind_ne_end rule hrule

end

/-- The token was recognised at the front of some text. -/
def Token.Lexed (token : Token) : Prop :=
  ∃ dialect cs n, tokenAt? dialect cs = some (token.kind, n) ∧ token.lexeme.toList = cs.take n

theorem Token.Lexed.kind_ne_end {token : Token} (h : token.Lexed) : token.kind ≠ .endOfInput := by
  obtain ⟨dialect, cs, n, hat, -⟩ := h
  exact tokenAt?_kind_ne_end hat

/-! ## Single tokens of a stream -/

namespace Lexer

variable {dialect : Dialect} {cs : List Char} {offset : Nat} {finished : Bool}

theorem skipWhiteSpace_space {c : Char} (hc : Text.isWhiteSpace c = true) :
    skipWhiteSpace ⟨dialect, c :: cs, offset, finished⟩ =
      skipWhiteSpace ⟨dialect, cs, offset + c.utf8Size, finished⟩ := by
  simp [skipWhiteSpace, drop, hc, Nat.add_assoc]

theorem skipWhiteSpace_visible {c : Char} (hc : Text.isWhiteSpace c = false) :
    skipWhiteSpace ⟨dialect, c :: cs, offset, finished⟩ =
      ⟨dialect, c :: cs, offset, finished⟩ := by
  simp [skipWhiteSpace, drop, hc]

theorem nextToken_token {kind : TokenKind} {n : Nat} (h : tokenAt? dialect cs = some (kind, n)) :
    nextToken ⟨dialect, cs, offset, finished⟩ = (.ok ⟨kind, String.ofList (cs.take n), offset⟩,
      ⟨dialect, cs.drop n, offset + Text.utf8Length (cs.take n), finished⟩) := by
  obtain ⟨c, rest, rfl, hc⟩ := tokenAt?_head h
  rw [nextToken, skipWhiteSpace_visible hc]
  simp only [h, drop]

theorem nextToken_space {c : Char} (hc : Text.isWhiteSpace c = true) :
    nextToken ⟨dialect, c :: cs, offset, finished⟩ =
      nextToken ⟨dialect, cs, offset + c.utf8Size, finished⟩ := by
  rw [nextToken, skipWhiteSpace_space hc, nextToken]

theorem nextToken_failed {c : Char} (hc : Text.isWhiteSpace c = false)
    (h : tokenAt? dialect (c :: cs) = none) :
    nextToken ⟨dialect, c :: cs, offset, finished⟩ =
      (.error ⟨offset, c⟩, ⟨dialect, c :: cs, offset, finished⟩) := by
  rw [nextToken, skipWhiteSpace_visible hc]
  simp only [h]

/-- A step of the lexer ends the stream or comes from the rule table and shortens the rest. -/
theorem nextToken_cases (lexer : Lexer) :
    (∃ error lexer', lexer.nextToken = (.error error, lexer')) ∨
      (∃ end' lexer', lexer.nextToken = (.ok ⟨.endOfInput, "", end'⟩, lexer')) ∨
      ∃ token lexer', lexer.nextToken = (.ok token, lexer') ∧ token.Lexed ∧
        lexer'.rest.length < lexer.rest.length := by
  rw [nextToken]
  cases hrest : lexer.skipWhiteSpace.rest with
  | nil =>
      exact Or.inr (Or.inl ⟨_, _, rfl⟩)
  | cons c cs =>
      dsimp only
      cases hat : tokenAt? lexer.skipWhiteSpace.dialect (c :: cs) with
      | none => exact Or.inl ⟨_, _, rfl⟩
      | some found =>
          obtain ⟨kind, n⟩ := found
          obtain ⟨hpos, hle⟩ := tokenAt?_bounds hat
          refine Or.inr (Or.inr ⟨_, _, rfl, ⟨_, _, n, hat, String.toList_ofList⟩, ?_⟩)
          have hskip : (c :: cs).length ≤ lexer.rest.length := by
            rw [← hrest, skipWhiteSpace, drop, List.length_drop]
            exact Nat.sub_le _ _
          simp only [drop, hrest, List.length_drop]
          omega

/-! ## Whole streams -/

/-- Fuel beyond the length of the rest changes nothing. -/
theorem streamWithin_eq {fuel fuel' : Nat} {lexer : Lexer} (h : lexer.rest.length < fuel)
    (h' : lexer.rest.length < fuel') : streamWithin fuel lexer = streamWithin fuel' lexer := by
  induction fuel generalizing fuel' lexer with
  | zero => cases h
  | succ fuel ih =>
      obtain ⟨fuel', rfl⟩ : ∃ n, fuel' = n + 1 := ⟨fuel' - 1, by omega⟩
      rw [streamWithin, streamWithin]
      obtain ⟨error, lexer', hnext⟩ | ⟨offset, lexer', hnext⟩ | ⟨token, lexer', hnext, -, hlt⟩ :=
        lexer.nextToken_cases
      · rw [hnext]
      · rw [hnext]
        rfl
      · rw [hnext]
        dsimp only
        rw [ih (by omega) (by omega : lexer'.rest.length < fuel')]

theorem lexed_of_mem_streamWithin {token : Token} {fuel : Nat} {lexer : Lexer}
    (h : token ∈ (streamWithin fuel lexer).tokens) : token.Lexed := by
  induction fuel generalizing lexer with
  | zero => cases h
  | succ fuel ih =>
      rw [streamWithin] at h
      obtain ⟨error, lexer', hnext⟩ | ⟨offset, lexer', hnext⟩ | ⟨next, lexer', hnext, hlexed, -⟩ :=
        lexer.nextToken_cases
      · rw [hnext] at h
        cases h
      · rw [hnext] at h
        cases h
      · rw [hnext] at h
        dsimp only at h
        rw [if_neg hlexed.kind_ne_end] at h
        rcases List.mem_cons.mp h with rfl | h
        · exact hlexed
        · exact ih h

theorem lexed_of_mem_stream {token : Token} {lexer : Lexer} (h : token ∈ lexer.stream.tokens) :
    token.Lexed :=
  lexed_of_mem_streamWithin h

end Lexer

/-- The stream of the text `cs` in front of which `offset` bytes stand. -/
def streamAt (dialect : Dialect) (offset : Nat) (cs : List Char) : TokenStream :=
  Lexer.stream ⟨dialect, cs, offset, false⟩

namespace TokenStream

def prepend (ts : List Token) (s : TokenStream) : TokenStream :=
  { s with tokens := ts ++ s.tokens }

@[simp] theorem prepend_append (ts us : List Token) (s : TokenStream) :
    s.prepend (ts ++ us) = (s.prepend us).prepend ts := by
  simp [prepend]

end TokenStream

section

variable {dialect : Dialect} {cs : List Char} {offset : Nat}

theorem tokenize_eq_streamAt (dialect : Dialect) (text : String) :
    tokenize dialect text = streamAt dialect 0 text.toList := rfl

theorem streamAt_nil : streamAt dialect offset [] = ⟨[], .complete offset⟩ := rfl

theorem streamAt_token {kind : TokenKind} {n : Nat} (h : tokenAt? dialect cs = some (kind, n)) :
    streamAt dialect offset cs =
      (streamAt dialect (offset + Text.utf8Length (cs.take n)) (cs.drop n)).prepend
        [⟨kind, String.ofList (cs.take n), offset⟩] := by
  obtain ⟨hpos, hle⟩ := tokenAt?_bounds h
  rw [streamAt, Lexer.stream, Lexer.streamWithin, Lexer.nextToken_token h]
  dsimp only
  rw [if_neg (tokenAt?_kind_ne_end h)]
  have hfuel := @Lexer.streamWithin_eq cs.length ((cs.drop n).length + 1)
    ⟨dialect, cs.drop n, offset + Text.utf8Length (cs.take n), false⟩
    (by simp only [List.length_drop]; omega) (Nat.lt_succ_self _)
  rw [hfuel]
  rfl

theorem streamAt_space {c : Char} (hc : Text.isWhiteSpace c = true) :
    streamAt dialect offset (c :: cs) = streamAt dialect (offset + c.utf8Size) cs := by
  have hfuel := @Lexer.streamWithin_eq (cs.length + 1) (cs.length + 2)
    ⟨dialect, cs, offset + c.utf8Size, false⟩ (Nat.lt_succ_self _) (by simp)
  rw [streamAt, streamAt, Lexer.stream, Lexer.stream]
  dsimp only
  rw [hfuel, List.length_cons, Lexer.streamWithin, Lexer.nextToken_space hc]
  rfl

theorem streamAt_failed {c : Char} (hc : Text.isWhiteSpace c = false)
    (h : tokenAt? dialect (c :: cs) = none) :
    streamAt dialect offset (c :: cs) = ⟨[], .failed ⟨offset, c⟩⟩ := by
  rw [streamAt, Lexer.stream, Lexer.streamWithin, Lexer.nextToken_failed hc h]

/-- Induction along the tokens of a text, up to its end or to where no token starts. -/
@[elab_as_elim]
theorem lexing_induction (dialect : Dialect) {motive : List Char → Prop} (nil : motive [])
    (space : ∀ c cs, Text.isWhiteSpace c = true → motive cs → motive (c :: cs))
    (token : ∀ cs kind n, tokenAt? dialect cs = some (kind, n) → motive (cs.drop n) → motive cs)
    (failed : ∀ c cs, Text.isWhiteSpace c = false → tokenAt? dialect (c :: cs) = none →
      motive (c :: cs)) (cs : List Char) : motive cs := by
  induction hlength : cs.length using Nat.strongRecOn generalizing cs with
  | ind length ih =>
      cases cs with
      | nil => exact nil
      | cons c cs =>
          cases hspace : Text.isWhiteSpace c with
          | true => exact space c cs hspace (ih cs.length (by simp [← hlength]) cs rfl)
          | false =>
              cases hat : tokenAt? dialect (c :: cs) with
              | none => exact failed c cs hspace hat
              | some found =>
                  obtain ⟨kind, n⟩ := found
                  obtain ⟨hpos, hle⟩ := tokenAt?_bounds hat
                  have hlt : ((c :: cs).drop n).length < length := by
                    rw [List.length_drop]
                    omega
                  exact token _ kind n hat (ih _ hlt _ rfl)

/-- The text of a token in front of `after` is read as that token. -/
theorem streamAt_lexeme {lexeme after : List Char} {kind : TokenKind}
    (h : tokenAt? dialect (lexeme ++ after) = some (kind, lexeme.length)) :
    streamAt dialect offset (lexeme ++ after) =
      (streamAt dialect (offset + Text.utf8Length lexeme) after).prepend
        [⟨kind, String.ofList lexeme, offset⟩] := by
  rw [streamAt_token h, List.take_left, List.drop_left]

end

end RecordQuery
