import RecordQuery.Proofs.Syntax.Dialects
import RecordQuery.Proofs.Syntax.Lookahead

/-! # Strict queries

What is a query in the strict dialect is one in the extended dialect, with the same
tree.  A query of the extended dialect alone fails in the strict one at its first bare
identifier: the tokens in front of it are those of both dialects, and they begin a query.
-/

namespace RecordQuery

theorem Token.Lexed.exists_head {token : Token} (h : token.Lexed) :
    ∃ c cs, token.lexeme.toList = c :: cs := by
  obtain ⟨dialect, cs, n, hat, hlexeme⟩ := h
  obtain ⟨hpos, hle⟩ := tokenAt?_bounds hat
  refine List.exists_cons_of_length_pos ?_
  rw [hlexeme, List.length_take]
  omega

/-! ## The first bare identifier -/

namespace TokenStream

/-- The error stands at the first bare identifier among the tokens. -/
def FirstBare (s : TokenStream) (fault : LexError) : Prop :=
  ∃ before key after, s.tokens = before ++ key :: after ∧
    (∀ token ∈ before, token.isBare = false) ∧ key.isBare = true ∧
    fault.offset = key.offset ∧ key.lexeme.toList.head? = some fault.found

/-- The strict dialect has the same stream, or it stops at the first bare identifier. -/
theorem strict_cases {s : TokenStream} (hlexed : ∀ token ∈ s.tokens, token.Lexed) :
    s.strict = s ∨ ∃ before rest fault, s.tokens = before ++ rest ∧ s.FirstBare fault ∧
      s.strict = ⟨before, .failed fault⟩ := by
  obtain ⟨ts, ending⟩ := s
  induction ts with
  | nil => exact Or.inl rfl
  | cons token ts ih =>
      rw [List.forall_mem_cons] at hlexed
      cases hbare : token.isBare with
      | true =>
          obtain ⟨c, cs, hlexeme⟩ := hlexed.1.exists_head
          have hstrict := strict_prepend_bare hbare ⟨ts, ending⟩
          rw [hlexeme, List.headD_cons] at hstrict
          exact Or.inr ⟨[], token :: ts, ⟨token.offset, c⟩, rfl,
            ⟨[], token, ts, rfl, List.forall_mem_nil _, hbare, rfl, by rw [hlexeme]; rfl⟩, hstrict⟩
      | false =>
          have hstrict := strict_prepend hbare ⟨ts, ending⟩
          rcases ih hlexed.2 with hsame | ⟨before, rest, fault, hrest, hfirst, hfailed⟩
          · rw [hsame] at hstrict
            exact Or.inl hstrict
          · obtain ⟨pre, key, after, htokens, hpre, hkey⟩ := hfirst
            rw [hfailed] at hstrict
            exact Or.inr ⟨token :: before, rest, fault, congrArg (token :: ·) hrest,
              ⟨token :: pre, key, after, congrArg (token :: ·) htokens,
                List.forall_mem_cons.mpr ⟨hbare, hpre⟩, hkey⟩, hstrict⟩

/-- If the tokens begin a query, nothing is wrong but that no token starts behind them. -/
theorem FirstFault.eq_lexical {ts : List Token} {fault : LexError} {error : SyntaxError}
    (h : FirstFault ⟨ts, .failed fault⟩ error) (hts : Begins Symbol.query.Phrase ts) :
    error = .lexical fault := by
  cases h with
  | @token read rest token expected htokens _ htoken =>
      dsimp only at htokens
      rw [htokens, List.append_cons] at hts
      exact absurd hts.of_append htoken
  | lexical hending =>
      cases hending
      rfl
  | ending hending => cases hending

end TokenStream

/-! ## Both dialects -/

/-- A text that stops being lexical is no query, and its first fault is reported. -/
theorem exists_parse_error {dialect : Dialect} {text : String} {ts : List Token}
    {fault : LexError} (h : tokenize dialect text = ⟨ts, .failed fault⟩) :
    ∃ error, parse dialect text = .error error ∧
      TokenStream.FirstFault ⟨ts, .failed fault⟩ error := by
  have hkinds : ∀ token ∈ ts, token.kind ≠ .endOfInput := by
    intro token htoken
    have hmem : token ∈ (tokenize dialect text).tokens := by rwa [h]
    exact (Lexer.lexed_of_mem_stream hmem).kind_ne_end
  rw [parse, h]
  cases ts with
  | nil => exact ⟨.lexical fault, rfl, .lexical rfl (Symbol.begins_nil .query)⟩
  | cons token rest =>
      have hreadable := TokenStream.readable_cons token rest (.failed fault)
      rw [TokenStream.opened_of_readable hreadable]
      cases hrun : Parse.query.run ⟨token :: rest, .failed fault⟩ with
      | error error s =>
          refine ⟨error, ?_, Parse.query_error hkinds hreadable hrun⟩
          simp only [bind, Except.bind, hrun]
      | ok found s =>
          cases found with
          | none =>
              exact absurd (Parse.current_of_query_none hrun) (hkinds token List.mem_cons_self)
          | some tree =>
              obtain ⟨⟨offset, hoffset⟩, -⟩ := Parse.query_sound hkinds hreadable hrun
              cases hoffset

theorem tokens_of_parse_eq_none {dialect : Dialect} {text : String}
    (h : parse dialect text = .ok none) : (tokenize dialect text).tokens = [] := by
  cases htokens : tokenize dialect text with
  | mk ts ending =>
      cases ending with
      | complete offset => exact (parse_eq_none_iff htokens).mp h
      | failed fault =>
          obtain ⟨error, herror, -⟩ := exists_parse_error htokens
          rw [h] at herror
          cases herror

/--
The extended dialect extends the strict one.  What is read in the strict dialect is
read in the extended one with the same result; what is read in the extended dialect
alone has a bare identifier, at the first of which the strict dialect fails.
-/
theorem parse_strict_extends (text : String) :
    (∀ found, parse .strict text = .ok found → parse .extended text = .ok found) ∧
    ∀ found error, parse .extended text = .ok found → parse .strict text = .error error →
      ∃ fault, error = .lexical fault ∧ (tokenize .extended text).FirstBare fault := by
  have hlexed : ∀ token ∈ (tokenize .extended text).tokens, token.Lexed :=
    fun _ htoken => Lexer.lexed_of_mem_stream htoken
  have hstrict := tokenize_strict text
  rcases TokenStream.strict_cases hlexed with hsame | ⟨before, rest, fault, hrest, hfirst, hfailed⟩
  · have hparse : parse .strict text = parse .extended text := by
      rw [parse, parse, hstrict, hsame]
    rw [hparse]
    refine ⟨fun _ => id, fun found error hfound herror => ?_⟩
    rw [hfound] at herror
    cases herror
  · rw [hfailed] at hstrict
    obtain ⟨error, hparse, hfault⟩ := exists_parse_error hstrict
    rw [hparse]
    refine ⟨fun found hfound => ?_, fun found error' hfound herror => ?_⟩
    · cases hfound
    · cases herror
      refine ⟨fault, hfault.eq_lexical ?_, hfirst⟩
      cases found with
      | none =>
          rw [tokens_of_parse_eq_none hfound] at hrest
          rw [(List.append_eq_nil_iff.mp hrest.symm).1]
          exact Symbol.begins_nil .query
      | some tree =>
          have hderives := (parse_eq_some_iff_derives.mp hfound).2
          exact ⟨rest, tree, hrest ▸ hderives⟩

/-- A key in backticks is read in both dialects; the bare one behind it only in the extended one. -/
theorem parse_strict_extends_of_bare_item :
    parse .strict "NOT \x60a\x60 IN ['b']" =
        .ok (some (.not (.comparison .within (.field "a") (.array [.string "'b'"])))) ∧
      parse .extended "NOT \x60a\x60 IN ['b']" =
        .ok (some (.not (.comparison .within (.field "a") (.array [.string "'b'"])))) ∧
      parse .extended "\x60é\x60 == no.x OR y" =
        .ok (some (.logical .or (.comparison .equal (.field "é") (.field "no.x"))
          (.field "y"))) ∧
      parse .strict "\x60é\x60 == no.x OR y" = .error (.lexical ⟨8, 'n'⟩) ∧
      ∃ fault, SyntaxError.lexical ⟨8, 'n'⟩ = .lexical fault ∧
        (tokenize .extended "\x60é\x60 == no.x OR y").FirstBare fault := by
  have hquoted : parse .strict "NOT \x60a\x60 IN ['b']" =
      .ok (some (.not (.comparison .within (.field "a") (.array [.string "'b'"])))) := by cbv
  have hextended : parse .extended "\x60é\x60 == no.x OR y" =
      .ok (some (.logical .or (.comparison .equal (.field "é") (.field "no.x"))
        (.field "y"))) := by cbv
  have hstrict : parse .strict "\x60é\x60 == no.x OR y" = .error (.lexical ⟨8, 'n'⟩) := by cbv
  exact ⟨hquoted, (parse_strict_extends _).1 _ hquoted, hextended, hstrict,
    (parse_strict_extends _).2 _ _ hextended hstrict⟩

end RecordQuery
