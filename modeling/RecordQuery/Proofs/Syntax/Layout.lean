import RecordQuery.Proofs.Syntax.Boundaries

/-! # Layout

The tokens of a text that lexes to its end are recognised by themselves, so they
can be laid out anew.  As long as each stands in front of a boundary, and nothing
but white space between them, they are the tokens of the new text.
-/

namespace RecordQuery

/-! ## Tokens by themselves -/

section

variable {dialect : Dialect} {cs : List Char} {kind : TokenKind} {n : Nat}

theorem not_isIdentifierChar_of_identifier (h : Recognise.identifier cs = some n) :
    ∀ c ∈ (cs.drop n).head?, isIdentifierChar c = false := by
  obtain ⟨-, -, first, rest, rfl, hstart⟩ := Recognise.identifier_startsWith cs n h
  rw [Recognise.identifier, if_pos hstart] at h
  cases h
  have hdrop : rest.drop (rest.takeWhile isIdentifierChar).length =
      rest.dropWhile isIdentifierChar := by
    conv => lhs; arg 2; rw [← List.takeWhile_append_dropWhile (p := isIdentifierChar) (l := rest)]
    rw [List.drop_left]
  intro c hc
  have hhead := List.head?_dropWhile_not isIdentifierChar rest
  rw [List.drop_succ_cons, hdrop, Option.mem_def] at hc
  rwa [hc] at hhead

theorem not_isIdentifierChar_of_wholeWord {rule : Rule} {rest : List Char}
    (hrule : rule.condition = .wholeWord) (h : rule.admits dialect rest = true) :
    ∀ c ∈ rest.head?, isIdentifierChar c = false := by
  intro c hc
  rw [Rule.admits, hrule, Option.mem_def.mp hc] at h
  simpa using h

/-- No symbol is a beginning of one behind it. -/
theorem findSome?_symbols : ∀ entry ∈ symbols,
    symbols.findSome? (fun other =>
      (Recognise.exactly other.2.toList entry.2.toList).map (other.1, ·)) =
        some (entry.1, entry.2.toList.length) := by
  decide

theorem tokenAt?_of_mem_symbols {text : String} (h : (kind, text) ∈ symbols) :
    tokenAt? dialect text.toList = some (kind, text.toList.length) := by
  obtain ⟨first, others, htext, hfirst⟩ := symbols_start _ h
  have hsymbol := findSome?_symbols _ h
  rw [htext] at hsymbol ⊢
  rw [tokenAt?_of_initial? hfirst, rulesFor_symbol, List.findSome?_map]
  simp only [Function.comp_def, length?_symbol]
  exact hsymbol

/-- A word that ends is read as it was in front of the rest of the text. -/
theorem tokenAt?_word_take {c : Char} (hc : initial? c = some .word)
    (h : tokenAt? dialect (c :: cs) = some (kind, n + 1))
    (hends : ∀ d ∈ (cs.drop n).head?, endsWord d = true) :
    tokenAt? dialect (c :: cs.take n) = some (kind, n + 1) := by
  rw [← tokenAt?_word_boundary hends hc, List.cons_append, List.take_append_drop, h]

/--
A token is recognised by its own characters.  A letter with which a keyword could go
on, but no bare identifier, must not follow: without it another rule might apply.
-/
theorem tokenAt?_take (h : tokenAt? dialect cs = some (kind, n))
    (hrest : ∀ c ∈ (cs.drop n).head?, c ≠ '\u212A' ∧ c ≠ '\u017F') :
    tokenAt? dialect (cs.take n) = some (kind, n) := by
  obtain ⟨rule, hrule, rfl, hrecognise, hadmits⟩ := exists_rule_of_tokenAt? h
  obtain ⟨hpos, -, c, rest, hcs, hc⟩ := rule_startsWith hrule cs n hrecognise
  have hword (hchar : ∀ c ∈ (cs.drop n).head?, isIdentifierChar c = false)
      (hc : initial? c = some .word) : tokenAt? dialect (cs.take n) = some (rule.kind, n) := by
    obtain ⟨m, rfl⟩ : ∃ m, n = m + 1 := ⟨n - 1, by omega⟩
    subst hcs
    exact tokenAt?_word_take hc h fun d hd =>
      endsWord_iff.mpr ⟨hchar d hd, hrest d hd⟩
  revert hword hrecognise hadmits hc
  clear h
  refine tokenRules_cases ?numeral ?string ?key ?regexp ?symbol ?keyword ?identifier hrule
  case numeral =>
    intro hrecognise _ _ _
    obtain ⟨⟨m, behind⟩, hsplit, rfl⟩ := Option.map_eq_some_iff.mp hrecognise
    obtain ⟨hm, htext⟩ := Numeral.split?_sound hsplit
    have hnumeral : tokenAt? dialect (m.text ++ []) = some (.number, m.text.length) :=
      tokenAt?_numeral hm nofun
    simpa [htext] using hnumeral
  case string =>
    intro hrecognise _ _ _
    have hstring := Recognise.string_take_append hrecognise []
    rw [List.append_nil] at hstring
    exact tokenAt?_string hstring
  case key =>
    intro hrecognise _ _ _
    have hkey := Recognise.quoted_take_append (by decide) hrecognise []
    rw [List.append_nil] at hkey
    exact tokenAt?_key hkey
  case regexp =>
    intro hrecognise _ _ _
    have hregexp := Recognise.regexp_take_append hrecognise []
    rw [List.append_nil] at hregexp
    exact tokenAt?_regexp hregexp
  case symbol =>
    intro kind text hentry hrecognise _ _ _
    obtain ⟨rfl, behind, rfl⟩ := Recognise.exactly_eq_some hrecognise
    rw [List.take_left]
    exact tokenAt?_of_mem_symbols hentry
  case keyword =>
    intro kind words _ _ hadmits hc hword
    exact hword (not_isIdentifierChar_of_wholeWord rfl hadmits) hc
  case identifier =>
    intro hrecognise _ hc hword
    exact hword (not_isIdentifierChar_of_identifier hrecognise) hc

end

/-! ## Words -/

/-- The tokens of a stream, without the places where they stand. -/
def TokenStream.words (s : TokenStream) : List (TokenKind × String) :=
  s.tokens.map fun token => (token.kind, token.lexeme)

@[simp] theorem TokenStream.words_prepend (ts : List Token) (s : TokenStream) :
    (s.prepend ts).words = ts.map (fun token => (token.kind, token.lexeme)) ++ s.words :=
  List.map_append

/-- The lexeme alone is lexed as a token of the kind. -/
def IsWord (dialect : Dialect) (word : TokenKind × String) : Prop :=
  tokenAt? dialect word.2.toList = some (word.1, word.2.toList.length)

/-- The front of a text that lexes to its end is white space or announces a token. -/
theorem initial?_of_complete {dialect : Dialect} {offset finish : Nat} {c : Char}
    {cs : List Char} (h : (streamAt dialect offset (c :: cs)).ending = .complete finish)
    (hc : Text.isWhiteSpace c = false) : initial? c ≠ none := by
  intro hnone
  rw [streamAt_failed hc (tokenAt?_of_initial?_eq_none hnone)] at h
  cases h

/-- The third forms of K and S start no token. -/
theorem head_ne_of_complete {dialect : Dialect} {offset finish : Nat} {cs : List Char}
    (h : (streamAt dialect offset cs).ending = .complete finish) :
    ∀ c ∈ cs.head?, c ≠ '\u212A' ∧ c ≠ '\u017F' := by
  intro c hc
  obtain ⟨rest, rfl⟩ := List.head?_eq_some_iff.mp hc
  constructor
  · rintro rfl
    exact initial?_of_complete h (by decide) (by decide)
  · rintro rfl
    exact initial?_of_complete h (by decide) (by decide)

/-- The tokens of a text that lexes to its end are words. -/
theorem isWord_of_mem_words {dialect : Dialect} {cs : List Char} {offset finish : Nat}
    (h : (streamAt dialect offset cs).ending = .complete finish) :
    ∀ word ∈ (streamAt dialect offset cs).words, IsWord dialect word := by
  induction cs using lexing_induction dialect generalizing offset with
  | nil => exact List.forall_mem_nil _
  | space c cs hc ih =>
      rw [streamAt_space hc] at h ⊢
      exact ih h
  | token cs kind n hat ih =>
      rw [streamAt_token hat] at h ⊢
      have hlength : (cs.take n).length = n := List.length_take_of_le (tokenAt?_bounds hat).2
      rw [TokenStream.words_prepend, List.map_singleton, List.singleton_append,
        List.forall_mem_cons]
      refine ⟨?_, ih h⟩
      rw [IsWord, String.toList_ofList, hlength]
      exact tokenAt?_take hat (head_ne_of_complete h)
  | failed c cs hc hat =>
      rw [streamAt_failed hc hat] at h
      cases h

/-! ## Laying words out -/

/-- The text consists of the words, each in front of a boundary, and white space between them. -/
inductive LaidOut : List (TokenKind × String) → List Char → Prop where
  | nil : LaidOut [] []
  | space {words cs} {c : Char} : Text.isWhiteSpace c = true → LaidOut words cs →
      LaidOut words (c :: cs)
  | word {kind words after} {lexeme : String} : Boundary after → LaidOut words after →
      LaidOut ((kind, lexeme) :: words) (lexeme.toList ++ after)

/-- Words that are laid out are what the lexer finds. -/
theorem LaidOut.words_streamAt {dialect : Dialect} {words : List (TokenKind × String)}
    {cs : List Char} (h : LaidOut words cs) (hwords : ∀ word ∈ words, IsWord dialect word)
    (offset : Nat) : (streamAt dialect offset cs).words = words ∧
      (streamAt dialect offset cs).ending = .complete (offset + Text.utf8Length cs) := by
  induction h generalizing offset with
  | nil => exact ⟨rfl, rfl⟩
  | space hc _ ih =>
      obtain ⟨hstream, hending⟩ := ih hwords (offset + _)
      rw [streamAt_space hc, Text.utf8Length_cons, ← Nat.add_assoc]
      exact ⟨hstream, hending⟩
  | @word kind words after lexeme hafter _ ih =>
      rw [List.forall_mem_cons] at hwords
      obtain ⟨hstream, hending⟩ := ih hwords.2 (offset + Text.utf8Length lexeme.toList)
      rw [streamAt_lexeme (tokenAt?_boundary hafter hwords.1), TokenStream.words_prepend, hstream,
        Text.utf8Length_append, ← Nat.add_assoc]
      exact ⟨by simp, hending⟩

theorem isWhiteSpace_of_isIdentifierChar {c : Char} (h : isIdentifierChar c = true) :
    Text.isWhiteSpace c = false := by
  simp only [isIdentifierChar, Char.isAlphanum, Bool.or_eq_true, beq_iff_eq] at h
  obtain (((halpha | hdigit) | rfl) | rfl) | rfl := h
  · exact Recognise.isWhiteSpace_of_isIdentifierStart (by simp [isIdentifierStart, halpha])
  · refine isWhiteSpace_of_isDigit (isDigit_iff.mpr ?_)
    simpa [Char.isDigit, UInt32.le_iff_toNat_le] using hdigit
  · decide
  · decide
  · decide

theorem endsToken_of_isWhiteSpace {c : Char} (h : Text.isWhiteSpace c = true) :
    endsToken c = true := by
  have hne {d : Char} (hd : Text.isWhiteSpace d = false) : c ≠ d := by
    rintro rfl
    rw [h] at hd
    cases hd
  have hchar : isIdentifierChar c = false := by
    rw [← Bool.not_eq_true]
    intro hchar
    rw [isWhiteSpace_of_isIdentifierChar hchar] at h
    cases h
  exact endsToken_iff.mpr ⟨hchar, hne (by decide), hne (by decide), hne (by decide),
    hne (by decide), hne (by decide)⟩

theorem boundary_of_whiteSpace {after : List Char}
    (h : ∀ c ∈ after, Text.isWhiteSpace c = true) : Boundary after where
  head c hc := endsToken_of_isWhiteSpace (h c (List.mem_of_mem_head? hc))
  line := by
    rintro ⟨line, rest, rfl, -⟩
    have hslash := h '/' (by simp)
    cases hslash

theorem boundary_of_lineBreak (after : List Char) : Boundary ('\n' :: after) where
  head := by simp [endsToken, isIdentifierChar]
  line := by simp [Recognise.slashAhead_cons]

theorem laidOut_whiteSpace {cs : List Char} (h : ∀ c ∈ cs, Text.isWhiteSpace c = true) :
    LaidOut [] cs := by
  induction cs with
  | nil => exact .nil
  | cons c cs ih =>
      rw [List.forall_mem_cons] at h
      exact .space h.1 (ih h.2)

/-- The lexemes of the words are on a line each, with white space behind the last. -/
theorem laidOut_lines {tail : String} (htail : ∀ c ∈ tail.toList, Text.isWhiteSpace c = true)
    (words : List (TokenKind × String)) :
    LaidOut words ("\n".intercalate (words.map Prod.snd) ++ tail).toList := by
  induction words with
  | nil =>
      rw [List.map_nil, String.intercalate_nil, String.empty_append]
      exact laidOut_whiteSpace htail
  | cons word words ih =>
      obtain ⟨kind, lexeme⟩ := word
      cases words with
      | nil =>
          rw [List.map_singleton, String.intercalate_singleton, String.toList_append]
          exact .word (boundary_of_whiteSpace htail) (laidOut_whiteSpace htail)
      | cons next words =>
          rw [List.map_cons] at ih
          rw [List.map_cons, List.map_cons, String.intercalate_cons_cons, String.append_assoc,
            String.append_assoc, String.toList_append, String.toList_append]
          exact .word (boundary_of_lineBreak _) (.space (by decide) ih)

/--
The tokens of a text that lexes to its end are found again where their lexemes are
joined by line breaks, with or without white space behind them, such as the line
break in front of the empty lexeme at the end.
-/
theorem tokenize_joined {dialect : Dialect} {text : String} {finish : Nat}
    (h : (tokenize dialect text).ending = .complete finish) {tail : String}
    (htail : ∀ c ∈ tail.toList, Text.isWhiteSpace c = true) :
    let joined := "\n".intercalate ((tokenize dialect text).tokens.map Token.lexeme) ++ tail
    (tokenize dialect joined).words = (tokenize dialect text).words ∧
      (tokenize dialect joined).ending = .complete joined.utf8ByteSize := by
  have hlexemes : (tokenize dialect text).tokens.map Token.lexeme =
      (tokenize dialect text).words.map Prod.snd := by
    simp [TokenStream.words]
  have hlines := laidOut_lines htail (tokenize dialect text).words
  obtain ⟨hwords, hending⟩ := hlines.words_streamAt (isWord_of_mem_words h) 0
  rw [← hlexemes, ← tokenize_eq_streamAt] at hwords hending
  rw [Nat.zero_add, Text.utf8Length_eq, String.ofList_toList] at hending
  exact ⟨hwords, hending⟩

/-- Glued tokens, a string of two lines and a regular expression come apart on their own lines. -/
theorem tokenize_joined_of_glued :
    (tokenize .extended "1e< >NOT'x\ny'/a/").ending = .complete 16 ∧
      (tokenize .extended "1\ne\n<\n>\nNOT\n'x\ny'\n/a/\n").words =
        [(.number, "1"), (.key, "e"), (.less, "<"), (.greater, ">"), (.not, "NOT"),
          (.string, "'x\ny'"), (.regexp, "/a/")] := by
  have htokens : (tokenize .extended "1e< >NOT'x\ny'/a/").tokens =
      [⟨.number, "1", 0⟩, ⟨.key, "e", 1⟩, ⟨.less, "<", 2⟩, ⟨.greater, ">", 4⟩, ⟨.not, "NOT", 5⟩,
        ⟨.string, "'x\ny'", 8⟩, ⟨.regexp, "/a/", 13⟩] := by cbv
  have hcomplete : (tokenize .extended "1e< >NOT'x\ny'/a/").ending = .complete 16 := by cbv
  have hbreak : ∀ c ∈ "\n".toList, Text.isWhiteSpace c = true :=
    List.forall_mem_singleton.mpr (by decide)
  have hjoined : "\n".intercalate ["1", "e", "<", ">", "NOT", "'x\ny'", "/a/"] ++ "\n" =
      "1\ne\n<\n>\nNOT\n'x\ny'\n/a/\n" := by
    simp
  have hwords := (tokenize_joined hcomplete hbreak).1
  rw [TokenStream.words, TokenStream.words, htokens] at hwords
  rw [← hjoined]
  exact ⟨hcomplete, hwords⟩

end RecordQuery
