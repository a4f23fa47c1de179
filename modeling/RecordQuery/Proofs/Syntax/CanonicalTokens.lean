import RecordQuery.Proofs.Syntax.Tokenization
import RecordQuery.Syntax.Canonical
import RecordQuery.Syntax.Parser

/-! # Tokens of canonical text

Each piece of canonical text is read as one token in front of everything that
can stand behind it there: a space, a comma or a closing bracket.
-/

namespace RecordQuery

/-- The text goes on with a space, a comma or a closing bracket, or not at all. -/
def Delimited (after : List Char) : Prop :=
  ∀ c ∈ after.head?, c = ' ' ∨ c = ',' ∨ c = ']' ∨ c = ')'

theorem delimited_nil : Delimited [] := by simp [Delimited]

theorem delimited_cons {c : Char} {after : List Char} :
    Delimited (c :: after) ↔ c = ' ' ∨ c = ',' ∨ c = ']' ∨ c = ')' := by
  simp [Delimited]

def Comparison.kind : Comparison → TokenKind
  | .equal => .equal
  | .notEqual => .notEqual
  | .less => .less
  | .lessEqual => .lessEqual
  | .greater => .greater
  | .greaterEqual => .greaterEqual
  | .within => .within
  | .contains => .contains
  | .like => .like
  | .matches => .matches

theorem comparison?_kind (op : Comparison) : Parse.comparison? op.kind = some op := by
  cases op <;> rfl

def Connective.kind : Connective → TokenKind
  | .and => .and
  | .or => .or

section

variable {after : List Char}

/-! ## Symbols and keywords -/

theorem tokenAt?_leftParen : tokenAt? .extended ('(' :: after) = some (.leftParen, 1) := rfl

theorem tokenAt?_rightParen : tokenAt? .extended (')' :: after) = some (.rightParen, 1) := rfl

theorem tokenAt?_leftBracket : tokenAt? .extended ('[' :: after) = some (.leftBracket, 1) := rfl

theorem tokenAt?_rightBracket : tokenAt? .extended (']' :: after) = some (.rightBracket, 1) := rfl

theorem tokenAt?_comma : tokenAt? .extended (',' :: after) = some (.comma, 1) := rfl

theorem tokenAt?_not : tokenAt? .extended ("NOT".toList ++ ' ' :: after) = some (.not, 3) := rfl

theorem tokenAt?_comparison (op : Comparison) :
    tokenAt? .extended (op.symbol.toList ++ ' ' :: after) =
      some (op.kind, op.symbol.toList.length) := by
  cases op <;> rfl

theorem tokenAt?_connective (op : Connective) :
    tokenAt? .extended (op.symbol.toList ++ ' ' :: after) =
      some (op.kind, op.symbol.toList.length) := by
  cases op <;> rfl

/-- A token with a fixed text is read in front of each delimiter. -/
theorem tokenAt?_delimited {lexeme : List Char} {found : TokenKind × Nat}
    (hend : tokenAt? .extended (lexeme ++ []) = some found)
    (hspace : ∀ rest, tokenAt? .extended (lexeme ++ ' ' :: rest) = some found)
    (hcomma : ∀ rest, tokenAt? .extended (lexeme ++ ',' :: rest) = some found)
    (hbracket : ∀ rest, tokenAt? .extended (lexeme ++ ']' :: rest) = some found)
    (hparen : ∀ rest, tokenAt? .extended (lexeme ++ ')' :: rest) = some found)
    (hafter : Delimited after) : tokenAt? .extended (lexeme ++ after) = some found := by
  cases after with
  | nil => exact hend
  | cons c rest =>
      rcases delimited_cons.mp hafter with rfl | rfl | rfl | rfl
      · exact hspace rest
      · exact hcomma rest
      · exact hbracket rest
      · exact hparen rest

/-- The literals that are words, and the kinds of their tokens. -/
def literalWords : List (String × TokenKind) :=
  [("TRUE", .boolean), ("FALSE", .boolean), ("NULL", .null), ("NOW", .now)]

theorem tokenAt?_literalWord {word : String} {kind : TokenKind} (h : (word, kind) ∈ literalWords)
    (hafter : Delimited after) :
    tokenAt? .extended (word.toList ++ after) = some (kind, word.toList.length) := by
  simp only [literalWords, List.mem_cons, List.not_mem_nil, or_false, Prod.mk.injEq] at h
  rcases h with ⟨rfl, rfl⟩ | ⟨rfl, rfl⟩ | ⟨rfl, rfl⟩ | ⟨rfl, rfl⟩ <;>
    exact tokenAt?_delimited rfl (fun _ => rfl) (fun _ => rfl) (fun _ => rfl) (fun _ => rfl) hafter

/-! ## Literals -/

theorem Delimited.ends (hafter : Delimited after) : Numeral.Ends after := by
  intro c hc
  rcases hafter c hc with rfl | rfl | rfl | rfl <;> decide

theorem tokenAt?_numeral {dialect : Dialect} {n : Numeral} (hn : n.WellFormed)
    (hafter : Numeral.Ends after) :
    tokenAt? dialect (n.text ++ after) = some (.number, n.text.length) := by
  have hrecognise : Recognise.numeral (n.text ++ after) = some n.text.length := by
    rw [Recognise.numeral, Numeral.split?_text hn hafter]
    simp
  exact tokenAt?_of_rulesFor rulesFor_numeral rfl hrecognise

theorem tokenAt?_string {dialect : Dialect} {cs : List Char} {n : Nat}
    (h : Recognise.string cs = some n) : tokenAt? dialect cs = some (.string, n) :=
  tokenAt?_of_rulesFor rulesFor_quote rfl h

theorem tokenAt?_key {dialect : Dialect} {cs : List Char} {n : Nat}
    (h : Recognise.key cs = some n) : tokenAt? dialect cs = some (.key, n) :=
  tokenAt?_of_rulesFor rulesFor_backtick rfl h

theorem tokenAt?_regexp {dialect : Dialect} {cs : List Char} {n : Nat}
    (h : Recognise.regexp cs = some n) : tokenAt? dialect cs = some (.regexp, n) :=
  tokenAt?_of_rulesFor rulesFor_slash rfl h

/-! ## Literals as they were written -/

/-- Where one recogniser makes all tokens of a kind, a token of that kind comes from it. -/
theorem recognise_of_tokenAt? {dialect : Dialect} {cs : List Char} {kind : TokenKind} {n : Nat}
    {recognise : List Char → Option Nat}
    (hrules : ∀ rule ∈ tokenRules, rule.kind = kind → rule.recognise = recognise)
    (h : tokenAt? dialect cs = some (kind, n)) : recognise cs = some n := by
  obtain ⟨rule, hrule, hkind, hrecognise, -⟩ := exists_rule_of_tokenAt? h
  rw [← hrules rule hrule hkind, hrecognise]

theorem Token.Lexed.length_take {token : Token} {dialect : Dialect} {cs : List Char} {n : Nat}
    (h : tokenAt? dialect cs = some (token.kind, n)) (htake : token.lexeme.toList = cs.take n) :
    token.lexeme.toList.length = n := by
  rw [htake, List.length_take, Nat.min_eq_left (tokenAt?_bounds h).2]

/-- A string is read as it was written, whatever stands behind it. -/
theorem Token.Lexed.tokenAt?_string {token : Token} (h : token.Lexed) (hkind : token.kind = .string)
    (after : List Char) : tokenAt? .extended (token.lexeme.toList ++ after) =
      some (.string, token.lexeme.toList.length) := by
  obtain ⟨dialect, cs, n, hat, htake⟩ := h
  rw [length_take hat htake, htake]
  rw [hkind] at hat
  have hstring : Recognise.string cs = some n :=
    recognise_of_tokenAt? (by simp [tokenRules, Rule.keyword, Rule.symbol]) hat
  exact RecordQuery.tokenAt?_string (Recognise.string_take_append hstring after)

/-- A regular expression reaches on to the last slash that can close it. -/
theorem Token.Lexed.tokenAt?_regexp {token : Token} (h : token.Lexed) (hkind : token.kind = .regexp)
    (after : List Char) : tokenAt? .extended (token.lexeme.toList ++ after) =
      some (.regexp, token.lexeme.toList.length + (Recognise.lastSlash '/' after).getD 0) := by
  obtain ⟨dialect, cs, n, hat, htake⟩ := h
  rw [length_take hat htake, htake]
  rw [hkind] at hat
  have hregexp : Recognise.regexp cs = some n :=
    recognise_of_tokenAt? (by simp [tokenRules, Rule.keyword, Rule.symbol]) hat
  exact RecordQuery.tokenAt?_regexp (Recognise.regexp_take_append hregexp after)

/-! ## Bare keys -/

/-- Whether the case of a letter folds once and no delimiter spells the letter. -/
def isKeywordLetter (letter : Char) : Bool :=
  letter.toLower.toLower == letter.toLower &&
    [' ', ',', ']', ')'].all fun c => !Recognise.spells letter c

theorem toLower_eq_of_spells {letter c : Char} (hletter : isKeywordLetter letter = true)
    (h : Recognise.spells letter c = true) (hc : isIdentifierChar c = true) :
    c.toLower = letter.toLower := by
  rw [isKeywordLetter, Bool.and_eq_true, beq_iff_eq] at hletter
  rcases Recognise.spells_cases h with rfl | rfl | rfl | rfl
  · rfl
  · exact hletter.1
  · cases hc
  · cases hc

/-- A word spelled at the front of a bare key is shorter than the key, or the whole of it. -/
theorem word_append {letters path : List Char} {n : Nat}
    (h : Recognise.word letters (path ++ after) = some n)
    (hpath : ∀ c ∈ path, isIdentifierChar c = true) (hafter : Delimited after)
    (hletters : letters.all isKeywordLetter = true) :
    n < path.length ∨ n = path.length ∧ path.map Char.toLower = letters.map Char.toLower := by
  induction letters generalizing path n with
  | nil =>
      cases h
      cases path with
      | nil => exact Or.inr ⟨rfl, rfl⟩
      | cons c path => exact Or.inl (Nat.succ_pos _)
  | cons letter letters ih =>
      rw [List.all_cons, Bool.and_eq_true] at hletters
      cases path with
      | nil =>
          cases after with
          | nil => cases h
          | cons c after =>
              have hc : c ∈ [' ', ',', ']', ')'] := by simpa using delimited_cons.mp hafter
              have hspells : Recognise.spells letter c = false := by
                have hdelimiters := (Bool.and_eq_true _ _ ▸ hletters.1).2
                simpa using List.all_eq_true.mp hdelimiters c hc
              rw [List.nil_append, Recognise.word, if_neg (by rw [hspells]; decide)] at h
              cases h
      | cons c path =>
          rw [List.forall_mem_cons] at hpath
          rw [List.cons_append, Recognise.word] at h
          split at h
          · rename_i hspells
            obtain ⟨m, hm, rfl⟩ := Option.map_eq_some_iff.mp h
            rcases ih hm hpath.2 hletters.2 with hlt | ⟨hlength, hmap⟩
            · exact Or.inl (Nat.succ_lt_succ hlt)
            · refine Or.inr ⟨congrArg (· + 1) hlength, ?_⟩
              have hlower := toLower_eq_of_spells hletters.1 hspells hpath.1
              rw [List.map_cons, List.map_cons, hmap, hlower]
          · cases h

/-- No keyword rule applies to a path that is no reserved word. -/
theorem length?_keyword_eq_none {kind : TokenKind} {words : List String} {path : List Char}
    (hpath : ∀ c ∈ path, isIdentifierChar c = true) (hafter : Delimited after)
    (hreserved : String.ofList (path.map Char.toLower) ∉ reservedWords)
    (hwords : ∀ w ∈ words, String.ofList (w.toList.map Char.toLower) ∈ reservedWords ∧
      w.toList.all isKeywordLetter = true) :
    (Rule.keyword kind words).length? .extended (path ++ after) = none := by
  rw [Rule.length?, Option.filter_eq_none_iff]
  intro n hn hadmits
  obtain ⟨w, hw, hword⟩ := List.exists_of_findSome?_eq_some hn
  rcases word_append hword hpath hafter (hwords w hw).2 with hlt | ⟨-, hmap⟩
  · have hhead : ((path ++ after).drop n).head? = some path[n] := by
      rw [List.head?_drop, List.getElem?_append_left hlt, List.getElem?_eq_getElem hlt]
    have hchar : isIdentifierChar path[n] = true := hpath _ (List.getElem_mem hlt)
    simp [Rule.admits, Rule.keyword, hhead, hchar] at hadmits
  · exact hreserved (hmap ▸ (hwords w hw).1)

theorem isBareKey_cons {c : Char} {cs : List Char} : isBareKey (c :: cs) = true ↔
    isIdentifierStart c = true ∧ (∀ d ∈ cs, isIdentifierChar d = true) ∧
      String.ofList ((c :: cs).map Char.toLower) ∉ reservedWords := by
  simp only [isBareKey, Bool.and_eq_true, List.all_eq_true, Bool.not_eq_true',
    List.contains_eq_mem, decide_eq_false_iff_not, and_assoc]

theorem keywords_reserved : ∀ entry ∈ keywords, ∀ w ∈ entry.2,
    String.ofList (w.toList.map Char.toLower) ∈ reservedWords ∧
      w.toList.all isKeywordLetter = true := by
  decide

/-- A path that can be written bare is read as a key. -/
theorem tokenAt?_bare {path : List Char} (hbare : isBareKey path = true)
    (hafter : Delimited after) :
    tokenAt? .extended (path ++ after) = some (.key, path.length) := by
  cases path with
  | nil => cases hbare
  | cons c cs =>
      obtain ⟨hstart, hchars, hreserved⟩ := isBareKey_cons.mp hbare
      have hpath : ∀ d ∈ c :: cs, isIdentifierChar d = true := by
        rw [List.forall_mem_cons]
        exact ⟨isIdentifierChar_of_isIdentifierStart hstart, hchars⟩
      have hends : ∀ d ∈ after.head?, isIdentifierChar d = false := by
        intro d hd
        rcases hafter d hd with rfl | rfl | rfl | rfl <;> decide
      have hkeywords : (keywords.map fun entry => Rule.keyword entry.1 entry.2).findSome?
          (fun rule => (rule.length? .extended (c :: cs ++ after)).map (rule.kind, ·)) = none := by
        rw [List.findSome?_eq_none_iff]
        intro rule hrule
        obtain ⟨entry, hentry, rfl⟩ := List.mem_map.mp hrule
        rw [length?_keyword_eq_none hpath hafter hreserved (keywords_reserved entry hentry)]
        rfl
      have hidentifier : Recognise.identifier (c :: cs ++ after) = some (cs.length + 1) := by
        rw [List.cons_append, Recognise.identifier, if_pos hstart,
          takeWhile_append_eq hends hchars]
      rw [List.cons_append] at hkeywords hidentifier ⊢
      rw [tokenAt?_of_initial? (initial?_of_isIdentifierStart hstart), rulesFor_word,
        List.findSome?_append, hkeywords, Option.none_or, List.findSome?_singleton]
      exact (congrArg (Option.map _) (congrArg (Option.filter _) hidentifier)).trans rfl

/-! ## Keys in backticks -/

def escapedKey (path : List Char) : List Char :=
  path.flatMap fun c => if c = '\x60' ∨ c = '\\' then ['\\', c] else [c]

theorem escapedKey_of_special {c : Char} (hc : c = '\x60' ∨ c = '\\') (path : List Char) :
    escapedKey (c :: path) = '\\' :: c :: escapedKey path := by
  simp [escapedKey, hc]

theorem escapedKey_of_plain {c : Char} (hc : ¬ (c = '\x60' ∨ c = '\\')) (path : List Char) :
    escapedKey (c :: path) = c :: escapedKey path := by
  simp [escapedKey, hc]

theorem backticked_eq (path : List Char) :
    backticked path = '\x60' :: (escapedKey path ++ ['\x60']) := rfl

theorem quotedRest_escapedKey (path after : List Char) :
    Recognise.quotedRest '\x60' Recognise.keyEscapes (escapedKey path ++ '\x60' :: after) =
      some ((escapedKey path).length + 1) := by
  induction path with
  | nil => exact Recognise.quotedRest_delimiter
  | cons c path ih =>
      by_cases hc : c = '\x60' ∨ c = '\\'
      · have hu : c ≠ 'u' := by rcases hc with rfl | rfl <;> decide
        have hmem : c ∈ Recognise.keyEscapes := by rcases hc with rfl | rfl <;> decide
        rw [escapedKey_of_special hc, List.cons_append, List.cons_append,
          Recognise.quotedRest_escape (by decide) hu hmem, ih]
        rfl
      · obtain ⟨hbacktick, hbackslash⟩ := not_or.mp hc
        rw [escapedKey_of_plain hc, List.cons_append,
          Recognise.quotedRest_plain hbacktick hbackslash, ih]
        rfl

theorem tokenAt?_backticked (path after : List Char) :
    tokenAt? .extended (backticked path ++ after) = some (.key, (backticked path).length) := by
  refine tokenAt?_key ?_
  have hsplit : backticked path ++ after = '\x60' :: (escapedKey path ++ '\x60' :: after) := by
    simp [backticked_eq]
  rw [hsplit, Recognise.key, Recognise.quoted, if_pos rfl, quotedRest_escapedKey, backticked_eq]
  simp

theorem decodeFrom_escapedKey (path : List Char) :
    Literal.decodeFrom 0 (escapedKey path) = path := by
  induction path with
  | nil => rfl
  | cons c path ih =>
      by_cases hc : c = '\x60' ∨ c = '\\'
      · have hescape : Literal.escape (c :: escapedKey path) = ([c], 1) := by
          rcases hc with rfl | rfl <;> rfl
        rw [escapedKey_of_special hc, Literal.decodeFrom]
        simp only [if_true, hescape, Literal.decodeFrom, ih, List.singleton_append]
      · obtain ⟨-, hbackslash⟩ := not_or.mp hc
        rw [escapedKey_of_plain hc, Literal.decodeFrom]
        simp only [if_neg hbackslash, ih]

/-- A key in backticks names the path that was escaped. -/
theorem keyPath_backticked (path : String) :
    Parse.keyPath (String.ofList (backticked path.toList)) = path := by
  have hhead : (String.ofList (backticked path.toList)).toList.head? = some '\x60' := by
    rw [String.toList_ofList]
    rfl
  rw [Parse.keyPath, if_pos hhead, Literal.unquote, String.toList_ofList, backticked_eq]
  simp [Literal.stripDelimiters, decodeFrom_escapedKey]

theorem keyPath_bare {path : String} (hbare : isBareKey path.toList = true) :
    Parse.keyPath path = path := by
  rw [Parse.keyPath, if_neg]
  intro hhead
  cases hchars : path.toList with
  | nil =>
      rw [hchars] at hhead
      cases hhead
  | cons c cs =>
      rw [hchars] at hbare hhead
      cases hhead
      exact absurd (isBareKey_cons.mp hbare).1 (by decide)

end

end RecordQuery
