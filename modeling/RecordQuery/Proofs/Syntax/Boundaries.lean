import RecordQuery.Proofs.Syntax.CanonicalTokens

/-! # Tokens in front of a boundary

No token of a text changes when another text is put behind it, if that one
starts with a character with which no token goes on, and if the rest of its
first line holds no slash that could close a regular expression.
-/

namespace RecordQuery

/--
Whether no token goes on with the character.  Besides identifiers there are the
operators of two characters, the signs of exponents, and the letters that only
case folding makes part of a keyword.
-/
def endsToken (c : Char) : Bool :=
  !isIdentifierChar c && !(['+', '=', '>', '\u212A', '\u017F'].contains c)

theorem endsToken_iff {c : Char} : endsToken c = true ↔
    isIdentifierChar c = false ∧ c ≠ '+' ∧ c ≠ '=' ∧ c ≠ '>' ∧ c ≠ '\u212A' ∧ c ≠ '\u017F' := by
  simp [endsToken]

/-- Whether no word goes on with the character, be it a keyword or a bare identifier. -/
def endsWord (c : Char) : Bool :=
  !isIdentifierChar c && !(['\u212A', '\u017F'].contains c)

theorem endsWord_iff {c : Char} : endsWord c = true ↔
    isIdentifierChar c = false ∧ c ≠ '\u212A' ∧ c ≠ '\u017F' := by
  simp [endsWord]

theorem endsWord_of_endsToken {c : Char} (h : endsToken c = true) : endsWord c = true := by
  obtain ⟨hchar, -, -, -, hkelvin, hlong⟩ := endsToken_iff.mp h
  exact endsWord_iff.mpr ⟨hchar, hkelvin, hlong⟩

theorem ne_of_endsToken {c d : Char} (h : endsToken c = true) (hd : endsToken d = false) :
    c ≠ d := by
  rintro rfl
  rw [h] at hd
  cases hd

theorem isIdentifierChar_of_isDigit {c : Char} (h : isDigit c = true) :
    isIdentifierChar c = true := by
  have hrange := isDigit_iff.mp h
  have hdigit : c.isDigit = true := by
    simp only [Char.isDigit, Bool.and_eq_true, decide_eq_true_eq, ge_iff_le,
      UInt32.le_iff_toNat_le]
    exact hrange
  simp [isIdentifierChar, Char.isAlphanum, hdigit]

theorem isDigit_of_endsToken {c : Char} (h : endsToken c = true) : isDigit c = false := by
  have hchar := (endsToken_iff.mp h).1
  cases hdigit : isDigit c with
  | false => rfl
  | true => rw [isIdentifierChar_of_isDigit hdigit] at hchar; cases hchar

/-- No case of a letter stands where a word ends. -/
theorem spells_of_endsWord {letter c : Char}
    (hletter : isIdentifierChar letter = true ∧ isIdentifierChar letter.toLower = true)
    (hc : endsWord c = true) : Recognise.spells letter c = false := by
  obtain ⟨hchar, hkelvin, hlong⟩ := endsWord_iff.mp hc
  rw [← Bool.not_eq_true]
  intro hspells
  rcases Recognise.spells_cases hspells with rfl | rfl | rfl | rfl
  · rw [hletter.1] at hchar
    cases hchar
  · rw [hletter.2] at hchar
    cases hchar
  · exact hkelvin rfl
  · exact hlong rfl

/-- Whether a word consists of letters that stand in identifiers, in either case. -/
def isSpelling (w : String) : Bool :=
  w.toList.all fun letter => isIdentifierChar letter && isIdentifierChar letter.toLower

/-- Whether a symbol has a first character, and others that only go on a symbol. -/
def isSymbol (text : String) : Bool :=
  !text.toList.isEmpty && text.toList.tail.all fun c => !endsToken c

theorem keywords_isSpelling : ∀ entry ∈ keywords, ∀ w ∈ entry.2, isSpelling w = true := by
  decide

theorem symbols_isSymbol : ∀ entry ∈ symbols, isSymbol entry.2 = true := by
  decide

/-- A text in front of which every token ends. -/
structure Boundary (after : List Char) : Prop where
  head : ∀ c ∈ after.head?, endsToken c = true
  line : ¬ Recognise.SlashAhead '/' after

section

variable {after : List Char} (hafter : ∀ c ∈ after.head?, endsToken c = true)

include hafter

/-! ## Numerals -/

theorem not_isDigit_of_head : ∀ c ∈ after.head?, isDigit c = false :=
  fun c hc => isDigit_of_endsToken (hafter c hc)

theorem head_append_ne {d : Char} (hd : endsToken d = false) (cs rest : List Char)
    (hcs : ∀ rest, cs ≠ d :: rest) : cs ++ after ≠ d :: rest := by
  cases cs with
  | nil =>
      intro h
      rw [List.nil_append] at h
      exact ne_of_endsToken (hafter d (by rw [h]; rfl)) hd rfl
  | cons c cs =>
      intro h
      exact hcs cs (by rw [(List.cons.inj h).1])

theorem splitWhole?_boundary (cs : List Char) :
    Numeral.splitWhole? (cs ++ after) =
      (Numeral.splitWhole? cs).map fun found => (found.1, found.2 ++ after) := by
  cases cs with
  | nil =>
      cases after with
      | nil => rfl
      | cons c after =>
          have hdigit := isDigit_of_endsToken (hafter c rfl)
          have hzero : c ≠ '0' := ne_of_endsToken (hafter c rfl) (by decide)
          simp [Numeral.splitWhole?, hdigit, hzero]
  | cons c cs =>
      have htake := takeWhile_append_of_head (not_isDigit_of_head hafter) cs
      have hdrop := dropWhile_append_of_head (not_isDigit_of_head hafter) cs
      simp only [List.cons_append, Numeral.splitWhole?, htake, hdrop]
      split_ifs <;> rfl

theorem splitFraction?_boundary (cs : List Char) :
    Numeral.splitFraction? (cs ++ after) =
      (Numeral.splitFraction? cs).map fun found => (found.1, found.2 ++ after) := by
  by_cases hpoint : ∃ rest, cs = '.' :: rest
  · obtain ⟨rest, rfl⟩ := hpoint
    have htake := takeWhile_append_of_head (not_isDigit_of_head hafter) rest
    have hdrop := dropWhile_append_of_head (not_isDigit_of_head hafter) rest
    simp only [List.cons_append, Numeral.splitFraction?, htake, hdrop]
    cases rest.takeWhile isDigit <;> rfl
  · have hcs : ∀ rest, cs ≠ '.' :: rest := fun rest h => hpoint ⟨rest, h⟩
    rw [Numeral.splitFraction?.eq_2 _ hcs,
      Numeral.splitFraction?.eq_2 _ fun rest => head_append_ne hafter (by decide) cs rest hcs]
    rfl

theorem exponentSplit?_boundary (cs : List Char) :
    ExponentPart.split? (cs ++ after) =
      (ExponentPart.split? cs).map fun found => (found.1, found.2 ++ after) := by
  cases cs with
  | nil =>
      have hnone : ExponentPart.split? after = none :=
        ExponentPart.split?_eq_none fun c hc =>
          ⟨ne_of_endsToken (hafter c hc) (by decide), ne_of_endsToken (hafter c hc) (by decide)⟩
      rw [List.nil_append, hnone]
      rfl
  | cons mark cs =>
      have htake := takeWhile_append_of_head (not_isDigit_of_head hafter)
      have hdrop := dropWhile_append_of_head (not_isDigit_of_head hafter)
      by_cases hplus : ∃ rest, cs = '+' :: rest
      · obtain ⟨rest, rfl⟩ := hplus
        simp only [List.cons_append, ExponentPart.split?, htake, hdrop]
        split_ifs <;> cases rest.takeWhile isDigit <;> rfl
      by_cases hminus : ∃ rest, cs = '-' :: rest
      · obtain ⟨rest, rfl⟩ := hminus
        simp only [List.cons_append, ExponentPart.split?, htake, hdrop]
        split_ifs <;> cases rest.takeWhile isDigit <;> rfl
      have hcsPlus : ∀ rest, cs ≠ '+' :: rest := fun rest h => hplus ⟨rest, h⟩
      have hcsMinus : ∀ rest, cs ≠ '-' :: rest := fun rest h => hminus ⟨rest, h⟩
      rw [List.cons_append, ExponentPart.split?.eq_4 _ _ hcsPlus hcsMinus,
        ExponentPart.split?.eq_4 _ _
          (fun rest => head_append_ne hafter (by decide) cs rest hcsPlus)
          fun rest => head_append_ne hafter (by decide) cs rest hcsMinus]
      simp only [htake, hdrop]
      split_ifs <;> cases cs.takeWhile isDigit <;> rfl

/-- A numeral is split off the same way, whatever stands behind the boundary. -/
theorem split?_boundary (cs : List Char) :
    Numeral.split? (cs ++ after) =
      (Numeral.split? cs).map fun found => (found.1, found.2 ++ after) := by
  by_cases hminus : ∃ rest, cs = '-' :: rest
  case' pos =>
    obtain ⟨rest, rfl⟩ := hminus
    rw [List.cons_append, Numeral.split?.eq_1, Numeral.split?.eq_1, splitWhole?_boundary hafter]
    generalize Numeral.splitWhole? rest = whole
  case' neg =>
    have hcs : ∀ rest, cs ≠ '-' :: rest := fun rest h => hminus ⟨rest, h⟩
    rw [Numeral.split?.eq_2 _ hcs,
      Numeral.split?.eq_2 _ fun rest => head_append_ne hafter (by decide) cs rest hcs,
      splitWhole?_boundary hafter]
    generalize Numeral.splitWhole? cs = whole
  all_goals
    cases whole with
    | none => rfl
    | some found =>
        obtain ⟨digits, rest⟩ := found
        simp only [Option.map_some, splitFraction?_boundary hafter]
        cases Numeral.splitFraction? rest with
        | none =>
            simp only [Option.map_none, exponentSplit?_boundary hafter]
            cases ExponentPart.split? rest <;> rfl
        | some fraction =>
            simp only [Option.map_some, exponentSplit?_boundary hafter]
            cases ExponentPart.split? fraction.2 <;> rfl

theorem numeral_boundary (cs : List Char) :
    Recognise.numeral (cs ++ after) = Recognise.numeral cs := by
  rw [Recognise.numeral, Recognise.numeral, split?_boundary hafter, Option.map_map]
  congr 1
  funext found
  simp only [Function.comp_apply, List.length_append]
  omega

/-! ## Symbols -/

theorem isPrefixOf_boundary {others : List Char}
    (hothers : ∀ c ∈ others, endsToken c = false) (cs : List Char) :
    others.isPrefixOf (cs ++ after) = others.isPrefixOf cs := by
  induction others generalizing cs with
  | nil => cases cs ++ after <;> cases cs <;> rfl
  | cons other others ih =>
      rw [List.forall_mem_cons] at hothers
      cases cs with
      | nil =>
          cases after with
          | nil => rfl
          | cons c after =>
              have hne : other ≠ c := (ne_of_endsToken (hafter c rfl) hothers.1).symm
              simp [List.isPrefixOf, hne]
      | cons c cs => simp only [List.cons_append, List.isPrefixOf, ih hothers.2]

/-- A symbol is found in a text that is not empty, whatever stands behind the boundary. -/
theorem exactly_boundary {text : String} (htext : isSymbol text = true) (c : Char)
    (cs : List Char) :
    Recognise.exactly text.toList (c :: cs ++ after) =
      Recognise.exactly text.toList (c :: cs) := by
  rw [isSymbol] at htext
  cases hchars : text.toList with
  | nil => simp [hchars] at htext
  | cons first others =>
      have hothers : ∀ c ∈ others, endsToken c = false := by simpa [hchars] using htext
      have hprefix : (first :: others).isPrefixOf (c :: cs ++ after) =
          (first :: others).isPrefixOf (c :: cs) := by
        simp only [List.cons_append, List.isPrefixOf, isPrefixOf_boundary hafter hothers]
      rw [Recognise.exactly, Recognise.exactly, hprefix]

/-- A symbol is what it is without the text behind the boundary. -/
theorem tokenAt?_symbol_boundary {dialect : Dialect} {c : Char} {cs : List Char}
    (hc : initial? c = some .symbol) :
    tokenAt? dialect (c :: cs ++ after) = tokenAt? dialect (c :: cs) := by
  refine tokenAt?_congr hc fun rule hmem => ?_
  rw [rulesFor_symbol, List.mem_map] at hmem
  obtain ⟨⟨kind, text⟩, hentry, rfl⟩ := hmem
  rw [length?_symbol, length?_symbol]
  exact exactly_boundary hafter (symbols_isSymbol _ hentry) c cs

end

/-! ## Words -/

section

variable {after : List Char} (hafter : ∀ c ∈ after.head?, endsWord c = true)

include hafter

theorem not_isIdentifierChar_of_head : ∀ c ∈ after.head?, isIdentifierChar c = false :=
  fun c hc => (endsWord_iff.mp (hafter c hc)).1

theorem word_boundary {letters : List Char} (hletters : ∀ letter ∈ letters,
      isIdentifierChar letter = true ∧ isIdentifierChar letter.toLower = true) (cs : List Char) :
    Recognise.word letters (cs ++ after) = Recognise.word letters cs := by
  induction letters generalizing cs with
  | nil => cases cs ++ after <;> cases cs <;> rfl
  | cons letter letters ih =>
      rw [List.forall_mem_cons] at hletters
      cases cs with
      | nil =>
          cases after with
          | nil => rfl
          | cons c after =>
              have hspells := spells_of_endsWord hletters.1 (hafter c rfl)
              simp [Recognise.word, hspells]
      | cons c cs => simp only [List.cons_append, Recognise.word, ih hletters.2]

theorem anyWord_boundary {words : List String} (hwords : ∀ w ∈ words, isSpelling w = true)
    (cs : List Char) : Recognise.anyWord words (cs ++ after) = Recognise.anyWord words cs := by
  induction words with
  | nil => rfl
  | cons w words ih =>
      rw [List.forall_mem_cons] at hwords
      have hletters : ∀ letter ∈ w.toList,
          isIdentifierChar letter = true ∧ isIdentifierChar letter.toLower = true := by
        intro letter hletter
        simpa using List.all_eq_true.mp hwords.1 letter hletter
      have hword := word_boundary hafter hletters cs
      simp only [Recognise.anyWord] at ih
      simp only [Recognise.anyWord, List.findSome?_cons, hword, ih hwords.2]

theorem identifier_boundary (c : Char) (cs : List Char) :
    Recognise.identifier (c :: cs ++ after) = Recognise.identifier (c :: cs) := by
  have htake := takeWhile_append_of_head (not_isIdentifierChar_of_head hafter) cs
  simp only [List.cons_append, Recognise.identifier, htake]

/-- What a rule admits where words end it admits at the end of the text. -/
theorem admits_boundary (rule : Rule) (dialect : Dialect) (rest : List Char) :
    rule.admits dialect (rest ++ after) = rule.admits dialect rest := by
  have hword : (rest ++ after).head?.any isIdentifierChar =
      rest.head?.any isIdentifierChar := by
    cases rest with
    | cons c rest => rfl
    | nil =>
        cases after with
        | nil => rfl
        | cons c after => simpa using not_isIdentifierChar_of_head hafter c rfl
  simp only [Rule.admits, hword]

theorem length?_boundary {rule : Rule} (dialect : Dialect) (cs : List Char)
    (hrule : rule ∈ tokenRules) (hrecognise : rule.recognise (cs ++ after) = rule.recognise cs) :
    rule.length? dialect (cs ++ after) = rule.length? dialect cs := by
  rw [Rule.length?, Rule.length?, hrecognise]
  cases hn : rule.recognise cs with
  | none => rfl
  | some n =>
      obtain ⟨-, hle, -⟩ := rule_startsWith hrule cs n hn
      simp only [Option.filter_some, List.drop_append_of_le_length hle, admits_boundary hafter]

/-- A keyword or a bare identifier is what it is without the text behind its end. -/
theorem tokenAt?_word_boundary {dialect : Dialect} {c : Char} {cs : List Char}
    (hc : initial? c = some .word) :
    tokenAt? dialect (c :: cs ++ after) = tokenAt? dialect (c :: cs) := by
  refine tokenAt?_congr hc fun rule hmem => ?_
  have hrule := (mem_rulesFor.mp hmem).1
  rw [rulesFor_word, List.mem_append, List.mem_map, List.mem_singleton] at hmem
  rcases hmem with ⟨⟨kind, words⟩, hentry, rfl⟩ | rfl
  · exact length?_boundary hafter dialect (c :: cs) hrule
      (anyWord_boundary hafter (keywords_isSpelling _ hentry) (c :: cs))
  · exact length?_boundary hafter dialect (c :: cs) hrule (identifier_boundary hafter c cs)

end

/-! ## Regular expressions -/

/-- A slash of two texts side by side is one of either. -/
theorem slashAhead_append {before : Char} {cs after : List Char}
    (h : Recognise.SlashAhead before (cs ++ after)) :
    Recognise.SlashAhead before cs ∨ ∃ c, Recognise.SlashAhead c after := by
  induction cs generalizing before with
  | nil => exact Or.inr ⟨before, h⟩
  | cons c cs ih =>
      rcases Recognise.slashAhead_cons.mp h with hslash | ⟨hc, hahead⟩
      · exact Or.inl (Recognise.slashAhead_cons.mpr (Or.inl hslash))
      · rcases ih hahead with hcs | hafter
        · exact Or.inl (Recognise.slashAhead_cons.mpr (Or.inr ⟨hc, hcs⟩))
        · exact Or.inr hafter

/-- Behind a slash a line has every slash that it has behind another character. -/
theorem slashAhead_of_slashAhead {before : Char} {cs : List Char}
    (h : Recognise.SlashAhead before cs) : Recognise.SlashAhead '/' cs := by
  cases cs with
  | nil =>
      obtain ⟨line, rest, hnil, -⟩ := h
      simp at hnil
  | cons c cs =>
      rcases Recognise.slashAhead_cons.mp h with ⟨rfl, -⟩ | hahead
      · exact Recognise.slashAhead_cons.mpr (Or.inl ⟨rfl, by decide⟩)
      · exact Recognise.slashAhead_cons.mpr (Or.inr hahead)

section

variable {after : List Char} (hafter : Boundary after)

include hafter

theorem lastSlash_boundary {before : Char} {cs : List Char}
    (h : Recognise.lastSlash before cs = none) :
    Recognise.lastSlash before (cs ++ after) = none := by
  have hcs : ¬ Recognise.SlashAhead before cs := by
    rw [← Recognise.lastSlash_isSome_iff, h]
    exact Bool.false_ne_true
  rw [← Option.not_isSome_iff_eq_none, Recognise.lastSlash_isSome_iff]
  intro hahead
  rcases slashAhead_append hahead with hahead | ⟨c, hahead⟩
  · exact hcs hahead
  · exact hafter.line (slashAhead_of_slashAhead hahead)

/-- A regular expression is closed where it was closed. -/
theorem regexp_boundary {cs : List Char} {n : Nat} (h : Recognise.regexp cs = some n) :
    Recognise.regexp (cs ++ after) = some n := by
  have hself := Recognise.regexp_take_append h (cs.drop n)
  rw [List.take_append_drop, h] at hself
  have hnone : Recognise.lastSlash '/' (cs.drop n) = none := by
    cases hlast : Recognise.lastSlash '/' (cs.drop n) with
    | none => rfl
    | some m =>
        have hpos := (Recognise.lastSlash_bounds hlast).1
        rw [hlast, Option.getD_some, Option.some.injEq] at hself
        omega
  have hall := Recognise.regexp_take_append h (cs.drop n ++ after)
  rw [← List.append_assoc, List.take_append_drop, lastSlash_boundary hafter hnone] at hall
  exact hall

/-! ## Tokens -/

/-- The token in front of a text is the same in front of the text and a boundary. -/
theorem tokenAt?_boundary {dialect : Dialect} {cs : List Char} {kind : TokenKind} {n : Nat}
    (h : tokenAt? dialect cs = some (kind, n)) :
    tokenAt? dialect (cs ++ after) = some (kind, n) := by
  have hsplit : cs.take n ++ (cs.drop n ++ after) = cs ++ after := by
    rw [← List.append_assoc, List.take_append_drop]
  have hword : ∀ c ∈ after.head?, endsWord c = true :=
    fun c hc => endsWord_of_endsToken (hafter.head c hc)
  obtain ⟨rule, hrule, rfl, hrecognise, -⟩ := exists_rule_of_tokenAt? h
  obtain ⟨-, -, c, rest, hcs, hc⟩ := rule_startsWith hrule cs n hrecognise
  revert h hrecognise hc
  refine tokenRules_cases ?numeral ?string ?key ?regexp ?symbol ?keyword ?identifier hrule
  case numeral =>
    intro _ hrecognise _
    have hnumeral := numeral_boundary hafter.head cs
    exact tokenAt?_of_rulesFor rulesFor_numeral rfl (hnumeral.trans hrecognise)
  case string =>
    intro _ hrecognise _
    exact tokenAt?_string (hsplit ▸ Recognise.string_take_append hrecognise _)
  case key =>
    intro _ hrecognise _
    exact tokenAt?_key (hsplit ▸ Recognise.quoted_take_append (by decide) hrecognise _)
  case regexp =>
    intro _ hrecognise _
    exact tokenAt?_regexp (regexp_boundary hafter hrecognise)
  case symbol =>
    intro kind text hentry h _ hc
    rw [initial_symbol hentry] at hc
    rw [← h, hcs, tokenAt?_symbol_boundary hafter.head hc]
  case keyword =>
    intro kind words _ h _ hc
    rw [← h, hcs, tokenAt?_word_boundary hword hc]
  case identifier =>
    intro h _ hc
    rw [← h, hcs, tokenAt?_word_boundary hword hc]

/-! ## Streams -/

/-- The tokens of a text that lexes to its end stand in front of those behind the boundary. -/
theorem streamAt_boundary {dialect : Dialect} {cs : List Char} {offset finish : Nat}
    (h : (streamAt dialect offset cs).ending = .complete finish) :
    streamAt dialect offset (cs ++ after) =
      (streamAt dialect (offset + Text.utf8Length cs) after).prepend
        (streamAt dialect offset cs).tokens := by
  induction cs using lexing_induction dialect generalizing offset with
  | nil => rfl
  | space c cs hc ih =>
      rw [streamAt_space hc] at h
      rw [List.cons_append, streamAt_space hc, streamAt_space hc, ih h, Text.utf8Length_cons,
        Nat.add_assoc]
  | token cs kind n hat ih =>
      have hle := (tokenAt?_bounds hat).2
      have hlength : Text.utf8Length cs =
          Text.utf8Length (cs.take n) + Text.utf8Length (cs.drop n) := by
        rw [← Text.utf8Length_append, List.take_append_drop]
      rw [streamAt_token hat] at h ⊢
      rw [streamAt_token (tokenAt?_boundary hafter hat), List.take_append_of_le_length hle,
        List.drop_append_of_le_length hle, ih h, hlength, ← Nat.add_assoc]
      exact (TokenStream.prepend_append _ _ _).symm
  | failed c cs hc hat =>
      rw [streamAt_failed hc hat] at h
      cases h

end

end RecordQuery
