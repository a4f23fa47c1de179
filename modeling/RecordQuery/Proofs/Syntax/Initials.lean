import RecordQuery.Proofs.Syntax.Recognisers

/-! # The first characters of tokens

The first character of a token tells which few rules of the table can apply.
Numerals, quoted literals and regular expressions have a rule each; symbols stand
among symbols, and keywords among keywords and bare identifiers.
-/

namespace RecordQuery

/-- What the first character of a token announces. -/
inductive Initial where
  | numeral
  /-- A keyword or a bare identifier. -/
  | word
  | quote
  | backtick
  | slash
  | symbol
  deriving DecidableEq

def symbolInitials : List Char :=
  ['(', ')', '[', ']', '!', '<', '>', '=', ',']

/-- What a character announces at the front of a token, if one can start with it. -/
def initial? (c : Char) : Option Initial :=
  if c = '-' ∨ isDigit c = true then some .numeral
  else if isIdentifierStart c = true then some .word
  else if c = '"' ∨ c = '\'' then some .quote
  else if c = '\x60' then some .backtick
  else if c = '/' then some .slash
  else if c ∈ symbolInitials then some .symbol
  else none

theorem isWhiteSpace_of_initial? {c : Char} {i : Initial} (h : initial? c = some i) :
    Text.isWhiteSpace c = false := by
  unfold initial? at h
  split at h
  · rename_i hc
    rcases hc with rfl | hc
    · decide
    · exact isWhiteSpace_of_isDigit hc
  split at h
  · rename_i hc
    exact Recognise.isWhiteSpace_of_isIdentifierStart hc
  split at h
  · rename_i hc
    rcases hc with rfl | rfl <;> decide
  split at h
  · rename_i hc
    exact hc ▸ by decide
  split at h
  · rename_i hc
    exact hc ▸ by decide
  split at h
  · rename_i hc
    simp only [symbolInitials, List.mem_cons, List.not_mem_nil, or_false] at hc
    rcases hc with rfl | rfl | rfl | rfl | rfl | rfl | rfl | rfl | rfl <;> decide
  · cases h

/-- What the texts of a rule start with. -/
def Rule.initial (rule : Rule) : Initial :=
  match rule.condition, rule.kind with
  | .wholeWord, _ | .extendedOnly, _ => .word
  | .always, .number => .numeral
  | .always, .string => .quote
  | .always, .key => .backtick
  | .always, .regexp => .slash
  | .always, _ => .symbol

/-! ## The rules behind a first character -/

def rulesFor (i : Initial) : List Rule :=
  tokenRules.filter (·.initial = i)

def symbols : List (TokenKind × String) :=
  [(.leftParen, "("), (.rightParen, ")"), (.leftBracket, "["), (.rightBracket, "]"),
    (.notEqual, "!="), (.notEqual, "<>"), (.equal, "=="), (.lessEqual, "<="),
    (.greaterEqual, ">="), (.less, "<"), (.greater, ">"), (.comma, ",")]

def keywords : List (TokenKind × List String) :=
  [(.boolean, ["TRUE", "FALSE"]), (.null, ["NULL", "NONE", "NIL"]), (.now, ["NOW"]),
    (.like, ["LIKE"]), (.matches, ["MATCH"]), (.contains, ["CONTAINS", "CONTAIN"]),
    (.within, ["IN"]), (.or, ["OR"]), (.and, ["AND"]), (.not, ["NOT"])]

theorem rulesFor_numeral : rulesFor .numeral = [⟨.number, .always, Recognise.numeral⟩] := rfl

theorem rulesFor_quote : rulesFor .quote = [⟨.string, .always, Recognise.string⟩] := rfl

theorem rulesFor_backtick : rulesFor .backtick = [⟨.key, .always, Recognise.key⟩] := rfl

theorem rulesFor_slash : rulesFor .slash = [⟨.regexp, .always, Recognise.regexp⟩] := rfl

theorem rulesFor_symbol :
    rulesFor .symbol = symbols.map fun entry => Rule.symbol entry.1 entry.2 := rfl

theorem rulesFor_word : rulesFor .word = (keywords.map fun entry => Rule.keyword entry.1 entry.2) ++
    [⟨.key, .extendedOnly, Recognise.identifier⟩] := rfl

theorem mem_rulesFor {rule : Rule} {i : Initial} :
    rule ∈ rulesFor i ↔ rule ∈ tokenRules ∧ rule.initial = i := by
  simp [rulesFor]

theorem initial_symbol {kind : TokenKind} {text : String} (h : (kind, text) ∈ symbols) :
    (Rule.symbol kind text).initial = .symbol := by
  have hmem : Rule.symbol kind text ∈ rulesFor .symbol := by
    rw [rulesFor_symbol]
    exact List.mem_map_of_mem h
  exact (mem_rulesFor.mp hmem).2

/-- Every rule is one of a literal, a keyword, a symbol or a bare identifier. -/
@[elab_as_elim]
theorem tokenRules_cases {motive : Rule → Prop}
    (numeral : motive ⟨.number, .always, Recognise.numeral⟩)
    (string : motive ⟨.string, .always, Recognise.string⟩)
    (key : motive ⟨.key, .always, Recognise.key⟩)
    (regexp : motive ⟨.regexp, .always, Recognise.regexp⟩)
    (symbol : ∀ kind text, (kind, text) ∈ symbols → motive (.symbol kind text))
    (keyword : ∀ kind words, (kind, words) ∈ keywords → motive (.keyword kind words))
    (identifier : motive ⟨.key, .extendedOnly, Recognise.identifier⟩)
    {rule : Rule} (hrule : rule ∈ tokenRules) : motive rule := by
  have hmem : rule ∈ rulesFor rule.initial := mem_rulesFor.mpr ⟨hrule, rfl⟩
  generalize rule.initial = i at hmem
  cases i with
  | numeral =>
      rw [rulesFor_numeral, List.mem_singleton] at hmem
      exact hmem ▸ numeral
  | quote =>
      rw [rulesFor_quote, List.mem_singleton] at hmem
      exact hmem ▸ string
  | backtick =>
      rw [rulesFor_backtick, List.mem_singleton] at hmem
      exact hmem ▸ key
  | slash =>
      rw [rulesFor_slash, List.mem_singleton] at hmem
      exact hmem ▸ regexp
  | symbol =>
      rw [rulesFor_symbol, List.mem_map] at hmem
      obtain ⟨⟨kind, text⟩, hentry, rfl⟩ := hmem
      exact symbol kind text hentry
  | word =>
      rw [rulesFor_word, List.mem_append, List.mem_map, List.mem_singleton] at hmem
      rcases hmem with ⟨⟨kind, words⟩, hentry, rfl⟩ | rfl
      · exact keyword kind words hentry
      · exact identifier

/-! ## What the rules start with -/

/-- Whether a word starts with a letter that case folding gives two forms, both in identifiers. -/
def startsIdentifier (w : String) : Bool :=
  w.toList.head?.any fun letter => isIdentifierStart letter && isIdentifierStart letter.toLower &&
    letter != 'K' && letter != 'S'

theorem keywords_start :
    ∀ entry ∈ keywords, ∀ w ∈ entry.2, startsIdentifier w = true := by
  decide

theorem symbols_start : ∀ entry ∈ symbols, ∃ first others, entry.2.toList = first :: others ∧
    initial? first = some .symbol := by
  simp only [symbols, List.forall_mem_cons]
  exact ⟨⟨_, _, rfl, by decide⟩, ⟨_, _, rfl, by decide⟩, ⟨_, _, rfl, by decide⟩,
    ⟨_, _, rfl, by decide⟩, ⟨_, _, rfl, by decide⟩, ⟨_, _, rfl, by decide⟩,
    ⟨_, _, rfl, by decide⟩, ⟨_, _, rfl, by decide⟩, ⟨_, _, rfl, by decide⟩,
    ⟨_, _, rfl, by decide⟩, ⟨_, _, rfl, by decide⟩, ⟨_, _, rfl, by decide⟩,
    List.forall_mem_nil _⟩

theorem isIdentifierChar_of_isIdentifierStart {c : Char} (h : isIdentifierStart c = true) :
    isIdentifierChar c = true := by
  simp only [isIdentifierStart, isIdentifierChar, Char.isAlphanum, Bool.or_eq_true] at h ⊢
  exact Or.inl (Or.inl (h.imp_left Or.inl))

theorem isDigit_eq_false_of_isIdentifierStart {c : Char} (h : isIdentifierStart c = true) :
    isDigit c = false := by
  rcases Recognise.isIdentifierStart_iff.mp h with hletter | rfl
  · rw [← Bool.not_eq_true, isDigit_iff]
    omega
  · decide

theorem initial?_of_isIdentifierStart {c : Char} (h : isIdentifierStart c = true) :
    initial? c = some .word := by
  have hdigit := isDigit_eq_false_of_isIdentifierStart h
  have hminus : c ≠ '-' := by
    rintro rfl
    exact absurd h (by decide)
  simp [initial?, hdigit, hminus, h]

theorem initial?_of_isInitial {words : List String}
    (hwords : ∀ w ∈ words, startsIdentifier w = true) {c : Char}
    (h : Recognise.IsInitial words c) : initial? c = some .word := by
  obtain ⟨w, hw, letter, hletter, hspells⟩ := h
  have hstart := hwords w hw
  rw [startsIdentifier, Option.mem_def.mp hletter, Option.any_some] at hstart
  simp only [Bool.and_eq_true, bne_iff_ne, ne_eq] at hstart
  obtain ⟨⟨⟨hcapital, hlower⟩, hK⟩, hS⟩ := hstart
  simp only [Recognise.spells, hK, hS, Bool.or_eq_true, beq_iff_eq, Bool.and_eq_true, false_and,
    or_false] at hspells
  rcases hspells with rfl | rfl
  · exact initial?_of_isIdentifierStart hcapital
  · exact initial?_of_isIdentifierStart hlower

theorem rule_startsWith {rule : Rule} (hrule : rule ∈ tokenRules) :
    Recognise.StartsWith (initial? · = some rule.initial) rule.recognise := by
  refine tokenRules_cases ?numeral ?string ?key ?regexp ?symbol ?keyword ?identifier hrule
  case numeral => exact Recognise.numeral_startsWith.mono fun c hc => if_pos hc
  case string =>
    refine Recognise.string_startsWith.mono fun c hc => ?_
    rcases hc with rfl | rfl <;> decide
  case key => exact Recognise.key_startsWith.mono fun c hc => hc ▸ by decide
  case regexp => exact Recognise.regexp_startsWith.mono fun c hc => hc ▸ by decide
  case symbol =>
    intro kind text hentry
    obtain ⟨first, others, htext, hfirst⟩ := symbols_start _ hentry
    rw [initial_symbol hentry, Rule.symbol, htext]
    exact (Recognise.exactly_startsWith first others).mono fun c hc => hc ▸ hfirst
  case keyword =>
    intro kind words hentry
    have hwords := keywords_start _ hentry
    refine (Recognise.anyWord_startsWith fun w hw hnil => ?_).mono fun c hc =>
      initial?_of_isInitial hwords hc
    have hstart := hwords w hw
    rw [startsIdentifier, hnil] at hstart
    cases hstart
  case identifier =>
    exact Recognise.identifier_startsWith.mono fun c hc => initial?_of_isIdentifierStart hc

/-! ## Tokens behind a first character -/

section

variable {rule : Rule} {dialect : Dialect} {c : Char} {cs : List Char} {n : Nat}

theorem initial?_of_length? (hrule : rule ∈ tokenRules) (h : rule.length? dialect cs = some n) :
    0 < n ∧ n ≤ cs.length ∧ ∃ c rest, cs = c :: rest ∧ initial? c = some rule.initial :=
  rule_startsWith hrule cs n (Option.filter_eq_some_iff.mp h).1

theorem length?_symbol (kind : TokenKind) (text : String) :
    (Rule.symbol kind text).length? dialect cs = Recognise.exactly text.toList cs := by
  cases h : Recognise.exactly text.toList cs <;> simp [Rule.length?, Rule.symbol, Rule.admits, h]

theorem length?_eq_none_of_initial? (hrule : rule ∈ tokenRules)
    (hc : initial? c ≠ some rule.initial) : rule.length? dialect (c :: cs) = none := by
  rw [Rule.length?, (rule_startsWith hrule).eq_none hc]
  rfl

theorem tokenAt?_of_initial? {i : Initial} (hc : initial? c = some i) :
    tokenAt? dialect (c :: cs) = (rulesFor i).findSome? fun rule =>
      (rule.length? dialect (c :: cs)).map (rule.kind, ·) := by
  rw [tokenAt?, rulesFor, ← List.head?_filterMap, ← List.head?_filterMap, List.filterMap_filter]
  refine congrArg List.head? (List.filterMap_congr fun rule hrule => ?_)
  split
  · rfl
  · rename_i hother
    have hc' : initial? c ≠ some rule.initial := fun hsome =>
      hother (decide_eq_true (Option.some.inj (hsome.symm.trans hc)))
    rw [length?_eq_none_of_initial? hrule hc']
    rfl

/-- Where the rules of its first character take the same, so does the lexer. -/
theorem tokenAt?_congr {i : Initial} {cs' : List Char} (hc : initial? c = some i)
    (h : ∀ rule ∈ rulesFor i, rule.length? dialect (c :: cs) = rule.length? dialect (c :: cs')) :
    tokenAt? dialect (c :: cs) = tokenAt? dialect (c :: cs') := by
  rw [tokenAt?_of_initial? hc, tokenAt?_of_initial? hc, ← List.head?_filterMap,
    ← List.head?_filterMap]
  refine congrArg List.head? (List.filterMap_congr fun rule hrule => ?_)
  rw [h rule hrule]

theorem tokenAt?_of_initial?_eq_none (hc : initial? c = none) :
    tokenAt? dialect (c :: cs) = none := by
  rw [tokenAt?, List.findSome?_eq_none_iff]
  intro rule hrule
  rw [length?_eq_none_of_initial? hrule (by simp [hc])]
  rfl

/-- The only rule of its first characters gives a token wherever it recognises a text. -/
theorem tokenAt?_of_rulesFor {i : Initial} (hrules : rulesFor i = [rule])
    (halways : rule.condition = .always) (h : rule.recognise cs = some n) :
    tokenAt? dialect cs = some (rule.kind, n) := by
  obtain ⟨hrule, rfl⟩ := mem_rulesFor.mp (hrules ▸ List.mem_singleton_self rule)
  obtain ⟨-, -, c, rest, rfl, hc⟩ := rule_startsWith hrule cs n h
  have hlength : rule.length? dialect (c :: rest) = some n := by
    simp [Rule.length?, Rule.admits, halways, h]
  rw [tokenAt?_of_initial? hc, hrules, List.findSome?_singleton, hlength]
  rfl

end

end RecordQuery
