import RecordQuery.Proofs.Syntax.Tokenization

/-! # Maximal munch

The first rule of the table that applies takes the longest text that any rule
takes there, and a keyword if there is one.  Rules that start with different
characters never apply together; of two symbols the earlier one is no beginning of
the later one; no keyword begins another; and a keyword is followed by no character
with which a bare identifier could go on.
-/

namespace RecordQuery

/-- The rule that the lexer takes at the front of a text: the first that applies. -/
def takenRule? (dialect : Dialect) (cs : List Char) : Option Rule :=
  tokenRules.find? fun rule => (rule.length? dialect cs).isSome

namespace Rule

/--
Wherever a later rule applies too, it takes no more, and is not that of a keyword.
-/
def Prevails (rule later : Rule) : Prop :=
  ∀ dialect cs n m, rule.length? dialect cs = some n → later.length? dialect cs = some m →
    m ≤ n ∧ later.condition ≠ .wholeWord

theorem recognise_of_length? {rule : Rule} {dialect : Dialect} {cs : List Char} {n : Nat}
    (h : rule.length? dialect cs = some n) : rule.recognise cs = some n :=
  (Option.filter_eq_some_iff.mp h).1

theorem prevails_of_initial_ne {rule later : Rule} (hrule : rule ∈ tokenRules)
    (hlater : later ∈ tokenRules) (hne : rule.initial ≠ later.initial) : rule.Prevails later := by
  intro dialect cs n m hn hm
  obtain ⟨-, -, c, rest, rfl, hc⟩ := initial?_of_length? hrule hn
  rw [length?_eq_none_of_initial? hlater fun hsome => hne (Option.some.inj (hc.symm.trans hsome))]
    at hm
  cases hm

/-! ## Symbols -/

/-- A symbol that is no beginning of a later one prevails over it. -/
theorem prevails_symbol {kind kind' : TokenKind} {text text' : String}
    (h : ¬ text.toList <+: text'.toList) :
    (symbol kind text).Prevails (symbol kind' text') := by
  intro dialect cs n m hn hm
  refine ⟨?_, nofun⟩
  obtain ⟨rfl, rest, hcs⟩ := Recognise.exactly_eq_some (recognise_of_length? hn)
  obtain ⟨rfl, rest', hcs'⟩ := Recognise.exactly_eq_some (recognise_of_length? hm)
  by_contra hlt
  exact h (List.prefix_of_prefix_length_le ⟨rest, hcs.symm⟩ ⟨rest', hcs'.symm⟩
    (Nat.le_of_not_le hlt))

theorem symbols_pairwise :
    symbols.Pairwise fun entry later => ¬ entry.2.toList <+: later.2.toList := by
  decide

/-! ## Keywords -/

/-- The capital letter that a character spells, with the third forms of K and S. -/
def capital (c : Char) : Char :=
  if c = '\u212A' then 'K' else if c = '\u017F' then 'S' else c.toUpper

/-- Whether a letter is the capital of both its cases. -/
def isCapital (letter : Char) : Bool :=
  capital letter == letter && capital letter.toLower == letter

theorem capital_of_spells {letter c : Char} (hletter : isCapital letter = true)
    (h : Recognise.spells letter c = true) : capital c = letter := by
  simp only [isCapital, Bool.and_eq_true, beq_iff_eq] at hletter
  simp only [Recognise.spells, Bool.or_eq_true, beq_iff_eq, Bool.and_eq_true] at h
  obtain ((rfl | rfl) | ⟨rfl, rfl⟩) | ⟨rfl, rfl⟩ := h
  · exact hletter.1
  · exact hletter.2
  · rfl
  · rfl

/-- A word that is spelled at the front of a text is what the text has there in capitals. -/
theorem prefix_of_word {letters cs : List Char} {n : Nat}
    (h : Recognise.word letters cs = some n)
    (hletters : ∀ letter ∈ letters, isCapital letter = true) : letters <+: cs.map capital := by
  induction letters generalizing cs n with
  | nil => exact List.nil_prefix
  | cons letter letters ih =>
      rw [List.forall_mem_cons] at hletters
      cases cs with
      | nil => cases h
      | cons c cs =>
          rw [Recognise.word] at h
          split at h
          · rename_i hspells
            obtain ⟨m, hm, -⟩ := Option.map_eq_some_iff.mp h
            rw [List.map_cons, capital_of_spells hletters.1 hspells]
            exact (List.prefix_cons_inj letter).mpr (ih hm hletters.2)
          · cases h

theorem keywords_capital :
    ∀ entry ∈ keywords, ∀ w ∈ entry.2, w.toList.all isCapital = true := by
  decide

def Apart (w w' : String) : Prop :=
  ¬ w.toList <+: w'.toList ∧ ¬ w'.toList <+: w.toList

instance (w w' : String) : Decidable (Apart w w') :=
  inferInstanceAs (Decidable (_ ∧ _))

theorem keywords_pairwise : keywords.Pairwise fun entry later =>
    ∀ w ∈ entry.2, ∀ w' ∈ later.2, Apart w w' := by
  decide +kernel

theorem exists_prefix_of_keyword {kind : TokenKind} {words : List String} {dialect : Dialect}
    {cs : List Char} {n : Nat} (hentry : (kind, words) ∈ keywords)
    (h : (keyword kind words).length? dialect cs = some n) :
    ∃ w ∈ words, w.toList <+: cs.map capital := by
  obtain ⟨w, hw, hword⟩ := List.exists_of_findSome?_eq_some (recognise_of_length? h)
  have hletters := List.all_eq_true.mp (keywords_capital _ hentry w hw)
  exact ⟨w, hw, prefix_of_word hword hletters⟩

/-- Two keywords are never spelled at one place. -/
theorem prevails_keyword {kind kind' : TokenKind} {words words' : List String}
    (hentry : (kind, words) ∈ keywords) (hentry' : (kind', words') ∈ keywords)
    (h : ∀ w ∈ words, ∀ w' ∈ words', Apart w w') :
    (keyword kind words).Prevails (keyword kind' words') := by
  intro dialect cs n m hn hm
  obtain ⟨w, hw, hprefix⟩ := exists_prefix_of_keyword hentry hn
  obtain ⟨w', hw', hprefix'⟩ := exists_prefix_of_keyword hentry' hm
  obtain ⟨hapart, hapart'⟩ := h w hw w' hw'
  rcases List.prefix_or_prefix_of_prefix hprefix hprefix' with hle | hle
  · exact absurd hle hapart
  · exact absurd hle hapart'

/-! ## Bare identifiers -/

/-- A bare identifier consists of identifier characters. -/
theorem isIdentifierChar_of_identifier {cs : List Char} {n i : Nat}
    (h : Recognise.identifier cs = some n) (hi : i < n) :
    ∃ c ∈ cs[i]?, isIdentifierChar c = true := by
  obtain ⟨-, -, first, rest, rfl, hstart⟩ := Recognise.identifier_startsWith cs n h
  rw [Recognise.identifier, if_pos hstart] at h
  cases h
  cases i with
  | zero => exact ⟨first, rfl, isIdentifierChar_of_isIdentifierStart hstart⟩
  | succ i =>
      have hlt : i < (rest.takeWhile isIdentifierChar).length := Nat.lt_of_succ_lt_succ hi
      have hprefix := List.takeWhile_prefix (l := rest) isIdentifierChar
      refine ⟨_, ?_, List.mem_takeWhile_imp (List.getElem_mem hlt)⟩
      rw [List.getElem?_cons_succ, Option.mem_def, hprefix.getElem hlt]
      exact List.getElem?_eq_getElem _

/-- A keyword that applies is not shorter than the bare identifier at its place. -/
theorem prevails_identifier (kind : TokenKind) (words : List String) :
    (keyword kind words).Prevails ⟨.key, .extendedOnly, Recognise.identifier⟩ := by
  intro dialect cs n m hn hm
  refine ⟨?_, nofun⟩
  obtain ⟨-, hadmits⟩ := Option.filter_eq_some_iff.mp hn
  by_contra hlt
  obtain ⟨c, hc, hchar⟩ := isIdentifierChar_of_identifier (recognise_of_length? hm)
    (Nat.lt_of_not_le hlt)
  rw [admits, keyword, List.head?_drop, Option.mem_def.mp hc] at hadmits
  simp [hchar] at hadmits

/-! ## The table -/

/-- Among the rules of one first character an earlier one prevails over a later one. -/
theorem rulesFor_pairwise (i : Initial) : (rulesFor i).Pairwise Prevails := by
  cases i with
  | numeral | quote | backtick | slash => exact List.pairwise_singleton _ _
  | symbol =>
      rw [rulesFor_symbol, List.pairwise_map]
      exact symbols_pairwise.imp prevails_symbol
  | word =>
      rw [rulesFor_word, List.pairwise_append, List.pairwise_map]
      refine ⟨?_, List.pairwise_singleton _ _, ?_⟩
      · refine keywords_pairwise.imp_of_mem fun hentry hlater h => ?_
        exact prevails_keyword hentry hlater h
      · rintro rule hrule later hlater
        obtain ⟨entry, -, rfl⟩ := List.mem_map.mp hrule
        obtain rfl := List.mem_singleton.mp hlater
        exact prevails_identifier _ _

end Rule

/-- A rule of the table prevails over all that stand behind it. -/
theorem tokenRules_pairwise : tokenRules.Pairwise Rule.Prevails := by
  rw [List.pairwise_iff_forall_sublist]
  intro rule later hsub
  by_cases hinitial : rule.initial = later.initial
  · have hpairwise := Rule.rulesFor_pairwise later.initial
    rw [rulesFor, List.pairwise_filter, List.pairwise_iff_forall_sublist] at hpairwise
    exact hpairwise hsub (decide_eq_true hinitial) (decide_eq_true rfl)
  · have hmem := hsub.subset
    exact Rule.prevails_of_initial_ne (hmem (by simp)) (hmem (by simp)) hinitial

/-! ## The rule that is taken -/

section

variable {dialect : Dialect} {cs : List Char} {rule taken : Rule} {n m : Nat}

theorem exists_takenRule? (hrule : rule ∈ tokenRules) (h : rule.length? dialect cs = some m) :
    ∃ taken n, takenRule? dialect cs = some taken ∧ taken.length? dialect cs = some n := by
  have hsome : (takenRule? dialect cs).isSome = true :=
    List.find?_isSome.mpr ⟨rule, hrule, by simp [h]⟩
  obtain ⟨taken, htaken⟩ := Option.isSome_iff_exists.mp hsome
  obtain ⟨happlies, -⟩ := List.find?_eq_some_iff_append.mp htaken
  obtain ⟨n, hn⟩ := Option.isSome_iff_exists.mp happlies
  exact ⟨taken, n, htaken, hn⟩

theorem tokenAt?_of_takenRule? (htaken : takenRule? dialect cs = some taken)
    (hn : taken.length? dialect cs = some n) : tokenAt? dialect cs = some (taken.kind, n) := by
  obtain ⟨-, earlier, later, hsplit, hearlier⟩ := List.find?_eq_some_iff_append.mp htaken
  have hnone : earlier.findSome? (fun rule =>
      (rule.length? dialect cs).map (rule.kind, ·)) = none := by
    rw [List.findSome?_eq_none_iff]
    intro rule hrule
    rw [Option.map_eq_none_iff]
    simpa using hearlier rule hrule
  rw [tokenAt?, hsplit, List.findSome?_append, hnone, Option.none_or, List.findSome?_cons, hn]
  rfl

/-- Beside the rule that is taken only shorter ones apply, or equally long ones of no keyword. -/
theorem takenRule?_prevails (htaken : takenRule? dialect cs = some taken)
    (hn : taken.length? dialect cs = some n) (hrule : rule ∈ tokenRules)
    (hm : rule.length? dialect cs = some m) :
    rule = taken ∨ m ≤ n ∧ rule.condition ≠ .wholeWord := by
  obtain ⟨-, earlier, later, hsplit, hearlier⟩ := List.find?_eq_some_iff_append.mp htaken
  have hpairwise := tokenRules_pairwise
  rw [hsplit] at hpairwise hrule
  rcases List.mem_append.mp hrule with hmem | hmem
  · have hnone := hearlier rule hmem
    rw [hm] at hnone
    cases hnone
  rcases List.mem_cons.mp hmem with rfl | hmem
  · exact Or.inl rfl
  · have hprevails := (List.pairwise_cons.mp (List.pairwise_append.mp hpairwise).2.1).1 rule hmem
    exact Or.inr (hprevails dialect cs n m hn hm)

end

/-- At the front of a text no rule takes more than this one, and no other keyword as much. -/
structure Rule.TakesLongest (rule : Rule) (dialect : Dialect) (cs : List Char) (n : Nat) :
    Prop where
  applies : rule.length? dialect cs = some n
  longest : ∀ other ∈ tokenRules, ∀ m, other.length? dialect cs = some m → m ≤ n
  keyword : ∀ other ∈ tokenRules, other.condition = .wholeWord →
    other.length? dialect cs = some n → other = rule

theorem takesLongest_of_takenRule? {dialect : Dialect} {cs : List Char} {taken : Rule} {n : Nat}
    (htaken : takenRule? dialect cs = some taken) (hn : taken.length? dialect cs = some n) :
    taken.TakesLongest dialect cs n where
  applies := hn
  longest other hother m hm := by
    rcases takenRule?_prevails htaken hn hother hm with rfl | ⟨hle, -⟩
    · exact (Option.some.inj (hm.symm.trans hn)).le
    · exact hle
  keyword other hother hcondition hm := by
    rcases takenRule?_prevails htaken hn hother hm with heq | ⟨-, hne⟩
    · exact heq
    · exact absurd hcondition hne

theorem Lexer.nextToken_skipWhiteSpace (lexer : Lexer) :
    lexer.skipWhiteSpace.nextToken = lexer.nextToken := by
  obtain ⟨dialect, cs, offset, finished⟩ := lexer
  induction cs generalizing offset with
  | nil => rfl
  | cons c cs ih =>
      cases hc : Text.isWhiteSpace c with
      | true => rw [skipWhiteSpace_space hc, nextToken_space hc, ih]
      | false => rw [skipWhiteSpace_visible hc]

/--
Where a rule applies, the lexer takes the first that does, which takes the longest
text, and is that of a keyword if a keyword is as long.  No rule applies at white
space, which is skipped as a whole, and where else none applies there is an error.
-/
theorem nextToken_takesLongest (dialect : Dialect) (cs : List Char) (offset : Nat)
    (finished : Bool) :
    (∀ rule ∈ tokenRules, ∀ m, rule.length? dialect cs = some m →
      ∃ taken n, takenRule? dialect cs = some taken ∧ taken.TakesLongest dialect cs n ∧
        Lexer.nextToken ⟨dialect, cs, offset, finished⟩ =
          (.ok ⟨taken.kind, String.ofList (cs.take n), offset⟩,
            ⟨dialect, cs.drop n, offset + Text.utf8Length (cs.take n), finished⟩)) ∧
      (∀ c rest, cs = c :: rest → Text.isWhiteSpace c = true →
        (∀ rule ∈ tokenRules, rule.length? dialect cs = none) ∧
          Lexer.nextToken ⟨dialect, cs, offset, finished⟩ =
            (Lexer.skipWhiteSpace ⟨dialect, cs, offset, finished⟩).nextToken) ∧
      ∀ c rest, cs = c :: rest → Text.isWhiteSpace c = false →
        (∀ rule ∈ tokenRules, rule.length? dialect cs = none) →
          Lexer.nextToken ⟨dialect, cs, offset, finished⟩ =
            (.error ⟨offset, c⟩, ⟨dialect, cs, offset, finished⟩) := by
  refine ⟨?applies, ?space, ?failed⟩
  case applies =>
    intro rule hrule m hm
    obtain ⟨taken, n, htaken, hn⟩ := exists_takenRule? hrule hm
    exact ⟨taken, n, htaken, takesLongest_of_takenRule? htaken hn,
      Lexer.nextToken_token (tokenAt?_of_takenRule? htaken hn)⟩
  case space =>
    rintro c rest rfl hc
    refine ⟨fun rule hrule => length?_eq_none_of_initial? hrule fun hinitial => ?_,
      (Lexer.nextToken_skipWhiteSpace _).symm⟩
    rw [isWhiteSpace_of_initial? hinitial] at hc
    cases hc
  case failed =>
    rintro c rest rfl hc hnone
    refine Lexer.nextToken_failed hc ?_
    rw [tokenAt?, List.findSome?_eq_none_iff]
    intro rule hrule
    rw [hnone rule hrule]
    rfl

/-- With a long s the keyword goes on where the bare identifier has seven characters. -/
theorem nextToken_takesLongest_of_longS :
    ∃ taken n, takenRule? .extended "CONTAIN\u017F x".toList = some taken ∧
      taken.TakesLongest .extended "CONTAIN\u017F x".toList n ∧ 7 < n := by
  have hidentifier : (⟨.key, .extendedOnly, Recognise.identifier⟩ : Rule).length? .extended
      "CONTAIN\u017F x".toList = some 7 := by decide
  have hkeyword : (Rule.keyword .contains ["CONTAINS", "CONTAIN"]).length? .extended
      "CONTAIN\u017F x".toList = some 8 := by decide
  have hmem : (⟨.key, .extendedOnly, Recognise.identifier⟩ : Rule) ∈ tokenRules ∧
      Rule.keyword .contains ["CONTAINS", "CONTAIN"] ∈ tokenRules := by
    simp [tokenRules]
  obtain ⟨taken, n, htaken, hlongest, -⟩ :=
    (nextToken_takesLongest .extended "CONTAIN\u017F x".toList 0 false).1 _ hmem.1 7 hidentifier
  exact ⟨taken, n, htaken, hlongest, hlongest.longest _ hmem.2 8 hkeyword⟩

end RecordQuery
