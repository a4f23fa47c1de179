import RecordQuery.Proofs.Syntax.Tokenization

/-! # Dialects

The strict dialect reads the tokens of the extended one up to the first bare
identifier, where it fails.
-/

namespace RecordQuery

/-! ## Token rules -/

/-- The rules that both dialects have: all but the one for bare identifiers. -/
def commonRules : List Rule :=
  tokenRules.dropLast

theorem tokenRules_eq :
    tokenRules = commonRules ++ [⟨.key, .extendedOnly, Recognise.identifier⟩] := rfl

theorem commonRules_condition : ∀ rule ∈ commonRules, rule.condition ≠ .extendedOnly := by
  simp [commonRules, tokenRules, Rule.keyword, Rule.symbol]

theorem commonRules_key :
    ∀ rule ∈ commonRules, rule.kind = .key → rule.recognise = Recognise.key := by
  simp [commonRules, tokenRules, Rule.keyword, Rule.symbol]

section

variable {dialect : Dialect} {cs : List Char}

def commonToken? (cs : List Char) : Option (TokenKind × Nat) :=
  commonRules.findSome? fun rule => (rule.length? .extended cs).map (rule.kind, ·)

theorem length?_eq_extended {rule : Rule} (hrule : rule ∈ commonRules) :
    rule.length? dialect cs = rule.length? .extended cs := by
  have hcondition := commonRules_condition rule hrule
  unfold Rule.length? Rule.admits
  cases hrule : rule.condition with
  | always | wholeWord => rfl
  | extendedOnly => exact absurd hrule hcondition

/-- What no other rule takes is a bare identifier in the extended dialect only. -/
theorem tokenAt?_eq_or (dialect : Dialect) (cs : List Char) :
    tokenAt? dialect cs = (commonToken? cs).or
      (((Recognise.identifier cs).filter fun _ => dialect = .extended).map (.key, ·)) := by
  have hcommon : (commonRules.findSome? fun rule => (rule.length? dialect cs).map (rule.kind, ·)) =
      commonToken? cs := by
    rw [commonToken?, ← List.head?_filterMap, ← List.head?_filterMap]
    refine congrArg List.head? (List.filterMap_congr fun rule hrule => ?_)
    rw [length?_eq_extended hrule]
  rw [tokenAt?, tokenRules_eq, List.findSome?_append, hcommon, List.findSome?_singleton]
  rfl

theorem commonToken?_key {n : Nat} (h : commonToken? cs = some (.key, n)) :
    cs.head? = some '\x60' := by
  obtain ⟨rule, hrule, hsome⟩ := List.exists_of_findSome?_eq_some h
  obtain ⟨m, hm, hpair⟩ := Option.map_eq_some_iff.mp hsome
  obtain ⟨hrecognise, -⟩ := Option.filter_eq_some_iff.mp hm
  rw [commonRules_key rule hrule (Prod.mk.inj hpair).1] at hrecognise
  obtain ⟨-, -, c, rest, rfl, rfl⟩ := Recognise.key_startsWith cs m hrecognise
  rfl

/-- The strict dialect has no token where the extended one has a bare identifier. -/
theorem tokenAt?_strict (cs : List Char) :
    tokenAt? .strict cs = (tokenAt? .extended cs).filter fun found =>
      !(found.1 == .key && cs.head? != some '\x60') := by
  rw [tokenAt?_eq_or .strict, tokenAt?_eq_or .extended]
  cases hcommon : commonToken? cs with
  | some found =>
      obtain ⟨kind, n⟩ := found
      rw [Option.some_or, Option.some_or, Option.filter_some]
      by_cases hkind : kind = .key
      · subst hkind
        simp [commonToken?_key hcommon]
      · simp [hkind]
  | none =>
      cases hidentifier : Recognise.identifier cs with
      | none => rfl
      | some n =>
          obtain ⟨-, -, c, rest, rfl, hc⟩ := Recognise.identifier_startsWith cs n hidentifier
          have hne : c ≠ '\x60' := by
            rintro rfl
            exact absurd hc (by decide)
          rw [Option.none_or, Option.none_or, Option.filter_some, Option.filter_some]
          simp [hne, Option.filter_some]

end

/-! ## Streams -/

def Token.isBare (token : Token) : Bool :=
  token.kind == .key && token.lexeme.toList.head? != some '\x60'

/-- Tokens up to the first bare identifier, where no token starts in the strict dialect. -/
def strictTokens (ending : Ending) : List Token → TokenStream
  | [] => ⟨[], ending⟩
  | token :: ts =>
      if token.isBare then ⟨[], .failed ⟨token.offset, token.lexeme.toList.headD '\x60'⟩⟩
      else (strictTokens ending ts).prepend [token]

/-- The stream as the strict dialect has it. -/
def TokenStream.strict (s : TokenStream) : TokenStream :=
  strictTokens s.ending s.tokens

theorem TokenStream.strict_prepend_bare {token : Token} (h : token.isBare = true)
    (s : TokenStream) : (s.prepend [token]).strict =
      ⟨[], .failed ⟨token.offset, token.lexeme.toList.headD '\x60'⟩⟩ :=
  if_pos h

theorem TokenStream.strict_prepend {token : Token} (h : token.isBare = false)
    (s : TokenStream) : (s.prepend [token]).strict = s.strict.prepend [token] :=
  if_neg (by rw [h]; exact Bool.false_ne_true)

/-- The strict dialect reads the tokens of the extended one up to the first bare identifier. -/
theorem streamAt_strict (offset : Nat) (cs : List Char) :
    streamAt .strict offset cs = (streamAt .extended offset cs).strict := by
  induction cs using lexing_induction .extended generalizing offset with
  | nil => rfl
  | space c cs hc ih => rw [streamAt_space hc, streamAt_space hc, ih]
  | failed c cs hc hat =>
      have hstrict : tokenAt? .strict (c :: cs) = none := by
        rw [tokenAt?_strict, hat]
        rfl
      rw [streamAt_failed hc hat, streamAt_failed hc hstrict]
      rfl
  | token cs kind n hat ih =>
      have hstrict := tokenAt?_strict cs
      rw [hat, Option.filter_some] at hstrict
      obtain ⟨c, rest, rfl, hc⟩ := tokenAt?_head hat
      obtain ⟨hpos, hle⟩ := tokenAt?_bounds hat
      obtain ⟨n, rfl⟩ : ∃ m, n = m + 1 := ⟨n - 1, by omega⟩
      have hisBare : (⟨kind, String.ofList ((c :: rest).take (n + 1)), offset⟩ : Token).isBare =
          (kind == .key && (c :: rest).head? != some '\x60') := by
        simp [Token.isBare]
      rw [streamAt_token hat]
      cases hbare : kind == .key && (c :: rest).head? != some '\x60' with
      | true =>
          rw [hbare] at hstrict hisBare
          rw [streamAt_failed hc hstrict, TokenStream.strict_prepend_bare hisBare]
          simp
      | false =>
          rw [hbare] at hstrict hisBare
          rw [streamAt_token hstrict, ih, TokenStream.strict_prepend hisBare]

theorem tokenize_strict (text : String) :
    tokenize .strict text = (tokenize .extended text).strict :=
  streamAt_strict 0 text.toList

theorem TokenStream.strict_eq_self {s : TokenStream}
    (h : ∀ token ∈ s.tokens, token.isBare = false) : s.strict = s := by
  obtain ⟨ts, ending⟩ := s
  induction ts with
  | nil => rfl
  | cons token ts ih =>
      rw [List.forall_mem_cons] at h
      have hrest := ih h.2
      exact (strict_prepend h.1 ⟨ts, ending⟩).trans (congrArg (prepend [token]) hrest)

/-- A stream with a bare identifier in it fails in the strict dialect. -/
theorem TokenStream.strict_failed {s : TokenStream} {token : Token} (hmem : token ∈ s.tokens)
    (hbare : token.isBare = true) : ∃ error, s.strict.ending = .failed error := by
  obtain ⟨ts, ending⟩ := s
  induction ts with
  | nil => cases hmem
  | cons first ts ih =>
      cases hfirst : first.isBare with
      | true => exact ⟨_, congrArg TokenStream.ending (strict_prepend_bare hfirst ⟨ts, ending⟩)⟩
      | false =>
          rcases List.mem_cons.mp hmem with rfl | hmem
          · exact absurd hbare (by simp [hfirst])
          · obtain ⟨error, herror⟩ := ih hmem
            exact ⟨error, (congrArg TokenStream.ending
              (strict_prepend hfirst ⟨ts, ending⟩)).trans herror⟩

end RecordQuery
