import RecordQuery.Proofs.Syntax.ParserSound

/-! # Failures of the parser

The tokens that the parser took before it failed begin a query, and so do they
with the token behind which the text stops being lexical.
-/

namespace RecordQuery

/-! ## Beginnings -/

/-- The tokens are the first of some that have the property. -/
def Begins (P : List Token → Prop) (ts : List Token) : Prop :=
  ∃ more, P (ts ++ more)

/-- The tokens derive a tree. -/
def Symbol.Phrase (symbol : Symbol) (ts : List Token) : Prop :=
  ∃ tree, Derives symbol ts tree

def ClosedItems (ts : List Token) : Prop :=
  ∃ body trees last, ts = body ++ [last] ∧ Derives .items body (.array trees) ∧
    last.kind = .rightBracket

/-- An operand that may stand to the right of the comparison. -/
def Comparison.RightOperand (op : Comparison) (ts : List Token) : Prop :=
  ∃ first rest tree, ts = first :: rest ∧ Derives .operand ts tree ∧ op.takes first.kind = true

section

variable {P Q : List Token → Prop} {ts us : List Token}

theorem begins_of_self (h : P ts) : Begins P ts :=
  ⟨[], by rwa [List.append_nil]⟩

theorem Begins.of_append (h : Begins P (ts ++ us)) : Begins P ts := by
  obtain ⟨more, hmore⟩ := h
  exact ⟨us ++ more, by rwa [← List.append_assoc]⟩

/-- What begins a part begins the whole, if the whole can be completed behind every such part. -/
theorem Begins.map (h : Begins P us) (hmap : ∀ vs, P vs → Begins Q (ts ++ vs)) :
    Begins Q (ts ++ us) := by
  obtain ⟨more, hmore⟩ := h
  exact (ts.append_assoc us more ▸ hmap _ hmore).of_append

end

/-! ### Samples

A string can stand for an operand nearly everywhere; only a search wants a
regular expression on its right.
-/

def sampleString : Token := ⟨.string, "''", 0⟩

def sampleRegexp : Token := ⟨.regexp, "//", 0⟩

def sampleBracket : Token := ⟨.rightBracket, "]", 0⟩

def sampleParen : Token := ⟨.rightParen, ")", 0⟩

theorem derives_sampleString : Derives .operand [sampleString] (.string "''") := .leaf rfl

theorem Symbol.begins_nil (symbol : Symbol) : Begins symbol.Phrase [] := by
  have hunary : Derives .unary [sampleString] (.string "''") :=
    .positive (.single (.bare derives_sampleString))
  refine ⟨[sampleString], ?_⟩
  cases symbol with
  | operand => exact ⟨_, derives_sampleString⟩
  | items => exact ⟨_, .lastItem derives_sampleString⟩
  | condition => exact ⟨_, .bare derives_sampleString⟩
  | primary => exact ⟨_, .single (.bare derives_sampleString)⟩
  | unary => exact ⟨_, hunary⟩
  | conjunction => exact ⟨_, .conjunct hunary⟩
  | query => exact ⟨_, .disjunct (.conjunct hunary)⟩

theorem begins_closedItems {body : List Token} {trees : List Expr}
    (h : Derives .items body (.array trees)) : Begins ClosedItems body :=
  ⟨[sampleBracket], body, trees, sampleBracket, rfl, h, rfl⟩

theorem begins_closedItems_nil : Begins ClosedItems [] :=
  Begins.of_append (begins_closedItems (.lastItem derives_sampleString))

theorem Comparison.begins_nil (op : Comparison) : Begins op.RightOperand [] := by
  cases op with
  | «matches» => exact ⟨[sampleRegexp], sampleRegexp, [], .regexp "//", rfl, .leaf rfl, rfl⟩
  | equal | notEqual | less | lessEqual | greater | greaterEqual | contains | within | like =>
      exact ⟨[sampleString], sampleString, [], _, rfl, derives_sampleString, rfl⟩

/-! ### Productions -/

section

variable {first token comma : Token} {ts us : List Token} {tree left : Expr} {op : Comparison}

theorem begins_array (hfirst : first.kind = .leftBracket) (h : Begins ClosedItems us) :
    Begins Symbol.operand.Phrase ([first] ++ us) := by
  refine h.map ?_
  rintro _ ⟨body, trees, last, rfl, hitems, hlast⟩
  exact begins_of_self ⟨_, .array hfirst hitems hlast⟩

theorem begins_nextItem (htree : Derives .operand ts tree) (hcomma : comma.kind = .comma)
    (h : Begins ClosedItems us) : Begins ClosedItems (ts ++ [comma] ++ us) := by
  refine h.map ?_
  rintro _ ⟨body, trees, last, rfl, hitems, hlast⟩
  exact begins_of_self
    ⟨ts ++ comma :: body, _, last, by simp, .nextItem htree hcomma hitems, hlast⟩

theorem begins_comparison (hleft : Derives .operand ts left)
    (hop : Parse.comparison? token.kind = some op) (h : Begins op.RightOperand us) :
    Begins Symbol.condition.Phrase (ts ++ [token] ++ us) := by
  refine h.map ?_
  rintro _ ⟨first, rest, right, rfl, hright, htakes⟩
  rw [List.append_assoc]
  exact begins_of_self ⟨_, .comparison hleft hop hright htakes⟩

theorem begins_nested (hfirst : first.kind = .leftParen) (h : Begins Symbol.query.Phrase us) :
    Begins Symbol.primary.Phrase ([first] ++ us) := by
  refine h.map ?_
  rintro vs ⟨inner, hinner⟩
  exact ⟨[sampleParen], inner, .nested hfirst hinner rfl⟩

theorem begins_not (hfirst : first.kind = .not) (h : Begins Symbol.primary.Phrase us) :
    Begins Symbol.unary.Phrase ([first] ++ us) := by
  refine h.map ?_
  rintro vs ⟨inner, hinner⟩
  exact begins_of_self ⟨_, .not hfirst hinner⟩

/-- A part that is a whole by itself. -/
theorem begins_unit {inner outer : Symbol}
    (hunit : ∀ {ts tree}, Derives inner ts tree → Derives outer ts tree)
    (h : Begins inner.Phrase us) : Begins outer.Phrase us := by
  obtain ⟨more, tree, htree⟩ := h
  exact ⟨more, tree, hunit htree⟩

end

namespace Parse

open TokenStream

variable {α β : Type} {P Q : List Token → Prop} {s s₁ : TokenStream} {ts : List Token}

/-! ## Failing runs -/

def unexpectedAt (expected : Expected) (token : Token) : SyntaxError :=
  if token.kind = .endOfInput then .unexpectedEnd expected else .unexpectedToken expected token

/--
A failure behind tokens that begin something: the next token is not expected,
or they are the last ones and no token starts behind them.
-/
inductive Failure (P : List Token → Prop) (s : TokenStream) : SyntaxError → TokenStream → Prop
  | unexpected {used : List Token} {s' : TokenStream} (expected : Expected)
      (hreads : s.Reads used s') (hused : Begins P used) :
      Failure P s (unexpectedAt expected s'.current) s'
  | lexical {used : List Token} {token : Token} {error : LexError} {s' : TokenStream}
      (hreads : s.Reads used s') (hlast : s'.tokens = [token]) (hending : s'.ending = .failed error)
      (hused : Begins P (used ++ [token])) : Failure P s (.lexical error) s'

/-- If the result of a run from `s` is a failure, it is one behind such tokens. -/
def FailsBehind (P : List Token → Prop) (s : TokenStream)
    (result : EStateM.Result SyntaxError TokenStream α) : Prop :=
  ∀ error s', result = .error error s' → Failure P s error s'

theorem failsBehind_ok (a : α) (s' : TokenStream) :
    FailsBehind P s (.ok a s' : EStateM.Result _ _ α) := by
  intro error s'' h
  cases h

namespace FailsBehind

/-- A failure behind the tokens `ts`, which were taken before. -/
theorem after {result : EStateM.Result SyntaxError TokenStream α}
    (h : FailsBehind P s₁ result) (hreads : s.Reads ts s₁)
    (hPQ : ∀ us, Begins P us → Begins Q (ts ++ us)) : FailsBehind Q s result := by
  intro error s' hresult
  cases h error s' hresult with
  | unexpected expected hreads' hused =>
      exact .unexpected expected (hreads.trans hreads') (hPQ _ hused)
  | lexical hreads' hlast hending hused =>
      refine .lexical (hreads.trans hreads') hlast hending ?_
      rw [List.append_assoc]
      exact hPQ _ hused

theorem imp {result : EStateM.Result SyntaxError TokenStream α} (h : FailsBehind P s result)
    (hPQ : ∀ us, us <+: s.tokens → Begins P us → Begins Q us) : FailsBehind Q s result := by
  intro error s' hresult
  cases h error s' hresult with
  | unexpected expected hreads hused =>
      exact .unexpected expected hreads (hPQ _ ⟨_, hreads.tokens.symm⟩ hused)
  | lexical hreads hlast hending hused =>
      have hall := hreads.tokens
      rw [hlast] at hall
      exact .lexical hreads hlast hending (hPQ _ (hall ▸ List.prefix_refl _) hused)

theorem bind {p : Parse α} {f : α → Parse β} (h : FailsBehind P s (p s₁))
    (hf : ∀ a s', p s₁ = .ok a s' → FailsBehind P s (f a s')) :
    FailsBehind P s ((p >>= f) s₁) := by
  intro error s' herror
  rw [bind_eq] at herror
  cases hp : p s₁ with
  | ok a middle =>
      rw [hp] at herror
      exact hf a middle hp error s' herror
  | error error middle =>
      rw [hp] at herror
      cases herror
      exact h _ _ hp

/-- Nothing fails behind a run that ends by returning a value. -/
theorem bind_pure {p : Parse α} {f : α → β} (h : FailsBehind P s (p s₁)) :
    FailsBehind P s ((p >>= fun a => pure (f a)) s₁) :=
  h.bind fun _ _ _ => failsBehind_ok _ _

end FailsBehind

theorem reads_nil (s : TokenStream) : s.Reads [] s := ⟨rfl, rfl, id⟩

theorem unexpected_eq (expected : Expected) (s : TokenStream) :
    (unexpected expected : Parse α) s = .error (unexpectedAt expected s.current) s := by
  simp only [unexpected, bind_current, unexpectedAt]
  split <;> rfl

theorem unexpected_fails {expected : Expected} (hreads : s.Reads ts s₁) (hts : Begins P ts) :
    FailsBehind P s ((unexpected expected : Parse α) s₁) := by
  intro error s' h
  rw [unexpected_eq] at h
  cases h
  exact .unexpected expected hreads hts

theorem advance_fails (hreads : s.Reads ts s₁) (hts : Begins P (ts ++ [s₁.current])) :
    FailsBehind P s (advance s₁) := by
  intro error s' h
  obtain ⟨tokens, ending⟩ := s₁
  unfold advance at h
  cases tokens with
  | nil => cases h
  | cons token rest =>
      cases rest with
      | cons next rest => cases h
      | nil =>
          cases ending with
          | complete offset => cases h
          | failed error =>
              cases h
              exact .lexical hreads rfl rfl hts

/-- A token is taken, and what follows may fail behind it. -/
theorem advance_bind_fails {f : Token → Parse β} {kind : TokenKind} (hreads : s.Reads ts s₁)
    (hcurrent : s₁.current.kind = kind) (hkind : kind ≠ .endOfInput)
    (hts : Begins P (ts ++ [s₁.current]))
    (hf : ∀ behind, s.Reads (ts ++ [s₁.current]) behind →
      FailsBehind P s (f s₁.current behind)) :
    FailsBehind P s ((advance >>= f) s₁) := by
  refine (advance_fails hreads hts).bind fun token behind hadvance => ?_
  obtain ⟨rfl, hreads'⟩ := advance_ok hadvance hcurrent hkind
  exact hf behind (hreads.trans hreads')

theorem expect_fails {kind : TokenKind} {expected : Expected} (hreads : s.Reads ts s₁)
    (hts : Begins P ts) (hnext : s₁.current.kind = kind → Begins P (ts ++ [s₁.current])) :
    FailsBehind P s (expect kind expected s₁) := by
  rw [expect, bind_current]
  split
  · rename_i hkind
    exact advance_fails hreads (hnext hkind)
  · exact unexpected_fails hreads hts

/-- A parser that fails only behind what begins a phrase of the nonterminal. -/
def Viable (symbol : Symbol) (p : Parse Expr) : Prop :=
  ∀ s, FailsBehind symbol.Phrase s (p s)

/-! ## Operands -/

theorem operandWith_viable {array : Parse Expr}
    (harray : ∀ s, s.current.kind = .leftBracket → FailsBehind Symbol.operand.Phrase s (array s)) :
    Viable .operand (operandWith array) := by
  intro s
  cases hleaf : s.current.operand? with
  | some found =>
      rw [operandWith_leaf hleaf]
      exact (advance_fails (reads_nil s) (begins_of_self ⟨_, .leaf hleaf⟩)).bind_pure
  | none =>
      by_cases hbracket : s.current.kind = .leftBracket
      · rw [operandWith_array hbracket]
        exact harray s hbracket
      · obtain ⟨expected, hother⟩ := operandWith_other hleaf hbracket
        rw [hother]
        exact unexpected_fails (reads_nil s) (Symbol.begins_nil _)

theorem items_viable {item : Parse Expr} (hsound : Sound .operand item)
    (hitem : Viable .operand item) (fuel : Nat) (s : TokenStream) :
    FailsBehind ClosedItems s (items item fuel s) := by
  have hfirst (s : TokenStream) : FailsBehind ClosedItems s (item s) := by
    refine (hitem s).after (reads_nil s) fun us h => h.map ?_
    rintro vs ⟨tree, htree⟩
    exact begins_closedItems (.lastItem htree)
  induction fuel generalizing s with
  | zero => exact (hfirst s).bind_pure
  | succ fuel ih =>
      refine (hfirst s).bind fun tree middle hrun => ?_
      obtain ⟨used, hreads, htree⟩ := hsound hrun
      have hused : Begins ClosedItems used := begins_closedItems (.lastItem htree)
      rw [bind_current]
      split
      · rename_i hcomma
        have hbehind := begins_nextItem htree hcomma begins_closedItems_nil
        refine advance_bind_fails hreads hcomma (by decide) hbehind.of_append
          fun behind hreads' => ?_
        exact ((ih behind).after hreads' fun us => begins_nextItem htree hcomma).bind_pure
      · refine (expect_fails hreads hused fun hlast => begins_of_self ?_).bind_pure
        exact ⟨used, _, middle.current, rfl, .lastItem htree, hlast⟩

theorem arrayRest_viable {item : Parse Expr} (hsound : Sound .operand item)
    (hitem : Viable .operand item) {first : Token} {before : TokenStream}
    (hfirst : first.kind = .leftBracket) (hbefore : before.Reads [first] s) :
    FailsBehind Symbol.operand.Phrase before (arrayRest item s) := by
  rw [arrayRest, bind_current]
  split
  · rename_i hlast
    exact (advance_fails hbefore (begins_of_self ⟨_, .emptyArray hfirst hlast⟩)).bind_pure
  · rw [bind_remaining]
    exact ((items_viable hsound hitem _ s).after hbefore fun us => begins_array hfirst).bind_pure

theorem operandWithin_viable (depth : Nat) : Viable .operand (operandWithin depth) := by
  induction depth with
  | zero =>
      exact operandWith_viable fun s _ => unexpected_fails (reads_nil s) (Symbol.begins_nil _)
  | succ depth ih =>
      refine operandWith_viable fun s hbracket => ?_
      have hfirst := begins_array hbracket begins_closedItems_nil
      exact advance_bind_fails (reads_nil s) hbracket (by decide) hfirst fun behind hreads =>
        arrayRest_viable (operandWithin_sound depth) ih hbracket hreads

theorem operand_viable : Viable .operand operand := by
  intro s
  rw [operand, bind_remaining]
  exact operandWithin_viable _ s

/-! ## Conditions -/

/-- Behind a first token that is allowed, the right operand of a comparison is any operand. -/
theorem begins_rightOperand {op : Comparison} {us : List Token}
    (htakes : op.takes s.current.kind = true) (hstart : us <+: s.tokens)
    (h : Begins Symbol.operand.Phrase us) : Begins op.RightOperand us := by
  cases us with
  | nil => exact op.begins_nil
  | cons first us =>
      obtain ⟨rest, hrest⟩ := hstart
      obtain ⟨more, tree, htree⟩ := h
      have hcurrent : s.current = first := by
        simp only [TokenStream.current, ← hrest, List.cons_append]
      exact ⟨more, first, us ++ more, tree, rfl, htree, hcurrent ▸ htakes⟩

/-- A single token of a fixed kind as the right operand. -/
theorem expect_leaf_fails {op : Comparison} {kind : TokenKind} {expected : Expected}
    {make : String → Expr}
    (hmake : ∀ token : Token, token.kind = kind → token.operand? = some (make token.lexeme))
    (htakes : op.takes kind = true) :
    FailsBehind op.RightOperand s
      ((do return make (← expect kind expected).lexeme : Parse Expr) s) := by
  refine (expect_fails (reads_nil s) op.begins_nil fun hkind => begins_of_self ?_).bind_pure
  exact ⟨s.current, [], _, rfl, .leaf (hmake s.current hkind), hkind ▸ htakes⟩

theorem rightOperand_viable (op : Comparison) (s : TokenStream) :
    FailsBehind op.RightOperand s (rightOperand op s) := by
  have hoperand (htakes : op.takes s.current.kind = true) :
      FailsBehind op.RightOperand s (operand s) :=
    (operand_viable s).imp fun us => begins_rightOperand htakes
  cases op with
  | «matches» | like =>
      exact expect_leaf_fails (fun token htoken => by simp [Token.operand?, htoken]) rfl
  | within =>
      rw [rightOperand, bind_current]
      cases hkind : s.current.kind with
      | leftBracket | string | key => exact hoperand (by simp [Comparison.takes, hkind])
      | _ => exact unexpected_fails (reads_nil s) (Comparison.begins_nil _)
  | equal | notEqual | less | lessEqual | greater | greaterEqual | contains => exact hoperand rfl

theorem condition_viable : Viable .condition condition := by
  intro s
  refine ((operand_viable s).imp fun us _ => begins_unit .bare).bind fun left middle hrun => ?_
  obtain ⟨used, hreads, hleft⟩ := operand_sound hrun
  rw [bind_current]
  cases hop : comparison? middle.current.kind with
  | some op =>
      have hbehind := begins_comparison hleft hop op.begins_nil
      refine advance_bind_fails hreads rfl (kind_ne_of_comparison? hop rfl) hbehind.of_append
        fun behind hreads' => ?_
      have hright := (rightOperand_viable op behind).after hreads'
        fun us => begins_comparison hleft hop
      exact hright.bind_pure
  | none =>
      dsimp only
      split
      · exact failsBehind_ok _ _
      · exact unexpected_fails hreads (begins_of_self ⟨_, .bare hleft⟩)

/-! ## Connectives -/

section

variable {nested : Parse Expr}

theorem primary_viable (hsound : Sound .query nested) (hnested : Viable .query nested) :
    Viable .primary (primary nested) := by
  intro s
  rw [primary, bind_current]
  split
  · rename_i hfirst
    have hfirst' := begins_nested hfirst (Symbol.begins_nil .query)
    refine advance_bind_fails (reads_nil s) hfirst (by decide) hfirst' fun behind hreads => ?_
    refine ((hnested behind).after hreads fun us => begins_nested hfirst).bind
      fun inner middle hrun => ?_
    obtain ⟨used, hreads', hinner⟩ := hsound hrun
    have hused := begins_nested hfirst (begins_of_self ⟨inner, hinner⟩)
    refine (expect_fails (hreads.trans hreads') hused fun hlast => begins_of_self ?_).bind_pure
    exact ⟨inner, .nested hfirst hinner hlast⟩
  · exact (condition_viable s).imp fun us _ => begins_unit .single

theorem unary_viable (hsound : Sound .query nested) (hnested : Viable .query nested) :
    Viable .unary (unary nested) := by
  intro s
  rw [unary, bind_current]
  split
  · rename_i hfirst
    have hfirst' := begins_not hfirst (Symbol.begins_nil .primary)
    refine advance_bind_fails (reads_nil s) hfirst (by decide) hfirst' fun behind hreads => ?_
    exact ((primary_viable hsound hnested behind).after hreads
      fun us => begins_not hfirst).bind_pure
  · exact (primary_viable hsound hnested s).imp fun us _ => begins_unit .positive

/-- A chain fails behind what is derived already, a joining token, and what begins an item. -/
theorem chain_viable {kind : TokenKind} {op : Connective} {item : Parse Expr}
    {outer inner : Symbol} (hkind : kind ≠ .endOfInput) (hsound : Sound inner item)
    (hitem : Viable inner item)
    (hjoin : ∀ {token ts us left right}, Derives outer ts left → token.kind = kind →
      Derives inner us right → Derives outer (ts ++ token :: us) (.logical op left right))
    {fuel : Nat} {left : Expr} {before : TokenStream} {used : List Token}
    (hbefore : before.Reads used s) (hleft : Derives outer used left) :
    FailsBehind outer.Phrase before (chain kind op item fuel left s) := by
  induction fuel generalizing s left used with
  | zero => exact failsBehind_ok _ _
  | succ fuel ih =>
      rw [chain, bind_current]
      split
      · rename_i hcurrent
        have hbehind {us : List Token} (hus : Begins inner.Phrase us) :
            Begins outer.Phrase (used ++ [s.current] ++ us) := by
          refine hus.map ?_
          rintro vs ⟨right, hright⟩
          rw [List.append_assoc]
          exact begins_of_self ⟨_, hjoin hleft hcurrent hright⟩
        refine advance_bind_fails hbefore hcurrent hkind (hbehind inner.begins_nil).of_append
          fun behind hreads => ?_
        refine ((hitem behind).after hreads fun us => hbehind).bind fun right middle hrun => ?_
        obtain ⟨used', hreads', hright⟩ := hsound hrun
        have hall : before.Reads (used ++ s.current :: used') middle := by
          simpa using hreads.trans hreads'
        exact ih hall (hjoin hleft hcurrent hright)
      · exact failsBehind_ok _ _

theorem conjunction_viable (hsound : Sound .query nested) (hnested : Viable .query nested) :
    Viable .conjunction (conjunction nested) := by
  intro s
  have hunary := unary_viable hsound hnested
  refine ((hunary s).imp fun us _ => begins_unit .conjunct).bind fun first middle hrun => ?_
  obtain ⟨used, hreads, hfirst⟩ := unary_sound hsound hrun
  rw [bind_remaining]
  exact chain_viable (by decide) (unary_sound hsound) hunary .and hreads (.conjunct hfirst)

theorem disjunction_viable (hsound : Sound .query nested) (hnested : Viable .query nested) :
    Viable .query (disjunction nested) := by
  intro s
  have hconjunction := conjunction_viable hsound hnested
  refine ((hconjunction s).imp fun us _ => begins_unit .disjunct).bind
    fun first middle hrun => ?_
  obtain ⟨used, hreads, hfirst⟩ := conjunction_sound hsound hrun
  rw [bind_remaining]
  exact chain_viable (by decide) (conjunction_sound hsound) hconjunction .or hreads
    (.disjunct hfirst)

end

theorem queryWithin_viable (depth : Nat) : Viable .query (queryWithin depth) := by
  induction depth with
  | zero => exact fun s => unexpected_fails (reads_nil s) (Symbol.begins_nil _)
  | succ depth ih => exact disjunction_viable (queryWithin_sound depth) ih

/-- Where a query is not read, the tokens taken begin one. -/
theorem query_fails (hkinds : ∀ token ∈ s.tokens, token.kind ≠ .endOfInput) :
    FailsBehind Symbol.query.Phrase s (query s) := by
  rw [query, bind_current]
  split
  · exact failsBehind_ok _ _
  rw [bind_remaining]
  refine (queryWithin_viable _ s).bind fun tree middle hrun => ?_
  obtain ⟨used, hreads, htree⟩ := queryWithin_sound _ hrun
  have hused : Begins Symbol.query.Phrase used := begins_of_self ⟨tree, htree⟩
  refine FailsBehind.bind_pure ?_
  rw [expect, bind_current]
  split
  · rename_i hend
    have hnil : middle.tokens = [] := by
      by_contra hne
      obtain ⟨token, rest, htokens⟩ := List.exists_cons_of_ne_nil hne
      simp only [TokenStream.current, htokens] at hend
      exact hkinds token (by simp [hreads.tokens, htokens]) hend
    intro error s' h
    simp only [advance, hnil] at h
    cases h
  · exact unexpected_fails hreads hused

end Parse

end RecordQuery
