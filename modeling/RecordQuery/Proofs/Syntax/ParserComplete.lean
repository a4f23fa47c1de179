import RecordQuery.Proofs.Syntax.ParserSound
import RecordQuery.Proofs.Syntax.Tokenization

/-! # Completeness of the parser

Tokens that derive a tree are read as that tree.  A run is described in front of
every rest that can follow, and the fuel of each loop covers the tokens left.
-/

namespace RecordQuery

namespace Parse

open TokenStream

theorem readable_append {us : List Token} (h : us ≠ []) (rest : List Token) (ending : Ending) :
    Readable ⟨us ++ rest, ending⟩ := fun hnil => absurd (List.append_eq_nil_iff.mp hnil).1 h

/-- What derives from a nonterminal starts with one of its tokens. -/
theorem starts_current {symbol : Symbol} {ts rest : List Token} {tree : Expr} {ending : Ending}
    (h : Derives symbol ts tree) :
    symbol.starts (⟨ts ++ rest, ending⟩ : TokenStream).current.kind = true := by
  obtain ⟨first, others, rfl, hstarts⟩ := h.first_starts
  exact hstarts

/-- The part of the parser for a nonterminal reads the tokens `ts` as `tree`. -/
def Complete : Symbol → List Token → Expr → Prop
  | .operand, ts, tree => ∀ {depth rest ending}, ts.length ≤ depth → Readable ⟨rest, ending⟩ →
      operandWithin depth ⟨ts ++ rest, ending⟩ = .ok tree ⟨rest, ending⟩
  | .items, ts, tree => ∀ {depth fuel last rest ending}, ts.length ≤ depth → ts.length ≤ fuel →
      last.kind = .rightBracket → Readable ⟨rest, ending⟩ →
      ∃ trees, tree = .array trees ∧
        items (operandWithin depth) fuel ⟨ts ++ last :: rest, ending⟩ = .ok trees ⟨rest, ending⟩
  | .condition, ts, tree => ∀ {rest ending}, Readable ⟨rest, ending⟩ →
      endsCondition (⟨rest, ending⟩ : TokenStream).current.kind = true →
      condition ⟨ts ++ rest, ending⟩ = .ok tree ⟨rest, ending⟩
  | .primary, ts, tree => ∀ {depth rest ending}, ts.length ≤ depth → Readable ⟨rest, ending⟩ →
      endsCondition (⟨rest, ending⟩ : TokenStream).current.kind = true →
      primary (queryWithin depth) ⟨ts ++ rest, ending⟩ = .ok tree ⟨rest, ending⟩
  | .unary, ts, tree => ∀ {depth rest ending}, ts.length ≤ depth → Readable ⟨rest, ending⟩ →
      endsCondition (⟨rest, ending⟩ : TokenStream).current.kind = true →
      unary (queryWithin depth) ⟨ts ++ rest, ending⟩ = .ok tree ⟨rest, ending⟩
  | .conjunction, ts, tree => ∀ {depth rest ending}, ts.length ≤ depth →
      Readable ⟨rest, ending⟩ → endsCondition (⟨rest, ending⟩ : TokenStream).current.kind = true →
      ∃ fuel, rest.length ≤ fuel ∧ conjunction (queryWithin depth) ⟨ts ++ rest, ending⟩ =
        chain .and .and (unary (queryWithin depth)) fuel tree ⟨rest, ending⟩
  | .query, ts, tree => ∀ {depth rest ending}, ts.length ≤ depth → Readable ⟨rest, ending⟩ →
      endsCondition (⟨rest, ending⟩ : TokenStream).current.kind = true →
      (⟨rest, ending⟩ : TokenStream).current.kind ≠ .and →
      ∃ fuel, rest.length ≤ fuel ∧ disjunction (queryWithin depth) ⟨ts ++ rest, ending⟩ =
        chain .or .or (conjunction (queryWithin depth)) fuel tree ⟨rest, ending⟩

/-! ## Operands -/

section

variable {depth : Nat} {rest : List Token} {ending : Ending}

theorem operandWithin_eq (depth : Nat) : ∃ array, operandWithin depth = operandWith array := by
  cases depth with
  | zero => exact ⟨_, rfl⟩
  | succ depth => exact ⟨_, rfl⟩

theorem operandWithin_leaf {token : Token} {tree : Expr} (htree : token.operand? = some tree)
    (hrest : Readable ⟨rest, ending⟩) :
    operandWithin depth ⟨token :: rest, ending⟩ = .ok tree ⟨rest, ending⟩ := by
  obtain ⟨array, harray⟩ := operandWithin_eq depth
  rw [harray, operandWith_leaf (s := ⟨token :: rest, ending⟩) htree]
  exact leaf_cons hrest

theorem operandWithin_array {first : Token} (hfirst : first.kind = .leftBracket)
    (hrest : Readable ⟨rest, ending⟩) :
    operandWithin (depth + 1) ⟨first :: rest, ending⟩ =
      arrayRest (operandWithin depth) ⟨rest, ending⟩ := by
  rw [operandWithin, operandWith_array (s := ⟨first :: rest, ending⟩) hfirst]
  exact bind_advance hrest _

theorem arrayRest_empty {item : Parse Expr} {last : Token} (hlast : last.kind = .rightBracket)
    (hrest : Readable ⟨rest, ending⟩) :
    arrayRest item ⟨last :: rest, ending⟩ = .ok (.array []) ⟨rest, ending⟩ := by
  rw [arrayRest, bind_current, current_cons, if_pos hlast]
  exact bind_advance hrest _

theorem arrayRest_items {item : Parse Expr} {ts : List Token} {trees : List Expr}
    (hkind : (⟨ts, ending⟩ : TokenStream).current.kind ≠ .rightBracket)
    (hitems : items item ts.length ⟨ts, ending⟩ = .ok trees ⟨rest, ending⟩) :
    arrayRest item ⟨ts, ending⟩ = .ok (.array trees) ⟨rest, ending⟩ := by
  rw [arrayRest, bind_current, if_neg hkind, bind_remaining, bind_of_ok hitems]
  rfl

theorem items_last {item : Parse Expr} {fuel : Nat} {last : Token} {tree : Expr}
    {s : TokenStream} (hitem : item s = .ok tree ⟨last :: rest, ending⟩)
    (hlast : last.kind = .rightBracket) (hrest : Readable ⟨rest, ending⟩) :
    items item (fuel + 1) s = .ok [tree] ⟨rest, ending⟩ := by
  rw [items, bind_of_ok hitem, bind_current, current_cons, if_neg (by simp [hlast]),
    bind_of_ok (expect_cons hlast hrest)]
  rfl

theorem items_next {item : Parse Expr} {fuel : Nat} {comma : Token} {us : List Token}
    {tree : Expr} {trees : List Expr} {s : TokenStream}
    (hitem : item s = .ok tree ⟨comma :: us, ending⟩) (hcomma : comma.kind = .comma)
    (hus : Readable ⟨us, ending⟩)
    (hitems : items item fuel ⟨us, ending⟩ = .ok trees ⟨rest, ending⟩) :
    items item (fuel + 1) s = .ok (tree :: trees) ⟨rest, ending⟩ := by
  rw [items, bind_of_ok hitem, bind_current, current_cons, if_pos hcomma, bind_advance hus,
    bind_of_ok hitems]
  rfl

theorem operand_complete {ts : List Token} {tree : Expr} (h : Complete .operand ts tree)
    (hrest : Readable ⟨rest, ending⟩) :
    operand ⟨ts ++ rest, ending⟩ = .ok tree ⟨rest, ending⟩ := by
  rw [operand, bind_remaining]
  exact h (by simp) hrest

end

/-! ## Conditions -/

section

variable {rest : List Token} {ending : Ending}

/-- The right operand of a comparison is read by the parser of operands, if its start is allowed. -/
theorem rightOperand_complete {op : Comparison} {first : Token} {us : List Token} {tree : Expr}
    (hderives : Derives .operand (first :: us) tree) (htakes : op.takes first.kind = true)
    (h : Complete .operand (first :: us) tree) (hrest : Readable ⟨rest, ending⟩) :
    rightOperand op ⟨first :: (us ++ rest), ending⟩ = .ok tree ⟨rest, ending⟩ := by
  have hoperand := operand_complete h hrest
  have hleaf (hbracket : first.kind ≠ .leftBracket) :
      us = [] ∧ first.operand? = some tree := by
    cases hderives with
    | leaf htree => exact ⟨rfl, htree⟩
    | emptyArray hfirst | array hfirst => exact absurd hfirst hbracket
  cases op with
  | «matches» =>
      have hkind : first.kind = .regexp := by simpa [Comparison.takes] using htakes
      obtain ⟨rfl, htree⟩ := hleaf (by simp [hkind])
      simp only [Token.operand?, hkind, Option.some.injEq] at htree
      subst htree
      rw [rightOperand, List.nil_append, bind_of_ok (expect_cons hkind hrest)]
      rfl
  | like =>
      have hkind : first.kind = .string := by simpa [Comparison.takes] using htakes
      obtain ⟨rfl, htree⟩ := hleaf (by simp [hkind])
      simp only [Token.operand?, hkind, Option.some.injEq] at htree
      subst htree
      rw [rightOperand, List.nil_append, bind_of_ok (expect_cons hkind hrest)]
      rfl
  | within =>
      rw [rightOperand, bind_current, current_cons]
      cases hkind : first.kind <;> simp only [Comparison.takes, hkind] at htakes
      all_goals first
        | exact hoperand
        | cases htakes
  | equal | notEqual | less | lessEqual | greater | greaterEqual | contains => exact hoperand

theorem endsCondition_comparison? {kind : TokenKind} (h : endsCondition kind = true) :
    comparison? kind = none := by
  cases kind <;> first | rfl | cases h

theorem condition_bare {ts : List Token} {tree : Expr} (h : Complete .operand ts tree)
    (hrest : Readable ⟨rest, ending⟩)
    (hends : endsCondition (⟨rest, ending⟩ : TokenStream).current.kind = true) :
    condition ⟨ts ++ rest, ending⟩ = .ok tree ⟨rest, ending⟩ := by
  rw [condition, bind_of_ok (operand_complete h hrest), bind_current]
  simp only [endsCondition_comparison? hends, hends, if_true]
  rfl

theorem condition_comparison {op : Comparison} {token first : Token} {ts us : List Token}
    {left right : Expr} (hleft : Complete .operand ts left)
    (hop : comparison? token.kind = some op) (hderives : Derives .operand (first :: us) right)
    (hright : Complete .operand (first :: us) right) (htakes : op.takes first.kind = true)
    (hrest : Readable ⟨rest, ending⟩) :
    condition ⟨ts ++ token :: first :: (us ++ rest), ending⟩ =
      .ok (.comparison op left right) ⟨rest, ending⟩ := by
  rw [condition, bind_of_ok (operand_complete hleft (readable_cons _ _ _)), bind_current]
  simp only [current_cons, hop]
  rw [bind_advance (readable_cons _ _ _),
    bind_of_ok (rightOperand_complete hderives htakes hright hrest)]
  rfl

end

/-! ## Connectives -/

section

variable {rest : List Token} {ending : Ending}

theorem primary_nested {nested : Parse Expr} {first last : Token} {ts : List Token} {tree : Expr}
    (hfirst : first.kind = .leftParen) (hts : ts ≠ []) (hlast : last.kind = .rightParen)
    (hnested : nested ⟨ts ++ last :: rest, ending⟩ = .ok tree ⟨last :: rest, ending⟩)
    (hrest : Readable ⟨rest, ending⟩) :
    primary nested ⟨first :: (ts ++ last :: rest), ending⟩ = .ok tree ⟨rest, ending⟩ := by
  rw [primary, bind_current, current_cons, if_pos hfirst, bind_advance (readable_append hts _ _),
    bind_of_ok hnested, bind_of_ok (expect_cons hlast hrest)]
  rfl

theorem unary_not {nested : Parse Expr} {first : Token} {ts : List Token} {tree : Expr}
    (hfirst : first.kind = .not) (hts : ts ≠ [])
    (hprimary : primary nested ⟨ts ++ rest, ending⟩ = .ok tree ⟨rest, ending⟩) :
    unary nested ⟨first :: (ts ++ rest), ending⟩ = .ok (.not tree) ⟨rest, ending⟩ := by
  rw [unary, bind_current, current_cons, if_pos hfirst, bind_advance (readable_append hts _ _),
    bind_of_ok hprimary]
  rfl

variable {kind : TokenKind} {op : Connective} {item : Parse Expr} {fuel : Nat}
  {left right : Expr}

theorem chain_of_ne {s : TokenStream} (h : s.current.kind ≠ kind) :
    chain kind op item fuel left s = .ok left s := by
  cases fuel with
  | zero => rfl
  | succ fuel =>
      rw [chain, bind_current, if_neg h]
      rfl

/-- A round of a chain leaves fuel for every token left. -/
theorem chain_cons {token : Token} {us : List Token} (hkind : token.kind = kind) (hus : us ≠ [])
    (hitem : item ⟨us ++ rest, ending⟩ = .ok right ⟨rest, ending⟩)
    (hfuel : (token :: (us ++ rest)).length ≤ fuel) :
    ∃ fuel', rest.length ≤ fuel' ∧ chain kind op item fuel left ⟨token :: (us ++ rest), ending⟩ =
      chain kind op item fuel' (.logical op left right) ⟨rest, ending⟩ := by
  simp only [List.length_cons, List.length_append] at hfuel
  obtain ⟨fuel, rfl⟩ : ∃ n, fuel = n + 1 := ⟨fuel - 1, by omega⟩
  refine ⟨fuel, by omega, ?_⟩
  rw [chain, bind_current, current_cons, if_pos hkind, bind_advance (readable_append hus _ _),
    bind_of_ok hitem]

/-- Behind the last AND a conjunction is done. -/
theorem conjunction_complete {ts : List Token} {tree : Expr} {depth : Nat}
    (h : Complete .conjunction ts tree) (hdepth : ts.length ≤ depth)
    (hrest : Readable ⟨rest, ending⟩)
    (hends : endsCondition (⟨rest, ending⟩ : TokenStream).current.kind = true)
    (hand : (⟨rest, ending⟩ : TokenStream).current.kind ≠ .and) :
    conjunction (queryWithin depth) ⟨ts ++ rest, ending⟩ = .ok tree ⟨rest, ending⟩ := by
  obtain ⟨fuel, -, hchain⟩ := h hdepth hrest hends
  rw [hchain, chain_of_ne hand]

/-- A query is done in front of a closing parenthesis and at the end of input. -/
theorem queryWithin_complete {ts : List Token} {tree : Expr} {depth : Nat}
    (h : Complete .query ts tree) (hdepth : ts.length < depth) (hrest : Readable ⟨rest, ending⟩)
    (hends : endsCondition (⟨rest, ending⟩ : TokenStream).current.kind = true)
    (hand : (⟨rest, ending⟩ : TokenStream).current.kind ≠ .and)
    (hor : (⟨rest, ending⟩ : TokenStream).current.kind ≠ .or) :
    queryWithin depth ⟨ts ++ rest, ending⟩ = .ok tree ⟨rest, ending⟩ := by
  obtain ⟨depth, rfl⟩ : ∃ n, depth = n + 1 := ⟨depth - 1, by omega⟩
  obtain ⟨fuel, -, hchain⟩ := h (Nat.le_of_lt_succ hdepth) hrest hends hand
  rw [queryWithin, hchain, chain_of_ne hor]

end

/-! ## Derivations -/

theorem current_ne {symbol : Symbol} {ts rest : List Token} {tree : Expr} {ending : Ending}
    (h : Derives symbol ts tree) {kind : TokenKind} (hkind : symbol.starts kind = false) :
    (⟨ts ++ rest, ending⟩ : TokenStream).current.kind ≠ kind := by
  intro hcurrent
  have hstarts : symbol.starts (⟨ts ++ rest, ending⟩ : TokenStream).current.kind = true :=
    starts_current h
  rw [hcurrent, hkind] at hstarts
  cases hstarts

namespace Complete

variable {token first last comma : Token} {ts us : List Token} {tree left right : Expr}
  {trees : List Expr}

theorem array (hfirst : first.kind = .leftBracket) (hitems : Derives .items ts (.array trees))
    (hlast : last.kind = .rightBracket) (h : Complete .items ts (.array trees)) :
    Complete .operand (first :: (ts ++ [last])) (.array trees) := by
  intro depth rest ending hdepth hrest
  simp only [List.length_cons, List.length_append, List.length_nil] at hdepth
  obtain ⟨depth, rfl⟩ : ∃ n, depth = n + 1 := ⟨depth - 1, by omega⟩
  obtain ⟨trees', htrees, hrun⟩ :=
    @h depth (ts ++ last :: rest).length last rest ending (by omega) (by simp) hlast hrest
  cases htrees
  rw [List.cons_append, List.append_assoc, List.singleton_append,
    operandWithin_array hfirst (readable_append hitems.ne_nil _ _)]
  exact arrayRest_items (current_ne hitems rfl) hrun

theorem lastItem (hne : ts ≠ []) (h : Complete .operand ts tree) :
    Complete .items ts (.array [tree]) := by
  intro depth fuel last rest ending hdepth hfuel hlast hrest
  have hlength := List.length_pos_iff.mpr hne
  obtain ⟨fuel, rfl⟩ : ∃ n, fuel = n + 1 := ⟨fuel - 1, by omega⟩
  exact ⟨_, rfl, items_last (h hdepth (readable_cons _ _ _)) hlast hrest⟩

theorem nextItem (hcomma : comma.kind = .comma) (hne : us ≠ []) (h : Complete .operand ts tree)
    (h' : Complete .items us (.array trees)) :
    Complete .items (ts ++ comma :: us) (.array (tree :: trees)) := by
  intro depth fuel last rest ending hdepth hfuel hlast hrest
  simp only [List.length_append, List.length_cons] at hdepth hfuel
  obtain ⟨fuel, rfl⟩ : ∃ n, fuel = n + 1 := ⟨fuel - 1, by omega⟩
  obtain ⟨trees', htrees, hrun⟩ :=
    @h' depth fuel last rest ending (by omega) (by omega) hlast hrest
  cases htrees
  have hitem := @h depth (comma :: (us ++ last :: rest)) ending (by omega) (readable_cons _ _ _)
  rw [List.append_assoc, List.cons_append]
  exact ⟨_, rfl, items_next hitem hcomma (readable_append hne _ _) hrun⟩

theorem nested (hfirst : first.kind = .leftParen) (hne : ts ≠ [])
    (hlast : last.kind = .rightParen) (h : Complete .query ts tree) :
    Complete .primary (first :: (ts ++ [last])) tree := by
  intro depth rest ending hdepth hrest hends
  simp only [List.length_cons, List.length_append, List.length_nil] at hdepth
  have hinner : queryWithin depth ⟨ts ++ last :: rest, ending⟩ =
      .ok tree ⟨last :: rest, ending⟩ :=
    queryWithin_complete h (by omega) (readable_cons _ _ _) (by simp [hlast, endsCondition])
      (by simp [hlast]) (by simp [hlast])
  rw [List.cons_append, List.append_assoc]
  exact primary_nested hfirst hne hlast hinner hrest

theorem and (hop : token.kind = .and) (hne : us ≠ []) (h : Complete .conjunction ts left)
    (h' : Complete .unary us right) :
    Complete .conjunction (ts ++ token :: us) (.logical .and left right) := by
  intro depth rest ending hdepth hrest hends
  simp only [List.length_append, List.length_cons] at hdepth
  obtain ⟨fuel, hfuel, hchain⟩ := @h depth (token :: (us ++ rest)) ending (by omega)
    (readable_cons _ _ _) (by simp [hop, endsCondition])
  rw [List.append_assoc, List.cons_append, hchain]
  exact chain_cons hop hne (h' (by omega) hrest hends) hfuel

theorem or (hop : token.kind = .or) (hne : us ≠ []) (h : Complete .query ts left)
    (h' : Complete .conjunction us right) :
    Complete .query (ts ++ token :: us) (.logical .or left right) := by
  intro depth rest ending hdepth hrest hends hand
  simp only [List.length_append, List.length_cons] at hdepth
  obtain ⟨fuel, hfuel, hchain⟩ := @h depth (token :: (us ++ rest)) ending (by omega)
    (readable_cons _ _ _) (by simp [hop, endsCondition]) (by simp [hop])
  rw [List.append_assoc, List.cons_append, hchain]
  exact chain_cons hop hne (conjunction_complete h' (by omega) hrest hends hand) hfuel

end Complete

theorem complete_of_derives {symbol : Symbol} {ts : List Token} {tree : Expr}
    (h : Derives symbol ts tree) : Complete symbol ts tree := by
  induction h with
  | leaf htree =>
      intro depth rest ending hdepth hrest
      exact operandWithin_leaf htree hrest
  | emptyArray hfirst hlast =>
      intro depth rest ending hdepth hrest
      obtain ⟨depth, rfl⟩ : ∃ n, depth = n + 1 := ⟨depth - 1, by simp at hdepth; omega⟩
      exact (operandWithin_array hfirst (readable_cons _ _ _)).trans (arrayRest_empty hlast hrest)
  | array hfirst hitems hlast ih => exact Complete.array hfirst hitems hlast ih
  | lastItem htree ih => exact Complete.lastItem htree.ne_nil ih
  | nextItem htree hcomma hitems ihTree ihItems =>
      exact Complete.nextItem hcomma hitems.ne_nil ihTree ihItems
  | bare htree ih => exact fun hrest hends => condition_bare ih hrest hends
  | comparison hleft hop hright htakes ihLeft ihRight =>
      intro rest ending hrest hends
      rw [List.append_assoc]
      exact condition_comparison ihLeft hop hright ihRight htakes hrest
  | nested hfirst htree hlast ih => exact Complete.nested hfirst htree.ne_nil hlast ih
  | single htree ih =>
      intro depth rest ending hdepth hrest hends
      rw [primary, bind_current, if_neg (current_ne htree rfl)]
      exact ih hrest hends
  | not hfirst htree ih =>
      intro depth rest ending hdepth hrest hends
      rw [List.length_cons] at hdepth
      exact unary_not hfirst htree.ne_nil (ih (by omega) hrest hends)
  | positive htree ih =>
      intro depth rest ending hdepth hrest hends
      rw [unary, bind_current, if_neg (current_ne htree rfl)]
      exact ih hdepth hrest hends
  | conjunct htree ih =>
      intro depth rest ending hdepth hrest hends
      refine ⟨_, Nat.le_refl _, ?_⟩
      rw [conjunction, bind_of_ok (ih hdepth hrest hends), bind_remaining]
  | and hleft hop hright ihLeft ihRight => exact Complete.and hop hright.ne_nil ihLeft ihRight
  | disjunct htree ih =>
      intro depth rest ending hdepth hrest hends hand
      refine ⟨_, Nat.le_refl _, ?_⟩
      rw [disjunction, bind_of_ok (conjunction_complete ih hdepth hrest hends hand),
        bind_remaining]
  | or hleft hop hright ihLeft ihRight => exact Complete.or hop hright.ne_nil ihLeft ihRight

/-- Tokens that derive a tree are read as that tree, up to the end of the text. -/
theorem query_complete {ts : List Token} {tree : Expr} {offset : Nat}
    (h : Derives .query ts tree) :
    query ⟨ts, .complete offset⟩ = .ok (some tree) ⟨[], .complete offset⟩ := by
  have hrest : Readable ⟨[], .complete offset⟩ := fun _ => ⟨offset, rfl⟩
  have hkind : (⟨ts, .complete offset⟩ : TokenStream).current.kind ≠ .endOfInput := by
    simpa using @current_ne _ ts [] tree (.complete offset) h .endOfInput rfl
  have hrun : queryWithin (ts.length + 1) ⟨ts, .complete offset⟩ =
      .ok tree ⟨[], .complete offset⟩ := by
    simpa using queryWithin_complete (complete_of_derives h) (Nat.lt_succ_self _) hrest
      rfl (by simp [current_kind_nil]) (by simp [current_kind_nil])
  rw [query, bind_current, if_neg hkind, bind_remaining, bind_of_ok hrun]
  rfl

/-- Only in front of the end of input is there no query. -/
theorem current_of_query_none {s s' : TokenStream} (h : query s = .ok none s') :
    s.current.kind = .endOfInput := by
  rw [query, bind_current] at h
  split at h
  · assumption
  · rw [bind_remaining] at h
    obtain ⟨inner, middle, -, h⟩ := exists_of_bind h
    obtain ⟨last, final, -, hpure⟩ := exists_of_bind h
    cases (pure_ok hpure).1

end Parse

theorem TokenStream.opened_of_readable {s : TokenStream} (hs : s.Readable) : s.opened = .ok s := by
  unfold opened
  split
  · rename_i hnil hfailed
    obtain ⟨offset, hoffset⟩ := hs hnil
    rw [hoffset] at hfailed
    cases hfailed
  · rfl

/-- A text is the query of a tree exactly if it lexes to its end and its tokens derive the tree. -/
theorem parse_eq_some_iff_derives {dialect : Dialect} {text : String} {tree : Expr} :
    parse dialect text = .ok (some tree) ↔
      (∃ offset, (tokenize dialect text).ending = .complete offset) ∧
        Derives .query (tokenize dialect text).tokens tree := by
  have hkinds : ∀ token ∈ (tokenize dialect text).tokens, token.kind ≠ .endOfInput :=
    fun token htoken => (Lexer.lexed_of_mem_stream htoken).kind_ne_end
  unfold parse
  generalize tokenize dialect text = stream at hkinds
  obtain ⟨tokens, ending⟩ := stream
  constructor
  · intro h
    have hreadable : TokenStream.Readable ⟨tokens, ending⟩ := by
      rintro rfl
      cases ending with
      | complete offset => exact ⟨offset, rfl⟩
      | failed error => cases h
    rw [TokenStream.opened_of_readable hreadable] at h
    simp only [bind, Except.bind] at h
    cases hrun : Parse.query.run ⟨tokens, ending⟩ with
    | error error s =>
        rw [hrun] at h
        cases h
    | ok found s =>
        rw [hrun] at h
        cases h
        exact Parse.query_sound hkinds hreadable hrun
  · rintro ⟨⟨offset, hending⟩, hderives⟩
    dsimp only at hending
    subst hending
    have hrun : Parse.query.run ⟨tokens, .complete offset⟩ = _ := Parse.query_complete hderives
    rw [TokenStream.opened_of_readable (fun _ => ⟨offset, rfl⟩)]
    simp only [bind, Except.bind, hrun]

/-- The texts without a tree are those without tokens. -/
theorem parse_eq_none_iff {dialect : Dialect} {text : String} {ts : List Token} {offset : Nat}
    (h : tokenize dialect text = ⟨ts, .complete offset⟩) :
    parse dialect text = .ok none ↔ ts = [] := by
  have hkinds : ∀ token ∈ ts, token.kind ≠ .endOfInput := by
    intro token htoken
    have hmem : token ∈ (tokenize dialect text).tokens := by rwa [h]
    exact (Lexer.lexed_of_mem_stream hmem).kind_ne_end
  rw [parse, h, TokenStream.opened_of_readable (fun _ => ⟨offset, rfl⟩)]
  simp only [bind, Except.bind]
  constructor
  · intro hparse
    cases hrun : Parse.query.run ⟨ts, .complete offset⟩ with
    | error error s =>
        rw [hrun] at hparse
        cases hparse
    | ok found s =>
        rw [hrun] at hparse
        cases hparse
        have hend := Parse.current_of_query_none hrun
        cases ts with
        | nil => rfl
        | cons token rest => exact absurd hend (hkinds token List.mem_cons_self)
  · rintro rfl
    rfl

/-- Tokens derive one tree at most. -/
theorem Derives.unique {ts : List Token} {tree tree' : Expr} (h : Derives .query ts tree)
    (h' : Derives .query ts tree') : tree = tree' := by
  have hrun := @Parse.query_complete ts tree 0 h
  rw [@Parse.query_complete ts tree' 0 h'] at hrun
  cases hrun
  rfl

/--
A text that lexes to its end is read as the tree that its tokens derive, and
there is one such tree at most.  Without tokens it has no tree, and tokens that
derive none are an error.
-/
theorem parse_recognises_grammar {dialect : Dialect} {text : String} {ts : List Token}
    {offset : Nat} (h : tokenize dialect text = ⟨ts, .complete offset⟩) :
    (∀ tree, parse dialect text = .ok (some tree) ↔ Derives .query ts tree) ∧
    (parse dialect text = .ok none ↔ ts = []) ∧
    ((∃ error, parse dialect text = .error error) ↔
      ts ≠ [] ∧ ∀ tree, ¬ Derives .query ts tree) ∧
    ∀ tree tree', Derives .query ts tree → Derives .query ts tree' → tree = tree' := by
  have hsome (tree : Expr) : parse dialect text = .ok (some tree) ↔ Derives .query ts tree := by
    rw [parse_eq_some_iff_derives, h]
    exact and_iff_right ⟨offset, rfl⟩
  have hnone := parse_eq_none_iff h
  refine ⟨hsome, hnone, ?_, fun tree tree' => Derives.unique⟩
  rw [ne_eq, ← hnone]
  simp only [← hsome]
  cases parse dialect text with
  | error error => simp
  | ok found => cases found <;> simp

/-- AND binds closer than OR, and parentheses below a negation leave nothing in the tree. -/
theorem parse_recognises_grammar_of_nested_query :
    ∃ ts offset, tokenize .extended "a OR NOT (b OR c) AND d IN [0, 'x']" =
        ⟨ts, .complete offset⟩ ∧
      Derives .query ts (.logical .or (.field "a") (.logical .and
        (.not (.logical .or (.field "b") (.field "c")))
        (.comparison .within (.field "d") (.array [.number ⟨0⟩, .string "'x'"])))) ∧
      ∀ tree, Derives .query ts tree →
        parse .extended "a OR NOT (b OR c) AND d IN [0, 'x']" = .ok (some tree) := by
  have hending : (tokenize .extended "a OR NOT (b OR c) AND d IN [0, 'x']").ending =
      .complete 35 := by cbv
  have hparse : parse .extended "a OR NOT (b OR c) AND d IN [0, 'x']" =
      .ok (some (.logical .or (.field "a") (.logical .and
        (.not (.logical .or (.field "b") (.field "c")))
        (.comparison .within (.field "d") (.array [.number ⟨0⟩, .string "'x'"]))))) := by cbv
  have htokens : tokenize .extended "a OR NOT (b OR c) AND d IN [0, 'x']" =
      ⟨(tokenize .extended "a OR NOT (b OR c) AND d IN [0, 'x']").tokens, .complete 35⟩ := by
    rw [← hending]
  have hrecognises := parse_recognises_grammar htokens
  exact ⟨_, 35, htokens, (hrecognises.1 _).mp hparse, fun tree => (hrecognises.1 tree).mpr⟩

end RecordQuery
