import RecordQuery.Proofs.Syntax.ParsedTrees
import RecordQuery.Proofs.Syntax.Rendering

/-! # Reading a query from its canonical text

The canonical text of a parsed tree is read as the tree itself, exactly if every
regular expression in it is closed where it was closed before.
-/

namespace RecordQuery

/-- What canonical text derives: a tree is printed as an operand or behind a negation. -/
def Printable : Symbol → List Token → Expr → Prop
  | .operand, ts, tree => ∀ {after}, Delimited after →
      Renders tree.canonicalChars (tree.regexpsBefore after) after fun us =>
        Derives .operand us tree ∧ us.head?.map (·.kind) = ts.head?.map (·.kind)
  | .items, _, tree => ∀ {after}, Delimited after →
      ∃ trees, tree = .array trees ∧
        Renders (Expr.canonicalItems trees) (Expr.itemRegexpsBefore after trees) after fun us =>
          Derives .items us tree
  | _, _, tree => ∀ {after}, Delimited after →
      Renders tree.canonicalChars (tree.regexpsBefore after) after fun us =>
        Derives .unary us tree

/-! ## Operands -/

section

variable {after : List Char}

/-- A token that by itself is the operand that was printed. -/
def IsLeaf (kind : TokenKind) (tree : Expr) (us : List Token) : Prop :=
  ∃ token : Token, us = [token] ∧ token.kind = kind ∧ token.operand? = some tree

theorem renders_token {lexeme : List Char} {kind : TokenKind} {tree : Expr}
    (hkind : kind ≠ .regexp)
    (hat : tokenAt? .extended (lexeme ++ after) = some (kind, lexeme.length))
    (htree : ∀ offset, (⟨kind, String.ofList lexeme, offset⟩ : Token).operand? = some tree) :
    Renders lexeme [] after (IsLeaf kind tree) := by
  refine (Renders.token hkind hat).mono ?_
  rintro us ⟨offset, rfl⟩
  exact ⟨_, rfl, rfl, htree offset⟩

theorem renders_field (path : String) (hafter : Delimited after) :
    Renders (Expr.field path).canonicalChars [] after (IsLeaf .key (.field path)) := by
  rw [Expr.canonicalChars]
  split
  · rename_i hbare
    refine renders_token (by decide) (tokenAt?_bare hbare hafter) fun offset => ?_
    simp [Token.operand?, keyPath_bare hbare]
  · refine renders_token (by decide) (tokenAt?_backticked path.toList after) fun offset => ?_
    simp [Token.operand?, keyPath_backticked]

/-- A numeral with a finite value is the operand of that value. -/
theorem renders_numeral {n : Numeral} (hn : n.WellFormed) (hfinite : n.toBinary64.isFinite = true)
    (hafter : Delimited after) :
    Renders n.text [] after (IsLeaf .number (.number n.toBinary64)) := by
  refine renders_token (by decide) (tokenAt?_numeral hn hafter.ends) fun offset => ?_
  have hsplit : Numeral.split? n.text = some (n, []) := by
    simpa using Numeral.split?_text hn (by simp [Numeral.Ends] : Numeral.Ends [])
  simp [Token.operand?, Parse.finiteNumber?, hsplit, hfinite]

theorem renders_number {x : Binary64} (hx : x.isFinite = true) (hafter : Delimited after) :
    Renders (Expr.number x).canonicalChars [] after (IsLeaf .number (.number x)) := by
  obtain ⟨n, hn, htext, rfl⟩ := Binary64.exists_numeral hx
  rw [Expr.canonicalChars, ← htext]
  exact renders_numeral hn hx hafter

/-- An operand of one token is printed as one token of its kind. -/
theorem renders_leaf {token : Token} {tree : Expr} (hlexed : token.Lexed)
    (htree : token.operand? = some tree) (hafter : Delimited after) :
    Renders tree.canonicalChars (tree.regexpsBefore after) after (IsLeaf token.kind tree) := by
  cases Token.denotes_of_operand? htree with
  | key hkind =>
      rw [hkind]
      simpa only [Expr.regexpsBefore] using renders_field _ hafter
  | string hkind =>
      rw [hkind]
      refine renders_token (by decide) (hlexed.tokenAt?_string hkind after) fun offset => ?_
      simp [Token.operand?, Expr.canonicalChars]
  | regexp hkind =>
      rw [hkind]
      refine (Renders.regexp hlexed hkind).mono ?_
      rintro us ⟨offset, rfl⟩
      exact ⟨_, rfl, rfl, rfl⟩
  | number hkind hx =>
      rw [hkind]
      exact renders_number (isFinite_of_finiteNumber? hx) hafter
  | boolean hkind =>
      rw [hkind]
      cases Parse.isTrue token.lexeme with
      | true =>
          have hvalue : Parse.isTrue (String.ofList "TRUE".toList) = true := by decide
          exact renders_token (by decide) (tokenAt?_literalWord (by decide) hafter) fun offset =>
            congrArg (fun b => some (Expr.boolean b)) hvalue
      | false =>
          have hvalue : Parse.isTrue (String.ofList "FALSE".toList) = false := by decide
          exact renders_token (by decide) (tokenAt?_literalWord (by decide) hafter) fun offset =>
            congrArg (fun b => some (Expr.boolean b)) hvalue
  | null hkind =>
      rw [hkind]
      exact renders_token (by decide) (tokenAt?_literalWord (by decide) hafter) fun offset => rfl
  | now hkind =>
      rw [hkind]
      exact renders_token (by decide) (tokenAt?_literalWord (by decide) hafter) fun offset => rfl

/-! ## Brackets and operators -/

theorem renders_array {trees : List Expr} {property : List Token → Prop}
    (h : Renders (Expr.canonicalItems trees) (Expr.itemRegexpsBefore (']' :: after) trees)
      (']' :: after) property) :
    Renders (Expr.array trees).canonicalChars ((Expr.array trees).regexpsBefore after) after
      fun us => ∃ first ts last, us = first :: (ts ++ [last]) ∧ first.kind = .leftBracket ∧
        property ts ∧ last.kind = .rightBracket := by
  simp only [Expr.canonicalChars, Expr.regexpsBefore, List.cons_append]
  exact h.between (fun _ => tokenAt?_leftBracket) (fun _ => tokenAt?_rightBracket) (by decide)

theorem renders_not {tree : Expr} {property : List Token → Prop}
    (h : Renders tree.canonicalChars (tree.regexpsBefore (')' :: after)) (')' :: after) property) :
    Renders (Expr.not tree).canonicalChars ((Expr.not tree).regexpsBefore after) after
      fun us => ∃ token first ts last, us = token :: first :: (ts ++ [last]) ∧
        token.kind = .not ∧ first.kind = .leftParen ∧ property ts ∧ last.kind = .rightParen := by
  have hparens :=
    h.between (fun _ => tokenAt?_leftParen) (fun _ => tokenAt?_rightParen) (by decide)
  have hnot : Renders "NOT".toList [] (' ' :: ('(' :: (tree.canonicalChars ++ [')'])) ++ after) _ :=
    Renders.kind (by decide) tokenAt?_not
  refine (hnot.append hparens.space).mono ?_
  rintro us ⟨_, _, rfl, ⟨token, rfl, htoken⟩, first, ts, last, rfl, hfirst, hts, hlast⟩
  exact ⟨token, first, ts, last, rfl, htoken, hfirst, hts, hlast⟩

/-- Two pieces with a comparison between them. -/
theorem renders_compared (op : Comparison) {cs ds : List Char}
    {contexts contexts' : List (String × List Char)} {property property' : List Token → Prop}
    (h : Renders cs contexts (' ' :: (op.symbol.toList ++ ' ' :: (ds ++ after))) property)
    (h' : Renders ds contexts' after property') :
    Renders (cs ++ ' ' :: op.symbol.toList ++ ' ' :: ds) (contexts ++ contexts') after
      fun us => ∃ ts token ts', us = ts ++ token :: ts' ∧ property ts ∧ token.kind = op.kind ∧
        property' ts' := by
  have hoperator : Renders op.symbol.toList [] (' ' :: ds ++ after) _ :=
    Renders.kind (Parse.kind_ne_of_comparison? (comparison?_kind op) rfl) (tokenAt?_comparison op)
  have hall := Renders.joined h hoperator.space h'.space
  rw [← List.append_assoc] at hall
  exact hall

theorem renders_comparison {op : Comparison} {left right : Expr}
    {property property' : List Token → Prop}
    (h : ∀ {after}, Delimited after →
      Renders left.canonicalChars (left.regexpsBefore after) after property)
    (h' : Renders right.canonicalChars (right.regexpsBefore after) after property') :
    Renders (Expr.comparison op left right).canonicalChars
      ((Expr.comparison op left right).regexpsBefore after) after
      fun us => ∃ ts token ts', us = ts ++ token :: ts' ∧ property ts ∧ token.kind = op.kind ∧
        property' ts' := by
  have hleft := @h (' ' :: (op.symbol.toList ++ ' ' :: (right.canonicalChars ++ after)))
    (delimited_cons.mpr (Or.inl rfl))
  rw [Expr.canonicalChars, Expr.regexpsBefore]
  exact renders_compared op hleft h'

theorem renders_logical {op : Connective} {left right : Expr}
    {property property' : List Token → Prop}
    (h : ∀ {after}, Delimited after →
      Renders left.canonicalChars (left.regexpsBefore after) after property)
    (h' : Renders right.canonicalChars (right.regexpsBefore (')' :: after)) (')' :: after)
      property') :
    Renders (Expr.logical op left right).canonicalChars
      ((Expr.logical op left right).regexpsBefore after) after
      fun us => ∃ first ts token ts' last, us = first :: (ts ++ token :: ts' ++ [last]) ∧
        first.kind = .leftParen ∧ property ts ∧ token.kind = op.kind ∧ property' ts' ∧
        last.kind = .rightParen := by
  have hoperator : Renders op.symbol.toList [] (' ' :: right.canonicalChars ++ ')' :: after) _ :=
    Renders.kind (by cases op <;> decide) (tokenAt?_connective op)
  have hleft := @h (' ' :: (op.symbol.toList ++ ' ' :: (right.canonicalChars ++ ')' :: after)))
    (delimited_cons.mpr (Or.inl rfl))
  have hinner := Renders.joined hleft hoperator.space h'.space
  have hall := hinner.between (fun _ => tokenAt?_leftParen) (fun _ => tokenAt?_rightParen)
    (by decide)
  rw [← List.append_assoc, ← List.cons_append, ← List.cons_append] at hall
  rw [Expr.canonicalChars, Expr.regexpsBefore]
  refine hall.mono ?_
  rintro us ⟨first, _, last, rfl, hfirst, ⟨ts, token, ts', rfl, hts, htoken, hts'⟩, hlast⟩
  exact ⟨first, ts, token, ts', last, rfl, hfirst, hts, htoken, hts', hlast⟩

theorem renders_items {item next : Expr} {items : List Expr}
    {property property' : List Token → Prop}
    (h : ∀ {after}, Delimited after →
      Renders item.canonicalChars (item.regexpsBefore after) after property)
    (h' : Renders (Expr.canonicalItems (next :: items))
      (Expr.itemRegexpsBefore after (next :: items)) after property') :
    Renders (Expr.canonicalItems (item :: next :: items))
      (Expr.itemRegexpsBefore after (item :: next :: items)) after
      fun us => ∃ ts token ts', us = ts ++ token :: ts' ∧ property ts ∧ token.kind = .comma ∧
        property' ts' := by
  have hcomma : Renders [','] [] (' ' :: Expr.canonicalItems (next :: items) ++ after) _ :=
    Renders.kind (by decide) tokenAt?_comma
  have hitem := @h (',' :: ' ' :: (Expr.canonicalItems (next :: items) ++ after))
    (delimited_cons.mpr (Or.inr (Or.inl rfl)))
  have hall := Renders.joined hitem hcomma h'.space
  rw [Expr.canonicalItems, Expr.itemRegexpsBefore]
  · exact hall
  · exact List.cons_ne_nil _ _
  · exact List.cons_ne_nil _ _

end

/-! ## Derivations -/

theorem Derives.exists_cons_of_items {ts : List Token} {trees : List Expr}
    (h : Derives .items ts (.array trees)) : ∃ item items, trees = item :: items := by
  cases h with
  | lastItem => exact ⟨_, _, rfl⟩
  | nextItem => exact ⟨_, _, rfl⟩

/-- A printed operand is a condition by itself. -/
theorem Derives.unary_of_operand {ts : List Token} {tree : Expr} (h : Derives .operand ts tree) :
    Derives .unary ts tree :=
  .positive (.single (.bare h))

theorem Derives.query_of_unary {ts : List Token} {tree : Expr} (h : Derives .unary ts tree) :
    Derives .query ts tree :=
  .disjunct (.conjunct h)

theorem Derives.query_of_logical {op : Connective} {token : Token} {ts us : List Token}
    {left right : Expr} (hleft : Derives .unary ts left) (hop : token.kind = op.kind)
    (hright : Derives .unary us right) :
    Derives .query (ts ++ token :: us) (.logical op left right) := by
  cases op with
  | and => exact .disjunct (.and (.conjunct hleft) hop hright)
  | or => exact .or hleft.query_of_unary hop (.conjunct hright)

/-- A text that is read whole as tokens of a tree is a query of that tree. -/
theorem Renders.parse_eq {cs : List Char} {contexts : List (String × List Char)}
    {property : List Token → Prop} {tree : Expr} (h : Renders cs contexts [] property)
    (hclosed : Closed contexts) (hderives : ∀ us, property us → Derives .query us tree) :
    parse .extended (String.ofList cs) = .ok (some tree) := by
  obtain ⟨-, us, hus, -, hstream⟩ := h 0 (Or.inl hclosed)
  have htokens : tokenize .extended (String.ofList cs) =
      ⟨us, .complete (0 + Text.utf8Length cs)⟩ := by
    rw [tokenize_eq_streamAt, String.toList_ofList]
    rw [List.append_nil, streamAt_nil] at hstream
    rw [hstream]
    simp [TokenStream.prepend]
  rw [parse_eq_some_iff_derives, htokens]
  exact ⟨⟨_, rfl⟩, hderives us hus⟩

namespace Printable

variable {first last token : Token} {ts us : List Token} {tree left right : Expr}
  {trees : List Expr}

theorem leaf (hlexed : token.Lexed) (htree : token.operand? = some tree) :
    Printable .operand [token] tree := by
  intro after hafter
  refine (renders_leaf hlexed htree hafter).mono ?_
  rintro us ⟨read, rfl, hkind, hread⟩
  exact ⟨.leaf hread, by simp [hkind]⟩

theorem emptyArray (hfirst : first.kind = .leftBracket) :
    Printable .operand [first, last] (.array []) := by
  intro after hafter
  have hitems : Renders (Expr.canonicalItems []) (Expr.itemRegexpsBefore (']' :: after) [])
      (']' :: after) fun us => us = [] := by
    intro offset hclear
    exact ⟨List.forall_mem_nil _, [], rfl, rfl, rfl⟩
  refine (renders_array hitems).mono ?_
  rintro us ⟨first', ts, last', rfl, hfirst', rfl, hlast'⟩
  exact ⟨.emptyArray hfirst' hlast', by simp [hfirst, hfirst']⟩

theorem array (hfirst : first.kind = .leftBracket) (h : Printable .items ts (.array trees)) :
    Printable .operand (first :: (ts ++ [last])) (.array trees) := by
  intro after hafter
  obtain ⟨trees', htrees, hrenders⟩ := @h (']' :: after) (by simp [delimited_cons])
  cases htrees
  refine (renders_array hrenders).mono ?_
  rintro us ⟨first', ts', last', rfl, hfirst', hts', hlast'⟩
  exact ⟨.array hfirst' hts' hlast', by simp [hfirst, hfirst']⟩

theorem lastItem (h : Printable .operand ts tree) : Printable .items ts (.array [tree]) := by
  intro after hafter
  refine ⟨_, rfl, ?_⟩
  rw [Expr.canonicalItems, Expr.itemRegexpsBefore]
  exact (h hafter).mono fun us hus => .lastItem hus.1

theorem nextItem (hitems : Derives .items us (.array trees)) (h : Printable .operand ts tree)
    (h' : Printable .items us (.array trees)) :
    Printable .items (ts ++ token :: us) (.array (tree :: trees)) := by
  intro after hafter
  obtain ⟨next, items, rfl⟩ := hitems.exists_cons_of_items
  obtain ⟨trees', htrees, hrenders⟩ := h' hafter
  cases htrees
  refine ⟨_, rfl, ?_⟩
  refine (renders_items h hrenders).mono ?_
  rintro vs ⟨ts', token, us', rfl, hts', htoken, hus'⟩
  exact .nextItem hts'.1 htoken hus'

/-- The right operand is read back with the same first kind, so the operator takes it again. -/
theorem comparison {op : Comparison} (htakes : op.takes first.kind = true)
    (h : Printable .operand ts left) (h' : Printable .operand (first :: us) right) :
    Printable .condition (ts ++ token :: first :: us) (.comparison op left right) := by
  intro after hafter
  refine (renders_comparison h (h' hafter)).mono ?_
  rintro vs ⟨ts', token', us', rfl, hts', htoken', hderives, hkind⟩
  obtain ⟨first', us', rfl⟩ := List.exists_cons_of_ne_nil hderives.ne_nil
  have hfirst : first'.kind = first.kind := Option.some.inj hkind
  rw [← hfirst] at htakes
  exact .positive (.single (.comparison hts'.1 (htoken' ▸ comparison?_kind op) hderives htakes))

/-- A negation is printed with parentheses behind it. -/
theorem not (h : Printable .primary ts tree) : Printable .unary (first :: ts) (.not tree) := by
  intro after hafter
  refine (renders_not (h (by simp [delimited_cons]))).mono ?_
  rintro us ⟨token, first', ts', last', rfl, htoken, hfirst', hts', hlast'⟩
  exact .not htoken (.nested hfirst' hts'.query_of_unary hlast')

/-- A logical operation is printed in parentheses, whatever its operands were. -/
theorem logical {op : Connective} {after : List Char}
    (h : ∀ {after}, Delimited after →
      Renders left.canonicalChars (left.regexpsBefore after) after (Derives .unary · left))
    (h' : ∀ {after}, Delimited after →
      Renders right.canonicalChars (right.regexpsBefore after) after (Derives .unary · right)) :
    Renders (Expr.logical op left right).canonicalChars
      ((Expr.logical op left right).regexpsBefore after) after
      (Derives .unary · (.logical op left right)) := by
  have hparen : Delimited (')' :: after) := by simp [delimited_cons]
  refine (renders_logical h (h' hparen)).mono ?_
  rintro us ⟨first, ts, token, ts', last, rfl, hfirst, hts, htoken, hts', hlast⟩
  exact .positive (.nested hfirst (hts.query_of_logical htoken hts') hlast)

end Printable

/-- What derives from tokens is printed so that the tokens read back derive it again. -/
theorem printable_of_derives {symbol : Symbol} {ts : List Token} {tree : Expr}
    (h : Derives symbol ts tree) (hlexed : ∀ token ∈ ts, token.Lexed) :
    Printable symbol ts tree := by
  induction h with
  | leaf htree => exact Printable.leaf (hlexed _ (List.mem_singleton_self _)) htree
  | emptyArray hfirst hlast => exact Printable.emptyArray hfirst
  | array hfirst hitems hlast ih =>
      exact Printable.array hfirst (ih fun token htoken => hlexed token (by simp [htoken]))
  | lastItem htree ih => exact Printable.lastItem (ih hlexed)
  | @nextItem comma ts us tree trees htree hcomma hitems ihTree ihItems =>
      rw [List.forall_mem_append, List.forall_mem_cons] at hlexed
      exact @Printable.nextItem comma ts us tree trees hitems (ihTree hlexed.1) (ihItems hlexed.2.2)
  | bare htree ih =>
      intro after hafter
      exact (ih hlexed hafter).mono fun us hus => hus.1.unary_of_operand
  | @comparison op token first ts us left right hleft hop hright htakes ihLeft ihRight =>
      rw [List.forall_mem_append, List.forall_mem_cons] at hlexed
      exact @Printable.comparison first token ts us left right op htakes (ihLeft hlexed.1)
        (ihRight hlexed.2.2)
  | nested hfirst htree hlast ih =>
      intro after hafter
      exact ih (fun token htoken => hlexed token (by simp [htoken])) hafter
  | @not first ts tree hfirst htree ih =>
      exact @Printable.not first ts tree (ih (List.forall_mem_cons.mp hlexed).2)
  | single htree ih | positive htree ih | conjunct htree ih | disjunct htree ih => exact ih hlexed
  | and hleft hop hright ihLeft ihRight | or hleft hop hright ihLeft ihRight =>
      intro after hafter
      rw [List.forall_mem_append, List.forall_mem_cons] at hlexed
      exact Printable.logical (ihLeft hlexed.1) (ihRight hlexed.2.2)

/-! ## Regular expressions of what is read -/

theorem regexps_of_operand? {token : Token} {tree : Expr} (h : token.operand? = some tree) :
    tokenRegexps [token] = tree.regexps := by
  cases Token.denotes_of_operand? h with
  | key hkind | string hkind | regexp hkind | number hkind | boolean hkind | null hkind
  | now hkind => simp [tokenRegexps, hkind, Expr.regexps]

theorem tokenRegexps_cons_of_ne {token : Token} {ts : List Token} (h : token.kind ≠ .regexp) :
    tokenRegexps (token :: ts) = tokenRegexps ts := by
  simp [tokenRegexps, h]

/-- The regular expressions of a tree are those of its tokens, in their order. -/
theorem Derives.tokenRegexps_eq {symbol : Symbol} {ts : List Token} {tree : Expr}
    (h : Derives symbol ts tree) : tokenRegexps ts = tree.regexps := by
  induction h with
  | leaf htree => exact regexps_of_operand? htree
  | emptyArray hfirst hlast => simp [tokenRegexps, hfirst, hlast, Expr.regexps, Expr.itemRegexps]
  | array hfirst _ hlast ih =>
      rw [tokenRegexps_cons_of_ne (by simp [hfirst]), tokenRegexps_append, ih,
        tokenRegexps_singleton (by simp [hlast]), List.append_nil]
  | lastItem _ ih => rw [ih]; simp [Expr.regexps, Expr.itemRegexps]
  | nextItem _ hcomma _ ihTree ihItems =>
      rw [tokenRegexps_append, tokenRegexps_cons_of_ne (by simp [hcomma]), ihTree, ihItems]
      simp [Expr.regexps, Expr.itemRegexps]
  | bare _ ih | single _ ih | positive _ ih | conjunct _ ih | disjunct _ ih => exact ih
  | comparison _ hop _ _ ihLeft ihRight =>
      have hkind : _ ≠ TokenKind.regexp := Parse.kind_ne_of_comparison? hop rfl
      rw [tokenRegexps_append, tokenRegexps_cons_of_ne hkind, ihLeft, ihRight]
      simp [Expr.regexps]
  | nested hfirst _ hlast ih =>
      rw [tokenRegexps_cons_of_ne (by simp [hfirst]), tokenRegexps_append, ih,
        tokenRegexps_singleton (by simp [hlast]), List.append_nil]
  | not hfirst _ ih =>
      rw [tokenRegexps_cons_of_ne (by simp [hfirst]), ih]
      simp [Expr.regexps]
  | and _ hop _ ihLeft ihRight | or _ hop _ ihLeft ihRight =>
      rw [tokenRegexps_append, tokenRegexps_cons_of_ne (by simp [hop]), ihLeft, ihRight]
      simp [Expr.regexps]

end RecordQuery
