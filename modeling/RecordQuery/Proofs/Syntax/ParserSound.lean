import RecordQuery.Proofs.Syntax.ParserSteps

/-! # Soundness of the parser

What the parser returns is derived from the tokens that it took.
-/

namespace RecordQuery

namespace Parse

open TokenStream

variable {s s' : TokenStream}

/-- Every success of a parser of trees comes with a derivation from the tokens taken. -/
def Sound (symbol : Symbol) (p : Parse Expr) : Prop :=
  ∀ {s s' : TokenStream} {tree : Expr}, p s = .ok tree s' →
    ∃ used, s.Reads used s' ∧ Derives symbol used tree

/-! ## Operands -/

theorem operandWith_sound {array : Parse Expr} {tree : Expr}
    (harray : ∀ {s s' tree}, s.current.kind = .leftBracket → array s = .ok tree s' →
      ∃ used, s.Reads used s' ∧ Derives .operand used tree)
    (h : operandWith array s = .ok tree s') :
    ∃ used, s.Reads used s' ∧ Derives .operand used tree := by
  cases hleaf : s.current.operand? with
  | some found =>
      rw [operandWith_leaf hleaf] at h
      obtain ⟨rfl, hreads⟩ := leaf_ok h rfl (operand?_kind_ne_end hleaf)
      exact ⟨_, hreads, .leaf hleaf⟩
  | none =>
      by_cases hbracket : s.current.kind = .leftBracket
      · rw [operandWith_array hbracket] at h
        exact harray hbracket h
      · obtain ⟨expected, hother⟩ := operandWith_other hleaf hbracket
        rw [hother] at h
        exact absurd h unexpected_ne_ok

/-- With fuel for every token left, the items end at a closing bracket. -/
theorem items_sound {item : Parse Expr} (hitem : Sound .operand item) {fuel : Nat}
    {trees : List Expr} (hfuel : s.tokens.length ≤ fuel) (h : items item fuel s = .ok trees s') :
    ∃ used last, s.Reads (used ++ [last]) s' ∧ Derives .items used (.array trees) ∧
      last.kind = .rightBracket := by
  induction fuel generalizing s trees with
  | zero =>
      obtain ⟨tree, middle, hfirst, hpure⟩ := exists_of_bind h
      obtain ⟨used, hreads, htree⟩ := hitem hfirst
      have hlength := hreads.length_eq
      have hused := List.length_pos_iff.mpr htree.ne_nil
      omega
  | succ fuel ih =>
      obtain ⟨tree, middle, hfirst, h⟩ := exists_of_bind h
      obtain ⟨used, hreads, htree⟩ := hitem hfirst
      have hlength := hreads.length_eq
      have hused := List.length_pos_iff.mpr htree.ne_nil
      rw [bind_current] at h
      split at h
      · rename_i hcomma
        obtain ⟨comma, behind, hadvance, h⟩ := exists_of_bind h
        obtain ⟨others, final, hitems, hpure⟩ := exists_of_bind h
        obtain ⟨rfl, hreads'⟩ := advance_ok hadvance hcomma (by decide)
        obtain ⟨rfl, rfl⟩ := pure_ok hpure
        obtain ⟨used', last, hreads'', hderives, hlast⟩ :=
          ih (by have := hreads'.length_eq; omega) hitems
        refine ⟨used ++ middle.current :: used', last, ?_, .nextItem htree hcomma hderives, hlast⟩
        have hall := (hreads.trans hreads').trans hreads''
        simpa using hall
      · obtain ⟨last, final, hexpect, hpure⟩ := exists_of_bind h
        obtain ⟨hlast, -, hreads'⟩ := expect_ok hexpect (by decide)
        obtain ⟨rfl, rfl⟩ := pure_ok hpure
        exact ⟨used, last, hreads.trans hreads', .lastItem htree, hlast⟩

theorem arrayRest_sound {item : Parse Expr} (hitem : Sound .operand item) {tree : Expr}
    {first : Token} {before : TokenStream} (hfirst : first.kind = .leftBracket)
    (hbefore : before.Reads [first] s) (h : arrayRest item s = .ok tree s') :
    ∃ used, before.Reads used s' ∧ Derives .operand used tree := by
  rw [arrayRest, bind_current] at h
  split at h
  · rename_i hlast
    obtain ⟨last, middle, hadvance, hpure⟩ := exists_of_bind h
    obtain ⟨rfl, hreads⟩ := advance_ok hadvance hlast (by decide)
    obtain ⟨rfl, rfl⟩ := pure_ok hpure
    exact ⟨_, hbefore.trans hreads, .emptyArray hfirst hlast⟩
  · rw [bind_remaining] at h
    obtain ⟨trees, middle, hitems, hpure⟩ := exists_of_bind h
    obtain ⟨rfl, rfl⟩ := pure_ok hpure
    obtain ⟨used, last, hreads, hderives, hlast⟩ := items_sound hitem (Nat.le_refl _) hitems
    exact ⟨_, hbefore.trans hreads, .array hfirst hderives hlast⟩

theorem operandWithin_sound (depth : Nat) : Sound .operand (operandWithin depth) := by
  induction depth with
  | zero =>
      intro s s' tree h
      exact operandWith_sound (fun _ harray => absurd harray unexpected_ne_ok) h
  | succ depth ih =>
      intro s s' tree h
      refine operandWith_sound (fun hbracket harray => ?_) h
      obtain ⟨first, middle, hadvance, hrest⟩ := exists_of_bind harray
      obtain ⟨rfl, hreads⟩ := advance_ok hadvance hbracket (by decide)
      exact arrayRest_sound ih hbracket hreads hrest

theorem operand_sound : Sound .operand operand := by
  intro s s' tree h
  rw [operand, bind_remaining] at h
  exact operandWithin_sound _ h

/-! ## Conditions -/

/-- A single token of a fixed kind as the right operand. -/
theorem expect_leaf_sound {kind : TokenKind} {expected : Expected} {make : String → Expr}
    (hkind : kind ≠ .endOfInput)
    (hmake : ∀ token : Token, token.kind = kind → token.operand? = some (make token.lexeme))
    {tree : Expr}
    (h : (do return make (← expect kind expected).lexeme : Parse Expr) s = .ok tree s') :
    ∃ first, first.kind = kind ∧ s.Reads [first] s' ∧ Derives .operand [first] tree := by
  obtain ⟨token, middle, hexpect, hpure⟩ := exists_of_bind h
  obtain ⟨htoken, -, hreads⟩ := expect_ok hexpect hkind
  obtain ⟨rfl, rfl⟩ := pure_ok hpure
  exact ⟨token, htoken, hreads, .leaf (hmake token htoken)⟩

theorem rightOperand_sound {op : Comparison} {tree : Expr} (h : rightOperand op s = .ok tree s') :
    ∃ first rest, s.Reads (first :: rest) s' ∧ Derives .operand (first :: rest) tree ∧
      op.takes first.kind = true := by
  have hoperand (htakes : op.takes s.current.kind = true) (h : operand s = .ok tree s') :
      ∃ first rest, s.Reads (first :: rest) s' ∧ Derives .operand (first :: rest) tree ∧
        op.takes first.kind = true := by
    obtain ⟨used, hreads, hderives⟩ := operand_sound h
    obtain ⟨first, rest, rfl⟩ := List.exists_cons_of_ne_nil hderives.ne_nil
    have hcurrent : s.current = first := by
      simp only [TokenStream.current, hreads.tokens, List.cons_append]
    exact ⟨first, rest, hreads, hderives, hcurrent ▸ htakes⟩
  cases op with
  | «matches» =>
      have hmake (token : Token) (htoken : token.kind = .regexp) :
          token.operand? = some (.regexp token.lexeme) := by simp [Token.operand?, htoken]
      obtain ⟨first, hkind, hreads, hderives⟩ := expect_leaf_sound (by decide) hmake h
      exact ⟨first, [], hreads, hderives, by simp [Comparison.takes, hkind]⟩
  | like =>
      have hmake (token : Token) (htoken : token.kind = .string) :
          token.operand? = some (.string token.lexeme) := by simp [Token.operand?, htoken]
      obtain ⟨first, hkind, hreads, hderives⟩ := expect_leaf_sound (by decide) hmake h
      exact ⟨first, [], hreads, hderives, by simp [Comparison.takes, hkind]⟩
  | within =>
      rw [rightOperand, bind_current] at h
      by_cases htakes : Comparison.within.takes s.current.kind = true
      · refine hoperand htakes ?_
        cases hkind : s.current.kind <;> simp_all [Comparison.takes]
      · cases hkind : s.current.kind <;> simp only [hkind] at h
        all_goals first
          | exact absurd h unexpected_ne_ok
          | simp [Comparison.takes, hkind] at htakes
  | equal | notEqual | less | lessEqual | greater | greaterEqual | contains => exact hoperand rfl h

theorem kind_ne_of_comparison? {kind other : TokenKind} {op : Comparison}
    (h : comparison? kind = some op) (hother : comparison? other = none) : kind ≠ other := by
  rintro rfl
  rw [hother] at h
  cases h

theorem condition_sound : Sound .condition condition := by
  intro s s' tree h
  obtain ⟨left, middle, hoperand, h⟩ := exists_of_bind h
  obtain ⟨used, hreads, hleft⟩ := operand_sound hoperand
  rw [bind_current] at h
  cases hop : comparison? middle.current.kind with
  | some op =>
      simp only [hop] at h
      obtain ⟨token, behind, hadvance, h⟩ := exists_of_bind h
      obtain ⟨right, final, hright, hpure⟩ := exists_of_bind h
      obtain ⟨rfl, hreads'⟩ := advance_ok hadvance rfl (kind_ne_of_comparison? hop rfl)
      obtain ⟨first, rest, hreads'', hderives, htakes⟩ := rightOperand_sound hright
      obtain ⟨rfl, rfl⟩ := pure_ok hpure
      refine ⟨used ++ middle.current :: first :: rest, ?_, .comparison hleft hop hderives htakes⟩
      have hall := (hreads.trans hreads').trans hreads''
      simpa using hall
  | none =>
      simp only [hop] at h
      split at h
      · obtain ⟨rfl, rfl⟩ := pure_ok h
        exact ⟨used, hreads, .bare hleft⟩
      · exact absurd h unexpected_ne_ok

/-! ## Connectives -/

section

variable {nested : Parse Expr}

theorem primary_sound (hnested : Sound .query nested) : Sound .primary (primary nested) := by
  intro s s' tree h
  rw [primary, bind_current] at h
  split at h
  · rename_i hfirst
    obtain ⟨first, behind, hadvance, h⟩ := exists_of_bind h
    obtain ⟨inner, middle, hinner, h⟩ := exists_of_bind h
    obtain ⟨last, final, hexpect, hpure⟩ := exists_of_bind h
    obtain ⟨rfl, hreads⟩ := advance_ok hadvance hfirst (by decide)
    obtain ⟨used, hreads', hderives⟩ := hnested hinner
    obtain ⟨hlast, -, hreads''⟩ := expect_ok hexpect (by decide)
    obtain ⟨rfl, rfl⟩ := pure_ok hpure
    refine ⟨s.current :: (used ++ [last]), ?_, .nested hfirst hderives hlast⟩
    have hall := (hreads.trans hreads').trans hreads''
    simpa using hall
  · obtain ⟨used, hreads, hderives⟩ := condition_sound h
    exact ⟨used, hreads, .single hderives⟩

theorem unary_sound (hnested : Sound .query nested) : Sound .unary (unary nested) := by
  intro s s' tree h
  rw [unary, bind_current] at h
  split at h
  · rename_i hfirst
    obtain ⟨first, behind, hadvance, h⟩ := exists_of_bind h
    obtain ⟨inner, middle, hinner, hpure⟩ := exists_of_bind h
    obtain ⟨rfl, hreads⟩ := advance_ok hadvance hfirst (by decide)
    obtain ⟨used, hreads', hderives⟩ := primary_sound hnested hinner
    obtain ⟨rfl, rfl⟩ := pure_ok hpure
    exact ⟨s.current :: used, hreads.trans hreads', .not hfirst hderives⟩
  · obtain ⟨used, hreads, hderives⟩ := primary_sound hnested h
    exact ⟨used, hreads, .positive hderives⟩

/-- Each round of a chain adds its token and its item behind what is derived already. -/
theorem chain_sound {kind : TokenKind} {op : Connective} {item : Parse Expr} {outer inner : Symbol}
    (hkind : kind ≠ .endOfInput) (hitem : Sound inner item)
    (hjoin : ∀ {token ts us left right}, Derives outer ts left → token.kind = kind →
      Derives inner us right → Derives outer (ts ++ token :: us) (.logical op left right))
    {fuel : Nat} {left tree : Expr} {before : TokenStream} {used : List Token}
    (hbefore : before.Reads used s) (hleft : Derives outer used left)
    (h : chain kind op item fuel left s = .ok tree s') :
    ∃ used, before.Reads used s' ∧ Derives outer used tree := by
  induction fuel generalizing s left used with
  | zero =>
      obtain ⟨rfl, rfl⟩ := pure_ok h
      exact ⟨used, hbefore, hleft⟩
  | succ fuel ih =>
      rw [chain, bind_current] at h
      split at h
      · rename_i hcurrent
        obtain ⟨token, behind, hadvance, h⟩ := exists_of_bind h
        obtain ⟨right, middle, hright, h⟩ := exists_of_bind h
        obtain ⟨rfl, hreads⟩ := advance_ok hadvance hcurrent hkind
        obtain ⟨used', hreads', hderives⟩ := hitem hright
        have hall : before.Reads (used ++ s.current :: used') middle := by
          simpa using (hbefore.trans hreads).trans hreads'
        exact ih hall (hjoin hleft hcurrent hderives) h
      · obtain ⟨rfl, rfl⟩ := pure_ok h
        exact ⟨used, hbefore, hleft⟩

theorem conjunction_sound (hnested : Sound .query nested) :
    Sound .conjunction (conjunction nested) := by
  intro s s' tree h
  obtain ⟨first, middle, hfirst, h⟩ := exists_of_bind h
  rw [bind_remaining] at h
  obtain ⟨used, hreads, hderives⟩ := unary_sound hnested hfirst
  exact chain_sound (by decide) (unary_sound hnested) .and hreads (.conjunct hderives) h

theorem disjunction_sound (hnested : Sound .query nested) :
    Sound .query (disjunction nested) := by
  intro s s' tree h
  obtain ⟨first, middle, hfirst, h⟩ := exists_of_bind h
  rw [bind_remaining] at h
  obtain ⟨used, hreads, hderives⟩ := conjunction_sound hnested hfirst
  exact chain_sound (by decide) (conjunction_sound hnested) .or hreads (.disjunct hderives) h

end

theorem queryWithin_sound (depth : Nat) : Sound .query (queryWithin depth) := by
  induction depth with
  | zero =>
      intro s s' tree h
      exact absurd h unexpected_ne_ok
  | succ depth ih =>
      intro s s' tree h
      exact disjunction_sound ih h

/-- A query that is returned is derived from all tokens, and the text is complete behind them. -/
theorem query_sound {tree : Expr} (hkinds : ∀ token ∈ s.tokens, token.kind ≠ .endOfInput)
    (hs : s.Readable) (h : query s = .ok (some tree) s') :
    (∃ offset, s.ending = .complete offset) ∧ Derives .query s.tokens tree := by
  rw [query, bind_current] at h
  split at h
  · cases h
  rw [bind_remaining] at h
  obtain ⟨inner, middle, hinner, h⟩ := exists_of_bind h
  obtain ⟨last, final, hexpect, hpure⟩ := exists_of_bind h
  obtain ⟨hsome, rfl⟩ := pure_ok hpure
  cases hsome
  obtain ⟨used, hreads, hderives⟩ := queryWithin_sound _ hinner
  have hnil : middle.tokens = [] := by
    rw [expect, bind_current] at hexpect
    split at hexpect
    · rename_i hend
      cases htokens : middle.tokens with
      | nil => rfl
      | cons token rest =>
          have hmem : token ∈ s.tokens := by simp [hreads.tokens, htokens]
          simp only [TokenStream.current, htokens] at hend
          exact absurd hend (hkinds token hmem)
    · exact absurd hexpect unexpected_ne_ok
  have hall : s.tokens = used := by rw [hreads.tokens, hnil, List.append_nil]
  obtain ⟨offset, hoffset⟩ := hreads.readable hs hnil
  exact ⟨⟨offset, hreads.ending ▸ hoffset⟩, hall ▸ hderives⟩

end Parse

end RecordQuery
