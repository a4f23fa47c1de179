import RecordQuery.Proofs.Syntax.Boundaries
import RecordQuery.Proofs.Syntax.PrintedTrees

/-! # Queries put together from queries

A query is read as the same tree wherever it stands in front of a closing
parenthesis, so texts in parentheses can be joined and negated.
-/

namespace RecordQuery

/-! ## Offsets -/

/-- The token in a text with `distance` more bytes in front. -/
def Token.shift (distance : Nat) (token : Token) : Token :=
  { token with offset := token.offset + distance }

def Ending.shift (distance : Nat) : Ending → Ending
  | .complete offset => .complete (offset + distance)
  | .failed error => .failed { error with offset := error.offset + distance }

def TokenStream.shift (distance : Nat) (s : TokenStream) : TokenStream :=
  ⟨s.tokens.map (Token.shift distance), s.ending.shift distance⟩

theorem TokenStream.shift_prepend (distance : Nat) (ts : List Token) (s : TokenStream) :
    (s.prepend ts).shift distance =
      (s.shift distance).prepend (ts.map (Token.shift distance)) := by
  simp [shift, prepend]

/-- A text further behind gives the same tokens further behind. -/
theorem streamAt_shift (dialect : Dialect) (offset distance : Nat) (cs : List Char) :
    streamAt dialect (offset + distance) cs = (streamAt dialect offset cs).shift distance := by
  induction cs using lexing_induction dialect generalizing offset with
  | nil => rfl
  | space c cs hc ih => rw [streamAt_space hc, streamAt_space hc, Nat.add_right_comm, ih]
  | token cs kind n hat ih =>
      rw [streamAt_token hat, streamAt_token hat, Nat.add_right_comm, ih,
        TokenStream.shift_prepend]
      rfl
  | failed c cs hc hat =>
      rw [streamAt_failed hc hat, streamAt_failed hc hat]
      rfl

/-- Derivations look at kinds and lexemes only. -/
theorem Derives.shift {symbol : Symbol} {ts : List Token} {tree : Expr} (distance : Nat)
    (h : Derives symbol ts tree) : Derives symbol (ts.map (Token.shift distance)) tree := by
  induction h with
  | leaf htree => exact .leaf htree
  | emptyArray hfirst hlast => exact .emptyArray hfirst hlast
  | array hfirst _ hlast ih =>
      rw [List.map_cons, List.map_append]
      exact .array hfirst ih hlast
  | lastItem _ ih => exact .lastItem ih
  | nextItem _ hcomma _ ihTree ihItems =>
      rw [List.map_append, List.map_cons]
      exact .nextItem ihTree hcomma ihItems
  | bare _ ih => exact .bare ih
  | comparison _ hop _ htakes ihLeft ihRight =>
      rw [List.map_append, List.map_cons, List.map_cons]
      exact .comparison ihLeft hop ihRight htakes
  | nested hfirst _ hlast ih =>
      rw [List.map_cons, List.map_append]
      exact .nested hfirst ih hlast
  | single _ ih => exact .single ih
  | not hfirst _ ih => exact .not hfirst ih
  | positive _ ih => exact .positive ih
  | conjunct _ ih => exact .conjunct ih
  | and _ hop _ ihLeft ihRight =>
      rw [List.map_append, List.map_cons]
      exact .and ihLeft hop ihRight
  | disjunct _ ih => exact .disjunct ih
  | or _ hop _ ihLeft ihRight =>
      rw [List.map_append, List.map_cons]
      exact .or ihLeft hop ihRight

/-! ## Pieces -/

/-- The regular expressions of a query, each with what stands behind the query. -/
def Expr.regexpsWithin (after : List Char) (tree : Expr) : List (String × List Char) :=
  tree.regexps.map (·, after)

theorem Boundary.closed {after : List Char} (hafter : Boundary after) (tree : Expr) :
    Closed (tree.regexpsWithin after) := by
  intro context hcontext
  obtain ⟨raw, -, rfl⟩ := List.mem_map.mp hcontext
  exact hafter.line

theorem boundary_rightParen {after : List Char} (hafter : ∀ c ∈ after.head?, c = '\n') :
    Boundary (')' :: after) where
  head := by simp [endsToken, isIdentifierChar]
  line := by
    rw [Recognise.slashAhead_cons]
    rintro (⟨hslash, -⟩ | ⟨-, hslash⟩)
    · cases hslash
    cases after with
    | nil => simp [Recognise.SlashAhead] at hslash
    | cons c after =>
        rw [hafter c rfl, Recognise.slashAhead_cons] at hslash
        rcases hslash with ⟨hslash, -⟩ | ⟨hline, -⟩
        · cases hslash
        · exact hline rfl

variable {text text' : String} {tree tree' : Expr} {after : List Char}

/-- In front of a boundary a query is read as the tokens that it has by itself. -/
theorem renders_query (h : parse .extended text = .ok (some tree)) (hafter : Boundary after) :
    Renders text.toList (tree.regexpsWithin after) after (Derives .query · tree) := by
  intro offset hclear
  obtain ⟨⟨finish, hending⟩, hderives⟩ := parse_eq_some_iff_derives.mp h
  have hshift := streamAt_shift .extended 0 offset text.toList
  rw [Nat.zero_add, ← tokenize_eq_streamAt] at hshift
  have hmoved : Derives .query (streamAt .extended offset text.toList).tokens tree := by
    rw [hshift]
    exact hderives.shift offset
  have hcomplete : (streamAt .extended offset text.toList).ending =
      .complete (finish + offset) := by
    rw [hshift, TokenStream.shift, hending, Ending.shift]
  refine ⟨hafter.closed tree, _, hmoved, ?_, streamAt_boundary hafter hcomplete⟩
  rw [hmoved.tokenRegexps_eq, Expr.regexpsWithin, List.map_map]
  exact (List.map_id _).symm

/-- A query in parentheses, which may end a line. -/
theorem renders_parenthesised (h : parse .extended text = .ok (some tree))
    (hafter : ∀ c ∈ after.head?, c = '\n') :
    Renders ('(' :: (text.toList ++ [')'])) (tree.regexpsWithin (')' :: after)) after
      (Derives .primary · tree) := by
  have hquery := renders_query h (boundary_rightParen hafter)
  refine (hquery.between (fun _ => tokenAt?_leftParen) (fun _ => tokenAt?_rightParen)
    (by decide)).mono ?_
  rintro us ⟨first, ts, last, rfl, hfirst, hts, hlast⟩
  exact .nested hfirst hts hlast

theorem renders_lastParenthesised (h : parse .extended text = .ok (some tree)) :
    Renders ('(' :: (text.toList ++ [')'])) (tree.regexpsWithin [')']) []
      (Derives .primary · tree) :=
  renders_parenthesised h (by simp)

theorem closed_lastParenthesised (tree : Expr) : Closed (tree.regexpsWithin [')']) :=
  (boundary_rightParen (by simp)).closed tree

/-- Two queries in parentheses, with a connective on the line between them. -/
theorem renders_joined (op : Connective) (h : parse .extended text = .ok (some tree))
    (h' : parse .extended text' = .ok (some tree')) :
    ∃ contexts, Closed contexts ∧
      Renders ('(' :: (text.toList ++ [')']) ++
        ('\n' :: op.symbol.toList ++ '\n' :: '(' :: (text'.toList ++ [')']))) contexts []
        fun us => ∃ ts token ts', us = ts ++ token :: ts' ∧ Derives .primary ts tree ∧
          token.kind = op.kind ∧ Derives .primary ts' tree' := by
  have hline : Text.isWhiteSpace '\n' = true := by decide
  have hkind : op.kind ≠ .regexp := by cases op <;> decide
  have hsymbol (after : List Char) : tokenAt? .extended (op.symbol.toList ++ '\n' :: after) =
      some (op.kind, op.symbol.toList.length) := by
    cases op <;> rfl
  -- the symbol is hidden, so that nothing computes its characters
  generalize op.symbol.toList = symbol at hsymbol ⊢
  have hright := renders_lastParenthesised h'
  have hmiddle : Renders symbol [] ('\n' :: '(' :: (text'.toList ++ [')']) ++ []) _ :=
    Renders.kind hkind (hsymbol _)
  have hbehind : ∀ c ∈ ('\n' :: symbol ++ ('\n' :: '(' :: (text'.toList ++ [')']) ++ [])).head?,
      c = '\n' := by simp
  have hleft := renders_parenthesised h hbehind
  have hclosed := (boundary_rightParen hbehind).closed tree
  exact ⟨_, closed_append.mpr ⟨hclosed, closed_lastParenthesised tree'⟩,
    Renders.joined hleft (hmiddle.whiteSpace hline) (hright.whiteSpace hline)⟩

/-! ## Composed queries -/

theorem parse_parenthesised (h : parse .extended text = .ok (some tree)) :
    parse .extended ("(" ++ text ++ ")") = .ok (some tree) := by
  have htext : String.ofList ('(' :: (text.toList ++ [')'])) = "(" ++ text ++ ")" := by
    simp [← String.toList_inj]
  rw [← htext]
  exact (renders_lastParenthesised h).parse_eq (closed_lastParenthesised tree)
    fun _ hus => .query_of_unary (.positive hus)

theorem parse_negated (h : parse .extended text = .ok (some tree)) :
    parse .extended ("NOT (" ++ text ++ ")") = .ok (some (.not tree)) := by
  have hnot : Renders "NOT".toList [] (' ' :: '(' :: (text.toList ++ [')']) ++ []) _ :=
    Renders.kind (by decide) tokenAt?_not
  have hall := hnot.append (renders_lastParenthesised h).space
  have htext : String.ofList ("NOT".toList ++ ' ' :: '(' :: (text.toList ++ [')'])) =
      "NOT (" ++ text ++ ")" := by
    simp [← String.toList_inj]
  rw [← htext]
  refine hall.parse_eq (closed_lastParenthesised tree) ?_
  rintro us ⟨_, ts, rfl, ⟨token, rfl, htoken⟩, hts⟩
  exact .query_of_unary (.not htoken hts)

theorem parse_joined (op : Connective) (h : parse .extended text = .ok (some tree))
    (h' : parse .extended text' = .ok (some tree')) :
    parse .extended ("(" ++ text ++ (")\n" ++ op.symbol ++ "\n(") ++ text' ++ ")") =
      .ok (some (.logical op tree tree')) := by
  obtain ⟨contexts, hclosed, hall⟩ := renders_joined op h h'
  have htext : String.ofList ('(' :: (text.toList ++ [')']) ++
      ('\n' :: op.symbol.toList ++ '\n' :: '(' :: (text'.toList ++ [')']))) =
        "(" ++ text ++ (")\n" ++ op.symbol ++ "\n(") ++ text' ++ ")" := by
    simp [← String.toList_inj]
  rw [← htext]
  refine hall.parse_eq hclosed ?_
  rintro us ⟨ts, token, ts', rfl, hts, htoken, hts'⟩
  exact .query_of_logical (.positive hts) htoken (.positive hts')

/-- Queries compose textually. -/
theorem parse_composed (h : parse .extended text = .ok (some tree))
    (h' : parse .extended text' = .ok (some tree')) :
    parse .extended ("(" ++ text ++ ")\nAND\n(" ++ text' ++ ")") =
        .ok (some (.logical .and tree tree')) ∧
      parse .extended ("(" ++ text ++ ")\nOR\n(" ++ text' ++ ")") =
        .ok (some (.logical .or tree tree')) ∧
      parse .extended ("NOT (" ++ text ++ ")") = .ok (some (.not tree)) ∧
      parse .extended ("(" ++ text ++ ")") = .ok (some tree) := by
  have hand : ")\nAND\n(" = ")\n" ++ Connective.and.symbol ++ "\n(" := by decide
  have hor : ")\nOR\n(" = ")\n" ++ Connective.or.symbol ++ "\n(" := by decide
  rw [hand, hor]
  exact ⟨parse_joined .and h h', parse_joined .or h h', parse_negated h, parse_parenthesised h⟩

/-- A regular expression with a parenthesis in it, and slashes on both sides of the line break. -/
theorem parse_composed_of_regexps :
    parse .extended "(b OR a MATCH /x(/)\nAND\n(NOT `k/` IN ['/)'])" =
        .ok (some (.logical .and
          (.logical .or (.field "b") (.comparison .matches (.field "a") (.regexp "/x(/")))
          (.not (.comparison .within (.field "k/") (.array [.string "'/)'"]))))) := by
  have hleft : parse .extended "b OR a MATCH /x(/" = .ok (some (.logical .or (.field "b")
      (.comparison .matches (.field "a") (.regexp "/x(/")))) := by cbv
  have hright : parse .extended "NOT `k/` IN ['/)']" = .ok (some (.not
      (.comparison .within (.field "k/") (.array [.string "'/)'"])))) := by cbv
  exact (parse_composed hleft hright).1

end RecordQuery
