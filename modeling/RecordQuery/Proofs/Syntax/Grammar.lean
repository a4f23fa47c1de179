import Mathlib
import RecordQuery.Syntax.Parser

/-! # The grammar of queries

Which lists of tokens derive which trees.  Connectives join from the left, AND
binds closer than OR, a negation stands before one primary, and parentheses
leave nothing in the tree.
-/

namespace RecordQuery

/-- The operand that a token is by itself; a number has to be finite. -/
def Token.operand? (token : Token) : Option Expr :=
  match token.kind with
  | .key => some (.field (Parse.keyPath token.lexeme))
  | .string => some (.string token.lexeme)
  | .regexp => some (.regexp token.lexeme)
  | .number => (Parse.finiteNumber? token.lexeme).map .number
  | .boolean => some (.boolean (Parse.isTrue token.lexeme))
  | .null => some .null
  | .now => some .now
  | _ => none

/-- What single tokens denote, kind by kind. -/
inductive Token.Denotes (token : Token) : Expr → Prop
  | key (hkind : token.kind = .key) : Denotes token (.field (Parse.keyPath token.lexeme))
  | string (hkind : token.kind = .string) : Denotes token (.string token.lexeme)
  | regexp (hkind : token.kind = .regexp) : Denotes token (.regexp token.lexeme)
  | number {x : Binary64} (hkind : token.kind = .number)
      (hx : Parse.finiteNumber? token.lexeme = some x) : Denotes token (.number x)
  | boolean (hkind : token.kind = .boolean) :
      Denotes token (.boolean (Parse.isTrue token.lexeme))
  | null (hkind : token.kind = .null) : Denotes token .null
  | now (hkind : token.kind = .now) : Denotes token .now

theorem Token.denotes_of_operand? {token : Token} {tree : Expr}
    (h : token.operand? = some tree) : token.Denotes tree := by
  unfold operand? at h
  cases hkind : token.kind <;> simp only [hkind, reduceCtorEq] at h
  case number =>
    obtain ⟨x, hx, rfl⟩ := Option.map_eq_some_iff.mp h
    exact .number hkind hx
  all_goals cases h
  case key => exact .key hkind
  case string => exact .string hkind
  case regexp => exact .regexp hkind
  case boolean => exact .boolean hkind
  case null => exact .null hkind
  case now => exact .now hkind

/-- Whether the right operand of a comparison may start with a token of the given kind. -/
def Comparison.takes : Comparison → TokenKind → Bool
  | .matches, kind => kind == .regexp
  | .like, kind => kind == .string
  | .within, kind => kind == .leftBracket || kind == .string || kind == .key
  | _, _ => true

/-- The nonterminals of the grammar.  The items of an array derive an array. -/
inductive Symbol where
  | operand
  | items
  | condition
  | primary
  | unary
  | conjunction
  | query
  deriving DecidableEq

def TokenKind.startsOperand : TokenKind → Bool
  | .key | .string | .regexp | .number | .boolean | .null | .now | .leftBracket => true
  | _ => false

def Symbol.starts : Symbol → TokenKind → Bool
  | .operand, kind | .items, kind | .condition, kind => kind.startsOperand
  | .primary, kind => kind.startsOperand || kind == .leftParen
  | .unary, kind | .conjunction, kind | .query, kind =>
      kind.startsOperand || kind == .leftParen || kind == .not

theorem Token.startsOperand_of_operand? {token : Token} {tree : Expr}
    (h : token.operand? = some tree) : token.kind.startsOperand = true := by
  cases denotes_of_operand? h with
  | key hkind | string hkind | regexp hkind | number hkind | boolean hkind | null hkind
  | now hkind =>
      rw [hkind]
      rfl

/-- A list of tokens derives a tree. -/
inductive Derives : Symbol → List Token → Expr → Prop
  | leaf {token : Token} {tree : Expr} (htree : token.operand? = some tree) :
      Derives .operand [token] tree
  | emptyArray {first last : Token} (hfirst : first.kind = .leftBracket)
      (hlast : last.kind = .rightBracket) : Derives .operand [first, last] (.array [])
  | array {first last : Token} {ts : List Token} {trees : List Expr}
      (hfirst : first.kind = .leftBracket) (hitems : Derives .items ts (.array trees))
      (hlast : last.kind = .rightBracket) :
      Derives .operand (first :: (ts ++ [last])) (.array trees)
  | lastItem {ts : List Token} {tree : Expr} (htree : Derives .operand ts tree) :
      Derives .items ts (.array [tree])
  | nextItem {comma : Token} {ts us : List Token} {tree : Expr} {trees : List Expr}
      (htree : Derives .operand ts tree) (hcomma : comma.kind = .comma)
      (hitems : Derives .items us (.array trees)) :
      Derives .items (ts ++ comma :: us) (.array (tree :: trees))
  | bare {ts : List Token} {tree : Expr} (htree : Derives .operand ts tree) :
      Derives .condition ts tree
  | comparison {op : Comparison} {token first : Token} {ts us : List Token} {left right : Expr}
      (hleft : Derives .operand ts left) (hop : Parse.comparison? token.kind = some op)
      (hright : Derives .operand (first :: us) right) (htakes : op.takes first.kind = true) :
      Derives .condition (ts ++ token :: first :: us) (.comparison op left right)
  | nested {first last : Token} {ts : List Token} {tree : Expr}
      (hfirst : first.kind = .leftParen) (htree : Derives .query ts tree)
      (hlast : last.kind = .rightParen) : Derives .primary (first :: (ts ++ [last])) tree
  | single {ts : List Token} {tree : Expr} (htree : Derives .condition ts tree) :
      Derives .primary ts tree
  | not {first : Token} {ts : List Token} {tree : Expr} (hfirst : first.kind = .not)
      (htree : Derives .primary ts tree) : Derives .unary (first :: ts) (.not tree)
  | positive {ts : List Token} {tree : Expr} (htree : Derives .primary ts tree) :
      Derives .unary ts tree
  | conjunct {ts : List Token} {tree : Expr} (htree : Derives .unary ts tree) :
      Derives .conjunction ts tree
  | and {token : Token} {ts us : List Token} {left right : Expr}
      (hleft : Derives .conjunction ts left) (hop : token.kind = .and)
      (hright : Derives .unary us right) :
      Derives .conjunction (ts ++ token :: us) (.logical .and left right)
  | disjunct {ts : List Token} {tree : Expr} (htree : Derives .conjunction ts tree) :
      Derives .query ts tree
  | or {token : Token} {ts us : List Token} {left right : Expr}
      (hleft : Derives .query ts left) (hop : token.kind = .or)
      (hright : Derives .conjunction us right) :
      Derives .query (ts ++ token :: us) (.logical .or left right)

namespace Derives

variable {symbol : Symbol} {ts : List Token} {tree : Expr}

theorem ne_nil (h : Derives symbol ts tree) : ts ≠ [] := by
  induction h with
  | leaf | emptyArray | array | nextItem | comparison | nested | not | and | or => simp
  | lastItem _ ih | bare _ ih | single _ ih | positive _ ih | conjunct _ ih | disjunct _ ih =>
      exact ih

theorem first_starts (h : Derives symbol ts tree) :
    ∃ first rest, ts = first :: rest ∧ symbol.starts first.kind = true := by
  induction h with
  | leaf htree => exact ⟨_, [], rfl, Token.startsOperand_of_operand? htree⟩
  | emptyArray hfirst | array hfirst =>
      exact ⟨_, _, rfl, by simp [Symbol.starts, TokenKind.startsOperand, hfirst]⟩
  | nested hfirst | not hfirst => exact ⟨_, _, rfl, by simp [Symbol.starts, hfirst]⟩
  | lastItem _ ih | bare _ ih | conjunct _ ih | disjunct _ ih => exact ih
  | nextItem _ _ _ ih | comparison _ _ _ _ ih | and _ _ _ ih | or _ _ _ ih =>
      obtain ⟨first, rest, rfl, hstarts⟩ := ih
      exact ⟨first, _, rfl, hstarts⟩
  | single _ ih | positive _ ih =>
      obtain ⟨first, rest, rfl, hstarts⟩ := ih
      exact ⟨first, rest, rfl, by simp_all [Symbol.starts]⟩

end Derives

end RecordQuery
