import RecordQuery.Number.Binary64

/-!
# Expressions

The syntax tree of a query.  String and regular expression literals keep their
text as written, delimiters and escapes included.
-/

namespace RecordQuery

inductive Comparison where
  | equal
  | notEqual
  | less
  | lessEqual
  | greater
  | greaterEqual
  /-- The left is an element, a part or a key of the right. -/
  | within
  /-- The right is an element, a part or a key of the left. -/
  | contains
  /-- The whole text fits a wildcard pattern. -/
  | like
  /-- A regular expression is found in the text. -/
  | matches
  deriving DecidableEq

def Comparison.symbol : Comparison → String
  | .equal => "=="
  | .notEqual => "!="
  | .less => "<"
  | .lessEqual => "<="
  | .greater => ">"
  | .greaterEqual => ">="
  | .within => "IN"
  | .contains => "CONTAINS"
  | .like => "LIKE"
  | .matches => "MATCH"

inductive Connective where
  | and
  | or
  deriving DecidableEq

def Connective.symbol : Connective → String
  | .and => "AND"
  | .or => "OR"

inductive Expr where
  | number (x : Binary64)
  | boolean (b : Bool)
  | null
  | now
  /-- A string with its quotes. -/
  | string (raw : String)
  /-- A regular expression with its slashes. -/
  | regexp (raw : String)
  | array (items : List Expr)
  | field (path : String)
  | not (operand : Expr)
  | comparison (op : Comparison) (left right : Expr)
  | logical (op : Connective) (left right : Expr)

namespace Expr

def isField : Expr → Bool
  | .field _ => true
  | _ => false

/-- Whether the tree is a literal; a field reference is none. -/
def isLiteral : Expr → Bool
  | .number _ | .boolean _ | .null | .now | .string _ | .regexp _ | .array _ => true
  | .field _ | .not _ | .comparison .. | .logical .. => false

mutual

/-- Equality of trees, numbers being compared by value. -/
def beq : Expr → Expr → Bool
  | .number x, .number y => x == y
  | .boolean a, .boolean b => a == b
  | .null, .null => true
  | .now, .now => true
  | .string a, .string b => a == b
  | .regexp a, .regexp b => a == b
  | .array a, .array b => beqItems a b
  | .field a, .field b => a == b
  | .not a, .not b => beq a b
  | .comparison op a b, .comparison op' a' b' => op == op' && beq a a' && beq b b'
  | .logical op a b, .logical op' a' b' => op == op' && beq a a' && beq b b'
  | _, _ => false

def beqItems : List Expr → List Expr → Bool
  | [], [] => true
  | a :: as, b :: bs => beq a b && beqItems as bs
  | _, _ => false

end

instance : BEq Expr := ⟨beq⟩

end Expr

end RecordQuery
