import RecordQuery.Syntax.Expr

/-!
# Validity

Which trees have a meaning as a filter.  The check looks at the shape of a tree
only, and at no record.
-/

namespace RecordQuery

inductive ValidationError where
  /-- The whole query is a literal. -/
  | bareLiteral
  /-- A connective has a literal operand. -/
  | literalOperand (op : Connective)
  /-- A literal is negated. -/
  | literalNegated
  /-- Neither side of a comparison is a field reference. -/
  | noFieldOperand (op : Comparison)
  deriving DecidableEq

def ValidationError.message : ValidationError → String
  | .bareLiteral => "a literal cannot stand alone as a query"
  | .literalOperand op => s!"{op.symbol} expects conditions, found a literal operand"
  | .literalNegated => "NOT expects conditions, found a literal operand"
  | .noFieldOperand op => s!"{op.symbol} needs a field reference on at least one side"

namespace Expr

/-- Check the operations of a tree, from left to right. -/
def validateParts : Expr → Except ValidationError Unit
  | .not operand =>
      if operand.isLiteral then .error .literalNegated else validateParts operand
  | .comparison op left right =>
      if left.isField || right.isField then .ok () else .error (.noFieldOperand op)
  | .logical op left right => do
      if left.isLiteral then .error (.literalOperand op) else validateParts left
      if right.isLiteral then .error (.literalOperand op) else validateParts right
  | _ => .ok ()

def validate (tree : Expr) : Except ValidationError Unit :=
  if tree.isLiteral then .error .bareLiteral else tree.validateParts

end Expr

end RecordQuery
