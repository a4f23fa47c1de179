import RecordQuery.Path
import RecordQuery.Pattern.Cache
import RecordQuery.Value.Comparison

/-!
# Evaluation

The truth of a tree for a record.  A field reference stands for all values that
its path leads to, and a comparison holds if it holds for any of them.
-/

namespace RecordQuery

inductive EvaluationError where
  | regexpOperand (op : Comparison)
  | conditionOperand (op : Comparison)
  | literalCondition
  | regexpItem
  | missingRegexp
  | missingWildcard
  /-- A strict path leads nowhere. -/
  | keyNotFound (path : String)
  | invalidPattern (source : String)
  deriving DecidableEq

def EvaluationError.message : EvaluationError → String
  | .regexpOperand op => s!"a regular expression cannot be an operand of {op.symbol}"
  | .conditionOperand op => s!"a condition cannot be an operand of {op.symbol}"
  | .literalCondition => "a literal cannot be used as a condition"
  | .regexpItem => "a regular expression cannot be an array element"
  | .missingRegexp => "MATCH needs a regular expression on its right"
  | .missingWildcard => "LIKE needs a string pattern on its right"
  | .keyNotFound path => s!"key '{path}' not found"
  | .invalidPattern source => s!"invalid pattern '{source}'"

/-- What a tree stands for. -/
inductive Term where
  /-- The values of a field reference. -/
  | values (vs : List Value)
  | literal (v : Value)
  | pattern (regex : Regex)
  | truth (holds : Bool)

namespace Term

/-- The values on one side of a comparison; a literal is its only value. -/
def toValues (op : Comparison) : Term → Except EvaluationError (List Value)
  | .values vs => .ok vs
  | .literal v => .ok [v]
  | .pattern _ => .error (.regexpOperand op)
  | .truth _ => .error (.conditionOperand op)

/-- The truth of a term as a condition: a field reference holds if any of its values does. -/
def toTruth : Term → Except EvaluationError Bool
  | .truth holds => .ok holds
  | .values vs => .ok (vs.any Value.isTruthy)
  | .literal _ | .pattern _ => .error .literalCondition

def toItems : Term → Except EvaluationError (List Value)
  | .literal v => .ok [v]
  | .values vs => .ok vs
  | .truth holds => .ok [.boolean holds]
  | .pattern _ => .error .regexpItem

end Term

def Comparison.holds (op : Comparison) (left right : Value) : Bool :=
  match op with
  | .equal => left.looseEq right
  | .notEqual => !left.looseEq right
  | .less => left.compare? right == some .lt
  | .lessEqual => left.compare? right == some .lt || left.compare? right == some .eq
  | .greater => left.compare? right == some .gt
  | .greaterEqual => left.compare? right == some .gt || left.compare? right == some .eq
  | .within => right.contains left
  | .contains => left.contains right
  | .like | .matches => false

structure Context where
  record : Value
  paths : PathOptions
  caseSensitive : Bool
  patterns : PatternCache
  now : Timestamp

namespace Context

/-- A value as it is compared. -/
def fold (ctx : Context) (v : Value) : Value :=
  if ctx.caseSensitive then v else v.toLower

def regex (ctx : Context) (pattern : Pattern) : Except EvaluationError Regex :=
  match ctx.patterns.get pattern with
  | .ok regex => .ok regex
  | .error invalid => .error (.invalidPattern invalid.source)

def fieldValues (ctx : Context) (path : String) : Except EvaluationError (List Value) :=
  match Path.resolve? ctx.paths ctx.record path with
  | some found => .ok (found.map ctx.fold)
  | none => .error (.keyNotFound path)

/-- Whether a regular expression is found in any of the texts on the left. -/
def search (op : Comparison) (left : Term) (regex : Regex) : Except EvaluationError Term := do
  let vs ← left.toValues op
  return .truth <| vs.any fun
    | .string text => regex.isMatch text
    | _ => false

def searchRegexp (left right : Term) : Except EvaluationError Term :=
  match right with
  | .pattern regex => search .matches left regex
  | _ => .error .missingRegexp

def searchWildcard (ctx : Context) (left right : Term) : Except EvaluationError Term :=
  match right with
  | .literal (.string text) => do
      let regex ← ctx.regex (.wildcard text)
      search .like left regex
  | _ => .error .missingWildcard

/-- Whether an operator holds between any two values of its sides. -/
def holdsBetween (op : Comparison) (left right : List Value) : Bool :=
  left.any fun l => right.any fun r => op.holds l r

def settles (op : Connective) (left : Bool) : Bool :=
  match op with
  | .and => !left
  | .or => left

mutual

/-- What a tree stands for, evaluated from left to right. -/
def term (ctx : Context) : Expr → Except EvaluationError Term
  | .number x => .ok (.literal (.float x))
  | .boolean b => .ok (.literal (.boolean b))
  | .null => .ok (.literal .null)
  | .now => .ok (.literal (.timestamp ctx.now))
  | .string raw => .ok (.literal (ctx.fold (.string (Literal.unquote raw))))
  | .regexp raw => do
      let regex ← ctx.regex (.regexp (Literal.regexpSource raw))
      return .pattern regex
  | .array items => do
      let vs ← itemValues ctx items
      return .literal (.array vs)
  | .field path => do
      let vs ← ctx.fieldValues path
      return .values vs
  | .not operand => do
      let holds ← (← term ctx operand).toTruth
      return .truth !holds
  | .comparison .matches left right => do
      let left ← term ctx left
      let right ← term ctx right
      searchRegexp left right
  | .comparison .like left right => do
      let left ← term ctx left
      let right ← term ctx right
      ctx.searchWildcard left right
  | .comparison op left right => do
      let left ← (← term ctx left).toValues op
      let right ← (← term ctx right).toValues op
      return .truth (holdsBetween op left right)
  | .logical op left right => do
      let left ← (← term ctx left).toTruth
      if settles op left then return .truth left
      else
        let right ← (← term ctx right).toTruth
        return .truth right

/-- The values of the items of an array literal; a field reference adds all of its values. -/
def itemValues (ctx : Context) : List Expr → Except EvaluationError (List Value)
  | [] => .ok []
  | item :: items => do
      let first ← (← term ctx item).toItems
      let rest ← itemValues ctx items
      return first ++ rest

end

def evaluate (ctx : Context) (tree : Expr) : Except EvaluationError Bool := do
  (← ctx.term tree).toTruth

end Context

end RecordQuery
