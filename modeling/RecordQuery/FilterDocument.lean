import RecordQuery.Json.Basic
import RecordQuery.Number.Notation
import RecordQuery.Pattern.Wildcard
import RecordQuery.Syntax.Expr
import RecordQuery.Syntax.Literal
import RecordQuery.Text.LetterCase
import RecordQuery.Time.Timestamp

/-!
# Filter documents

Queries as filter documents of a document store.  Documents are keyed by field
and have no general negation, so a comparison needs its field on the left, and
negations are pushed down to the fields.
-/

namespace RecordQuery

namespace FilterDocument

inductive DocumentError where
  | literalCondition
  | literalNegated
  | fieldNotOnLeft (op : Comparison)
  | missingWildcard
  | notFinite (x : Binary64)
  /-- The current time has no text. -/
  | timeOutOfRange
  deriving DecidableEq

def DocumentError.message : DocumentError → String
  | .literalCondition => "expected a condition or a field reference, found a literal"
  | .literalNegated => "NOT expects a condition or a field reference, found a literal"
  | .fieldNotOnLeft op => s!"the left operand of {op.symbol} must be a field reference"
  | .missingWildcard => "LIKE needs a string pattern on its right"
  | .notFinite x => s!"cannot translate number {String.ofList x.positional}"
  | .timeOutOfRange => "cannot format NOW"

structure Settings where
  caseSensitive : Bool
  now : Timestamp

def comparisonKey : Comparison → String
  | .equal | .contains => "$eq"
  | .notEqual => "$ne"
  | .less => "$lt"
  | .lessEqual => "$lte"
  | .greater => "$gt"
  | .greaterEqual => "$gte"
  | .within => "$in"
  | .like | .matches => "$regex"

def connectiveKey : Connective → String
  | .and => "$and"
  | .or => "$or"

def single (key : String) (value : Json) : Json :=
  .object [(key, value)]

def existence (path : String) (present : Bool) : Json :=
  single path (single "$exists" (.boolean present))

def pair (key : String) (left right : Json) : Json :=
  single key (.array [left, right])

def regexOperand (settings : Settings) (source : String) : Json :=
  single "$regularExpression" <| .object
    [("options", .string (if settings.caseSensitive then "" else "i")),
      ("pattern", .string source)]

def numberOperand (x : Binary64) : Except DocumentError Json :=
  if x.isFinite then .ok (.float x) else .error (.notFinite x)

def nowOperand (settings : Settings) : Except DocumentError Json :=
  match settings.now.text? with
  | some text => .ok (single "$date" (.string text))
  | none => .error .timeOutOfRange

/-- A string literal as an operand, in lower case where case does not count. -/
def stringOperand (settings : Settings) (raw : String) : Json :=
  let text := Literal.unquote raw
  .string (if settings.caseSensitive then text else Text.toLower text)

def leftPath (op : Comparison) : Expr → Except DocumentError String
  | .field path => .ok path
  | _ => .error (.fieldNotOnLeft op)

/-- The right operand as an operator takes it: a wildcard pattern as a regular expression. -/
def comparand (settings : Settings) (op : Comparison) (operand : Json) :
    Except DocumentError Json :=
  match op, operand with
  | .like, .string pattern => .ok (regexOperand settings (Wildcard.regexSource pattern))
  | .like, _ => .error .missingWildcard
  | _, operand => .ok operand

def comparison (op : Comparison) (path : String) (operand : Json) : Json :=
  single path (single (comparisonKey op) operand)

/-- The document of a negated comparison; a regular expression is negated without its key. -/
def negatedComparison (op : Comparison) (path : String) (operand : Json) : Json :=
  let inner :=
    match op with
    | .like | .matches => operand
    | _ => single (comparisonKey op) operand
  single path (single "$not" inner)

mutual

def operand (settings : Settings) : Expr → Except DocumentError Json
  | .number x => numberOperand x
  | .boolean b => .ok (.boolean b)
  | .null => .ok .null
  | .now => nowOperand settings
  | .string raw => .ok (stringOperand settings raw)
  | .regexp raw => .ok (regexOperand settings (Literal.regexpSource raw))
  | .array items => do
      let operands ← operands settings items
      return .array operands
  | .field path => .ok (.string path)
  | .not inner => negation settings inner
  | .comparison op left right => do
      let path ← leftPath op left
      let value ← comparand settings op (← operand settings right)
      return comparison op path value
  | .logical op left right => do
      let left ← condition settings left
      let right ← condition settings right
      return pair (connectiveKey op) left right

def operands (settings : Settings) : List Expr → Except DocumentError (List Json)
  | [] => .ok []
  | item :: items => do
      let first ← operand settings item
      let rest ← operands settings items
      return first :: rest

/-- A tree as a condition; a bare field is a test whether it is there. -/
def condition (settings : Settings) : Expr → Except DocumentError Json
  | .field path => .ok (existence path true)
  | .not inner => negation settings inner
  | .comparison op left right => do
      let path ← leftPath op left
      let value ← comparand settings op (← operand settings right)
      return comparison op path value
  | .logical op left right => do
      let left ← condition settings left
      let right ← condition settings right
      return pair (connectiveKey op) left right
  | _ => .error .literalCondition

def negation (settings : Settings) : Expr → Except DocumentError Json
  | .not inner => condition settings inner
  | .field path => .ok (existence path false)
  | .logical .and left right => do
      let left ← negation settings left
      let right ← negation settings right
      return pair "$or" left right
  | .logical .or left right => do
      let left ← condition settings left
      let right ← condition settings right
      return pair "$nor" left right
  | .comparison op left right => do
      let path ← leftPath op left
      let value ← comparand settings op (← operand settings right)
      return negatedComparison op path value
  | _ => .error .literalNegated

end

/-- The filter document of a query; a query without tokens has the empty one. -/
def ofQuery (settings : Settings) : Option Expr → Except DocumentError Json
  | none => .ok (.object [])
  | some tree => condition settings tree

end FilterDocument

end RecordQuery
