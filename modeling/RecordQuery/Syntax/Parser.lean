import RecordQuery.Syntax.Expr
import RecordQuery.Syntax.Lexer
import RecordQuery.Syntax.Literal

/-!
# Parser

A recursive descent parser with one token of lookahead, for the grammar

```text
query       := conjunction (OR conjunction)*
conjunction := unary (AND unary)*
unary       := NOT primary | primary
primary     := '(' query ')'
             | operand (comparison operand | MATCH REGEXP | LIKE STRING
                       | IN (array | STRING | KEY))?
operand     := KEY | STRING | NUMBER | BOOLEAN | NULL | NOW | REGEXP | array
array       := '[' (operand (',' operand)*)? ']'
```
-/

namespace RecordQuery

/-- What the grammar allows at a place where something else is found. -/
inductive Expected where
  | connectiveOrEnd
  | closingParen
  | comparisonOrConnective
  | regexp
  | string
  | arrayStringOrKey
  | operand
  | finiteNumber
  | commaOrClosingBracket
  deriving DecidableEq

def Expected.describe : Expected → String
  | .connectiveOrEnd => "AND, OR or end of input"
  | .closingParen => "')'"
  | .comparisonOrConnective => "comparison operator, AND, OR, ')' or end of input"
  | .regexp => "REGEXP"
  | .string => "STRING"
  | .arrayStringOrKey => "ARRAY, STRING or KEY"
  | .operand => "KEY, STRING, NUMBER, BOOLEAN, NULL, NOW, REGEXP or '['"
  | .finiteNumber => "finite NUMBER"
  | .commaOrClosingBracket => "',' or ']'"

inductive SyntaxError where
  | lexical (error : LexError)
  | unexpectedToken (expected : Expected) (found : Token)
  | unexpectedEnd (expected : Expected)
  deriving DecidableEq

def SyntaxError.message : SyntaxError → String
  | .lexical error => error.message
  | .unexpectedToken expected found =>
      s!"expected {expected.describe}, found {found.kind.describe} " ++
        s!"'{found.lexeme}' at offset {found.offset}"
  | .unexpectedEnd expected => s!"expected {expected.describe}, found end of input"

namespace TokenStream

def endOffset (stream : TokenStream) : Nat :=
  match stream.ending with
  | .complete offset => offset
  | .failed error => error.offset

/-- The token in front; behind the last token it is the end of input. -/
def current (stream : TokenStream) : Token :=
  match stream.tokens with
  | token :: _ => token
  | [] => ⟨.endOfInput, "", stream.endOffset⟩

end TokenStream

/-- A parser takes tokens off the front of a stream; a failure leaves the stream where it arose. -/
abbrev Parse (α : Type) := EStateM SyntaxError TokenStream α

namespace Parse

def current : Parse Token := do
  return (← get).current

def remaining : Parse Nat := do
  return (← get).tokens.length

def unexpected {α : Type} (expected : Expected) : Parse α := do
  let token ← current
  if token.kind = .endOfInput then throw (.unexpectedEnd expected)
  else throw (.unexpectedToken expected token)

/--
Take the token in front.  The token behind it has to be there: where no token
starts behind the last one, taking that one fails.
-/
def advance : Parse Token := fun stream =>
  match stream.tokens with
  | [] => .ok stream.current stream
  | token :: rest =>
      match rest, stream.ending with
      | [], .failed error => .error (.lexical error) stream
      | _, _ => .ok token { stream with tokens := rest }

def expect (kind : TokenKind) (expected : Expected) : Parse Token := do
  if (← current).kind = kind then advance else unexpected expected

/-- The path that a key token names; only a key in backticks is decoded. -/
def keyPath (lexeme : String) : String :=
  if lexeme.toList.head? = some '\x60' then Literal.unquote lexeme else lexeme

def finiteNumber? (lexeme : String) : Option Binary64 :=
  match Numeral.split? lexeme.toList with
  | some (n, _) => if n.toBinary64.isFinite then some n.toBinary64 else none
  | none => none

def isTrue (lexeme : String) : Bool :=
  lexeme.toList.map Char.toLower == ['t', 'r', 'u', 'e']

/-- Items separated by commas up to the closing bracket, at most `fuel` more of them. -/
def items (item : Parse Expr) : Nat → Parse (List Expr)
  | 0 => return [← item]
  | fuel + 1 => do
      let first ← item
      if (← current).kind = .comma then
        let _ ← advance
        return first :: (← items item fuel)
      else
        let _ ← expect .rightBracket .commaOrClosingBracket
        return [first]

def arrayRest (item : Parse Expr) : Parse Expr := do
  if (← current).kind = .rightBracket then
    let _ ← advance
    return .array []
  else return .array (← items item (← remaining))

def leaf (operand : Expr) : Parse Expr := do
  let _ ← advance
  return operand

def operandWith (array : Parse Expr) : Parse Expr := do
  let token ← current
  match token.kind with
  | .key => leaf (.field (keyPath token.lexeme))
  | .string => leaf (.string token.lexeme)
  | .regexp => leaf (.regexp token.lexeme)
  | .number =>
      match finiteNumber? token.lexeme with
      | some x => leaf (.number x)
      | none => unexpected .finiteNumber
  | .boolean => leaf (.boolean (isTrue token.lexeme))
  | .null => leaf .null
  | .now => leaf .now
  | .leftBracket => array
  | _ => unexpected .operand

def operandWithin : Nat → Parse Expr
  | 0 => operandWith (unexpected .operand)
  | depth + 1 =>
      operandWith do
        let _ ← advance
        arrayRest (operandWithin depth)

def operand : Parse Expr := do
  operandWithin (← remaining)

def comparison? : TokenKind → Option Comparison
  | .equal => some .equal
  | .notEqual => some .notEqual
  | .less => some .less
  | .lessEqual => some .lessEqual
  | .greater => some .greater
  | .greaterEqual => some .greaterEqual
  | .contains => some .contains
  | .within => some .within
  | .like => some .like
  | .matches => some .matches
  | _ => none

/-- Whether a token may follow an operand that is a condition by itself. -/
def endsCondition : TokenKind → Bool
  | .and | .or | .rightParen | .endOfInput => true
  | _ => false

def rightOperand : Comparison → Parse Expr
  | .matches => do return .regexp (← expect .regexp .regexp).lexeme
  | .like => do return .string (← expect .string .string).lexeme
  | .within => do
      match (← current).kind with
      | .leftBracket | .string | .key => operand
      | _ => unexpected .arrayStringOrKey
  | _ => operand

def condition : Parse Expr := do
  let left ← operand
  let kind := (← current).kind
  match comparison? kind with
  | some op => do
      let _ ← advance
      return .comparison op left (← rightOperand op)
  | none => if endsCondition kind then return left else unexpected .comparisonOrConnective

/-- A query in parentheses, or a condition. -/
def primary (nested : Parse Expr) : Parse Expr := do
  if (← current).kind = .leftParen then
    let _ ← advance
    let inner ← nested
    let _ ← expect .rightParen .closingParen
    return inner
  else condition

/-- A primary with at most one negation in front. -/
def unary (nested : Parse Expr) : Parse Expr := do
  if (← current).kind = .not then
    let _ ← advance
    return .not (← primary nested)
  else primary nested

/-- Further items behind `left`, joined to it from the left, at most `fuel` of them. -/
def chain (kind : TokenKind) (op : Connective) (item : Parse Expr) : Nat → Expr → Parse Expr
  | 0, left => return left
  | fuel + 1, left => do
      if (← current).kind = kind then
        let _ ← advance
        let right ← item
        chain kind op item fuel (.logical op left right)
      else return left

def conjunction (nested : Parse Expr) : Parse Expr := do
  let first ← unary nested
  chain .and .and (unary nested) (← remaining) first

def disjunction (nested : Parse Expr) : Parse Expr := do
  let first ← conjunction nested
  chain .or .or (conjunction nested) (← remaining) first

def queryWithin : Nat → Parse Expr
  | 0 => unexpected .operand
  | depth + 1 => disjunction (queryWithin depth)

/-- A whole query; without tokens there is none. -/
def query : Parse (Option Expr) := do
  if (← current).kind = .endOfInput then return none
  else
    let tree ← queryWithin ((← remaining) + 1)
    let _ ← expect .endOfInput .connectiveOrEnd
    return some tree

end Parse

/-- The stream, unless not even a first token can be read. -/
def TokenStream.opened (stream : TokenStream) : Except SyntaxError TokenStream :=
  match stream.tokens, stream.ending with
  | [], .failed error => .error (.lexical error)
  | _, _ => .ok stream

def parse (dialect : Dialect) (text : String) : Except SyntaxError (Option Expr) := do
  let stream ← (tokenize dialect text).opened
  match Parse.query.run stream with
  | .ok tree _ => .ok tree
  | .error error _ => .error error

end RecordQuery
