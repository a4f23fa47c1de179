import RecordQuery.Number.Notation
import RecordQuery.Syntax.Expr
import RecordQuery.Syntax.Lexer

/-!
# Canonical text

The canonical text of a query, with parentheses around every negated and every
logical operation.
-/

namespace RecordQuery

/-- The words that are never bare identifiers, in lower case. -/
def reservedWords : List String :=
  ["and", "or", "not", "in", "like", "match", "contains", "contain", "true", "false", "null",
    "none", "nil", "now"]

/-- Whether a path can be written without backticks. -/
def isBareKey (path : List Char) : Bool :=
  match path with
  | [] => false
  | c :: cs =>
      isIdentifierStart c && cs.all isIdentifierChar &&
        !reservedWords.contains (String.ofList (path.map Char.toLower))

/-- A path in backticks, with backticks and backslashes escaped. -/
def backticked (path : List Char) : List Char :=
  '\x60' :: path.flatMap (fun c => if c = '\x60' ∨ c = '\\' then ['\\', c] else [c]) ++ ['\x60']

namespace Expr

mutual

def canonicalChars : Expr → List Char
  | .number x => x.positional
  | .boolean b => if b then "TRUE".toList else "FALSE".toList
  | .null => "NULL".toList
  | .now => "NOW".toList
  | .string raw => raw.toList
  | .regexp raw => raw.toList
  | .array items => '[' :: canonicalItems items ++ [']']
  | .field path => if isBareKey path.toList then path.toList else backticked path.toList
  | .not operand => "NOT (".toList ++ canonicalChars operand ++ [')']
  | .comparison op left right =>
      canonicalChars left ++ ' ' :: op.symbol.toList ++ ' ' :: canonicalChars right
  | .logical op left right =>
      '(' :: canonicalChars left ++ ' ' :: op.symbol.toList ++ ' ' :: canonicalChars right ++ [')']

def canonicalItems : List Expr → List Char
  | [] => []
  | [item] => canonicalChars item
  | item :: items => canonicalChars item ++ ',' :: ' ' :: canonicalItems items

end

def canonical (tree : Expr) : String :=
  String.ofList tree.canonicalChars

end Expr

end RecordQuery
