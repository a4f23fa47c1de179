/-!
# Tokens

The kinds of lexical tokens, and tokens with their text and place.
-/

namespace RecordQuery

/-- Which spellings of a field reference are accepted. -/
inductive Dialect where
  /-- Keys in backticks and bare identifiers. -/
  | extended
  /-- Keys in backticks only. -/
  | strict
  deriving DecidableEq

inductive TokenKind where
  | number
  | boolean
  | null
  | now
  | string
  | key
  | regexp
  | leftParen
  | rightParen
  | leftBracket
  | rightBracket
  | comma
  | equal
  | notEqual
  | less
  | lessEqual
  | greater
  | greaterEqual
  | like
  | matches
  | contains
  | within
  | and
  | or
  | not
  | endOfInput
  deriving DecidableEq

def TokenKind.describe : TokenKind → String
  | .number => "NUMBER"
  | .boolean => "BOOLEAN"
  | .null => "NULL"
  | .now => "NOW"
  | .string => "STRING"
  | .key => "KEY"
  | .regexp => "REGEXP"
  | .leftParen => "'('"
  | .rightParen => "')'"
  | .leftBracket => "'['"
  | .rightBracket => "']'"
  | .comma => "','"
  | .equal => "'=='"
  | .notEqual => "'!='"
  | .less => "'<'"
  | .lessEqual => "'<='"
  | .greater => "'>'"
  | .greaterEqual => "'>='"
  | .like => "LIKE"
  | .matches => "MATCH"
  | .contains => "CONTAINS"
  | .within => "IN"
  | .and => "AND"
  | .or => "OR"
  | .not => "NOT"
  | .endOfInput => "end of input"

/-- A token: its kind, its text as written, and the byte offset of its first character. -/
structure Token where
  kind : TokenKind
  lexeme : String
  offset : Nat
  deriving DecidableEq

/-- A character at which no token starts. -/
structure LexError where
  offset : Nat
  found : Char
  deriving DecidableEq

def LexError.message (error : LexError) : String :=
  s!"unexpected character '{error.found}' at offset {error.offset}"

inductive Ending where
  /-- The text is used up at the given byte offset. -/
  | complete (offset : Nat)
  /-- No token starts at the next character. -/
  | failed (error : LexError)
  deriving DecidableEq

structure TokenStream where
  tokens : List Token
  ending : Ending
  deriving DecidableEq

end RecordQuery
