import RecordQuery.Number.Numeral
import RecordQuery.Syntax.Token
import RecordQuery.Text.Characters

/-!
# Lexer

A table of token rules in order of priority, and the lexer that skips white
space and takes the first rule that applies.  A rule recognises a number of
characters at the front of a text.
-/

namespace RecordQuery

def isIdentifierChar (c : Char) : Bool :=
  c.isAlphanum || c == '_' || c == '.' || c == '-'

def isIdentifierStart (c : Char) : Bool :=
  c.isAlpha || c == '_'

namespace Recognise

def exactly (word : List Char) (cs : List Char) : Option Nat :=
  if word.isPrefixOf cs then some word.length else none

/--
Whether `c` spells the capital `letter` in some case.  Case folding gives K and
S a third form each, the Kelvin sign and the long s.
-/
def spells (letter c : Char) : Bool :=
  c == letter || c == letter.toLower || (letter == 'K' && c == '\u212A') ||
    (letter == 'S' && c == '\u017F')

/-- A word in capitals, spelled in any case. -/
def word : List Char → List Char → Option Nat
  | [], _ => some 0
  | _ :: _, [] => none
  | letter :: letters, c :: cs =>
      if spells letter c then (word letters cs).map (· + 1) else none

/-- The first of several words that is spelled at the front of the text. -/
def anyWord (words : List String) (cs : List Char) : Option Nat :=
  words.findSome? fun w => word w.toList cs

def numeral (cs : List Char) : Option Nat :=
  (Numeral.split? cs).map fun n => cs.length - n.2.length

def quotedRest (delimiter : Char) (escapable : List Char) : List Char → Option Nat
  | [] => none
  | c :: cs =>
      if c = delimiter then some 1
      else if c = '\\' then
        match cs with
        | 'u' :: a :: b :: c :: d :: cs =>
            if (Text.hexUnit? a b c d).isSome then (quotedRest delimiter escapable cs).map (· + 6)
            else none
        | e :: cs =>
            if escapable.contains e then (quotedRest delimiter escapable cs).map (· + 2) else none
        | [] => none
      else (quotedRest delimiter escapable cs).map (· + 1)

def quoted (delimiter : Char) (escapable : List Char) : List Char → Option Nat
  | [] => none
  | c :: cs => if c = delimiter then (quotedRest delimiter escapable cs).map (· + 1) else none

def stringEscapes : List Char :=
  ['"', '\'', '\\', '/', 'b', 'f', 'n', 'r', 't']

def keyEscapes : List Char :=
  ['\x60', '\\', '/', 'b', 'f', 'n', 'r', 't']

def string (cs : List Char) : Option Nat :=
  (quoted '"' stringEscapes cs).orElse fun _ => quoted '\'' stringEscapes cs

def key (cs : List Char) : Option Nat :=
  quoted '\x60' keyEscapes cs

/--
The characters up to the last slash of the line that does not stand directly
behind a backslash, where `before` is the character in front of the text.
-/
def lastSlash (before : Char) : List Char → Option Nat
  | [] => none
  | c :: cs =>
      if c = '\n' then none
      else
        match lastSlash c cs with
        | some n => some (n + 1)
        | none => if c = '/' ∧ before ≠ '\\' then some 1 else none

/-- A regular expression between slashes, as long as the line allows. -/
def regexp : List Char → Option Nat
  | '/' :: c :: cs =>
      if c = '\n' then none
      else
        match lastSlash c cs with
        | some n => some (n + 2)
        | none => if c = '/' then some 2 else none
  | _ => none

def identifier : List Char → Option Nat
  | [] => none
  | c :: cs =>
      if isIdentifierStart c then some ((cs.takeWhile isIdentifierChar).length + 1) else none

end Recognise

inductive RuleCondition where
  | always
  /-- No identifier character follows. -/
  | wholeWord
  /-- Bare identifiers are allowed. -/
  | extendedOnly
  deriving DecidableEq

structure Rule where
  kind : TokenKind
  condition : RuleCondition
  recognise : List Char → Option Nat

namespace Rule

def symbol (kind : TokenKind) (text : String) : Rule :=
  ⟨kind, .always, Recognise.exactly text.toList⟩

def keyword (kind : TokenKind) (words : List String) : Rule :=
  ⟨kind, .wholeWord, Recognise.anyWord words⟩

def admits (rule : Rule) (dialect : Dialect) (rest : List Char) : Bool :=
  match rule.condition with
  | .always => true
  | .wholeWord => !rest.head?.any isIdentifierChar
  | .extendedOnly => decide (dialect = .extended)

/-- How many characters the rule takes off the front of `cs`, if it applies. -/
def length? (rule : Rule) (dialect : Dialect) (cs : List Char) : Option Nat :=
  (rule.recognise cs).filter fun n => rule.admits dialect (cs.drop n)

end Rule

/--
The token rules, the first that applies being taken.  Operators stand before
their own beginnings and keywords before bare identifiers.
-/
def tokenRules : List Rule :=
  [⟨.number, .always, Recognise.numeral⟩,
    .keyword .boolean ["TRUE", "FALSE"],
    .keyword .null ["NULL", "NONE", "NIL"],
    .keyword .now ["NOW"],
    ⟨.string, .always, Recognise.string⟩,
    ⟨.key, .always, Recognise.key⟩,
    .symbol .leftParen "(",
    .symbol .rightParen ")",
    .symbol .leftBracket "[",
    .symbol .rightBracket "]",
    .symbol .notEqual "!=",
    .symbol .notEqual "<>",
    .symbol .equal "==",
    .symbol .lessEqual "<=",
    .symbol .greaterEqual ">=",
    .symbol .less "<",
    .symbol .greater ">",
    .keyword .like ["LIKE"],
    .keyword .matches ["MATCH"],
    .keyword .contains ["CONTAINS", "CONTAIN"],
    .keyword .within ["IN"],
    .keyword .or ["OR"],
    .keyword .and ["AND"],
    .keyword .not ["NOT"],
    .symbol .comma ",",
    ⟨.regexp, .always, Recognise.regexp⟩,
    ⟨.key, .extendedOnly, Recognise.identifier⟩]

def tokenAt? (dialect : Dialect) (cs : List Char) : Option (TokenKind × Nat) :=
  tokenRules.findSome? fun rule => (rule.length? dialect cs).map (rule.kind, ·)

/-- A text being lexed: what is left of it, where that stands, and whether iteration has ended. -/
structure Lexer where
  dialect : Dialect
  rest : List Char
  offset : Nat
  finished : Bool

namespace Lexer

def ofText (dialect : Dialect) (text : String) : Lexer :=
  ⟨dialect, text.toList, 0, false⟩

def drop (lexer : Lexer) (n : Nat) : Lexer :=
  { lexer with
    rest := lexer.rest.drop n
    offset := lexer.offset + Text.utf8Length (lexer.rest.take n) }

def skipWhiteSpace (lexer : Lexer) : Lexer :=
  lexer.drop (lexer.rest.takeWhile Text.isWhiteSpace).length

/--
The next token behind white space.  At the end of the text it is the
end-of-input token, again and again; at a character without a rule the error is
the same each time.
-/
def nextToken (lexer : Lexer) : Except LexError Token × Lexer :=
  let lexer := lexer.skipWhiteSpace
  match lexer.rest with
  | [] => (.ok ⟨.endOfInput, "", lexer.offset⟩, lexer)
  | c :: _ =>
      match tokenAt? lexer.dialect lexer.rest with
      | some (kind, n) =>
          (.ok ⟨kind, String.ofList (lexer.rest.take n), lexer.offset⟩, lexer.drop n)
      | none => (.error ⟨lexer.offset, c⟩, lexer)

def isLast : Except LexError Token → Bool
  | .ok token => decide (token.kind = .endOfInput)
  | .error _ => true

/-- One step of iteration, which ends behind the end-of-input token or an error. -/
def next? (lexer : Lexer) : Option (Except LexError Token) × Lexer :=
  if lexer.finished then (none, lexer)
  else
    let (result, lexer) := lexer.nextToken
    (some result, { lexer with finished := isLast result })

def streamWithin : Nat → Lexer → TokenStream
  | 0, lexer => ⟨[], .complete lexer.offset⟩
  | fuel + 1, lexer =>
      match lexer.nextToken with
      | (.error error, _) => ⟨[], .failed error⟩
      | (.ok token, lexer) =>
          if token.kind = .endOfInput then ⟨[], .complete token.offset⟩
          else
            let stream := streamWithin fuel lexer
            { stream with tokens := token :: stream.tokens }

def stream (lexer : Lexer) : TokenStream :=
  streamWithin (lexer.rest.length + 1) lexer

end Lexer

def tokenize (dialect : Dialect) (text : String) : TokenStream :=
  (Lexer.ofText dialect text).stream

end RecordQuery
