import RecordQuery.Json.Basic
import RecordQuery.Number.Notation

/-!
# Writing JSON

Compact text without spaces, and indented text with one item a line.
-/

namespace RecordQuery

namespace Json

def hexDigit (n : Nat) : Char :=
  Nat.digitChar (n % 16)

/-- A character inside a string: quotes, backslashes and control characters are escaped. -/
def escapeChar (c : Char) : List Char :=
  if c = '"' then ['\\', '"']
  else if c = '\\' then ['\\', '\\']
  else if c = '\x08' then ['\\', 'b']
  else if c = '\x0c' then ['\\', 'f']
  else if c = '\n' then ['\\', 'n']
  else if c = '\r' then ['\\', 'r']
  else if c = '\t' then ['\\', 't']
  else if c.toNat < 32 then
    ['\\', 'u', '0', '0', hexDigit (c.toNat / 16), hexDigit c.toNat]
  else [c]

def stringText (text : String) : List Char :=
  '"' :: text.toList.flatMap escapeChar ++ ['"']

def integerText (n : Int) : List Char :=
  (if n < 0 then ['-'] else []) ++ Nat.toDigits 10 n.natAbs

/--
A decimal with the mark of a non-integer: positional from `1e-5` up to `1e16`,
with `.0` behind an integer, and scientific outside that range.
-/
def decimalText (d : Decimal) : List Char :=
  if -5 < d.order ∧ d.order ≤ 16 then
    d.positional ++ (if 0 ≤ d.exponent then ['.', '0'] else [])
  else d.scientific

/-- A binary number; what is not finite has no JSON form and becomes `null`. -/
def floatText (x : Binary64) : List Char :=
  if !x.isFinite then "null".toList
  else
    (if x.isNegative then ['-'] else []) ++
      (if x.isZero then ['0', '.', '0']
      else decimalText (Decimal.shortest .even (x.withSign false)))

mutual

def compact : Json → List Char
  | .null => "null".toList
  | .boolean b => if b then "true".toList else "false".toList
  | .integer n => integerText n
  | .float x => floatText x
  | .string text => stringText text
  | .array items => '[' :: compactItems items ++ [']']
  | .object entries => '\x7b' :: compactEntries entries ++ ['\x7d']

def compactItems : List Json → List Char
  | [] => []
  | [item] => compact item
  | item :: items => compact item ++ ',' :: compactItems items

def compactEntries : List (String × Json) → List Char
  | [] => []
  | [(key, value)] => stringText key ++ ':' :: compact value
  | (key, value) :: entries =>
      stringText key ++ ':' :: compact value ++ ',' :: compactEntries entries

end

/-- A line break and the indentation of the given depth, two spaces a level. -/
def newLine (depth : Nat) : List Char :=
  '\n' :: List.replicate (2 * depth) ' '

mutual

def indented (depth : Nat) : Json → List Char
  | .array (item :: items) =>
      '[' :: newLine (depth + 1) ++ indented (depth + 1) item ++
        indentedItems (depth + 1) items ++ newLine depth ++ [']']
  | .object ((key, value) :: entries) =>
      '\x7b' :: newLine (depth + 1) ++ stringText key ++ ':' :: ' ' :: indented (depth + 1) value ++
        indentedEntries (depth + 1) entries ++ newLine depth ++ ['\x7d']
  | value => compact value

/-- The items after the first, each behind a comma on a line of its own. -/
def indentedItems (depth : Nat) : List Json → List Char
  | [] => []
  | item :: items =>
      ',' :: newLine depth ++ indented depth item ++ indentedItems depth items

def indentedEntries (depth : Nat) : List (String × Json) → List Char
  | [] => []
  | (key, value) :: entries =>
      ',' :: newLine depth ++ stringText key ++ ':' :: ' ' :: indented depth value ++
        indentedEntries depth entries

end

def render (pretty : Bool) (document : Json) : String :=
  String.ofList (if pretty then indented 0 document else compact document)

end Json

end RecordQuery
